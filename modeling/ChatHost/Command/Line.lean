import ChatHost.Command.Signature

/-!
# Command Lines

What the host is told to do, read from the arguments that it is called with.

The first argument names a command. The others are its arguments: options,
which begin with two dashes and may stand anywhere, and values, whose order
counts. An option that takes a value takes the next argument or what stands
behind an equals sign, and may be given once. Behind a bare `--` everything is a
value. A single dash is a value too; anything else that begins with a dash must
be an option that the command has.

Arguments are judged from the left, each as soon as it is read. Whoever asks
for help gets it only if nothing before was wrong; what comes after does not
matter then.

## Main definitions

* `Command`: What the host can be told to do.
* `Arguments.ofList`: Options and values told apart.
* `Command.ofArguments`: Reads a command line.
-/

namespace ChatHost

/-- What the host can be told to do. -/
inductive Command
  /-- Run all servers until interrupted, after adding some. -/
  | serve (memory : Bool) (create : Option Nat)
  /-- Add a server. -/
  | createServer
  /-- List the servers with their invitations. -/
  | listServers
  /-- Give a user of a server a role. -/
  | setRole (server : ServerId) (username : String) (role : Role)
  /-- List the users of a server, or those with a role. -/
  | listUsers (server : ServerId) (role : Option Role)
  deriving DecidableEq

/-- Why there is nothing to do. -/
inductive Usage
  /-- The user asked for help. -/
  | help
  /-- The user asked for the version. -/
  | version
  /-- The command line makes no sense. -/
  | wrong
  deriving DecidableEq

/-- How a program ends that has nothing to do. -/
def Usage.exitCode : Usage → UInt8
  | help | version => 0
  | wrong => 2

/-- The arguments of a command, told apart. -/
structure Arguments where
  /-- The options that were given, with their values. -/
  options : List (String × Option String) := []
  values : List String := []

namespace Arguments

/-- Whether an option was given. -/
def has (args : Arguments) (name : String) : Bool :=
  args.options.any fun entry => decide (entry.1 = name)

/-- The value of an option, if it was given with one. -/
def value? (args : Arguments) (name : String) : Option String :=
  (args.options.find? fun entry => decide (entry.1 = name)).bind (·.2)

/-- Whether an argument is a value even if nothing says so. -/
def isValue (arg : String) : Bool :=
  match arg.toList with
  | '-' :: _ :: _ => false
  | _ => true

/-- The name of a long option and the value behind its equals sign. -/
def splitOption (name : List Char) : String × Option String :=
  match name.dropWhile (· != '=') with
  | [] => (String.ofList name, none)
  | _ :: value => (String.ofList (name.takeWhile (· != '=')), some (String.ofList value))

/-- An option is given, with its value if it takes one. -/
def addOption (args : Arguments) (option : CommandOption) (value : Option String) :
    Except Usage Arguments :=
  let fits := match option.parameter, value with
    | none, none => true
    | some parameter, some value => parameter.accepts value
    | _, _ => false
  if args.has option.name || !fits then .error .wrong
  else .ok { args with options := args.options ++ [(option.name, value)] }

/-- A value is given: the next that the command takes. -/
def addValue (signature : Signature) (args : Arguments) (value : String) :
    Except Usage Arguments :=
  match signature.parameters[args.values.length]? with
  | some parameter =>
    if parameter.accepts value then .ok { args with values := args.values ++ [value] }
    else .error .wrong
  | none => .error .wrong

/-- Tells the arguments of a command apart, from the left. -/
def read (signature : Signature) (args : Arguments) : List String → Except Usage Arguments
  | [] => .ok args
  | arg :: rest =>
    match arg.toList with
    | ['-', '-'] => rest.foldlM (addValue signature) args
    | '-' :: '-' :: name =>
      match splitOption name, rest with
      | ("help", none), _ => .error .help
      | (name, given), rest =>
        match signature.option? name with
        | none => .error .wrong
        | some option =>
          match option.parameter, given, rest with
          | some _, none, value :: rest =>
            if isValue value then
              match args.addOption option (some value) with
              | .error usage => .error usage
              | .ok args => read signature args rest
            else .error .wrong
          | _, given, rest =>
            match args.addOption option given with
            | .error usage => .error usage
            | .ok args => read signature args rest
    -- Short options may stand together, and the first one is judged first.
    | '-' :: 'h' :: _ => .error .help
    | '-' :: _ :: _ => .error .wrong
    | _ =>
      match addValue signature args arg with
      | .error usage => .error usage
      | .ok args => read signature args rest

/-- Tells the arguments of a command apart. All its values must be given. -/
def ofList (signature : Signature) (list : List String) : Except Usage Arguments := do
  let args ← read signature {} list
  if args.values.length < signature.parameters.length then .error .wrong else .ok args

end Arguments

namespace Command

/-- The value of an option, read; or nothing if it was not given. -/
def optional {α : Type} (read? : String → Option α) : Option String → Except Usage (Option α)
  | none => .ok none
  | some s =>
    match read? s with
    | some value => .ok (some value)
    | none => .error .wrong

/-- The arguments of running all servers. -/
def readServe (rest : List String) : Except Usage Command := do
  let args ← Arguments.ofList .serve rest
  let create ← optional Parameter.count? (args.value? "create")
  return serve (args.has "memory") create

/-- The arguments of a command that takes none. -/
def readBare (signature : Signature) (command : Command) (rest : List String) :
    Except Usage Command := do
  let _ ← Arguments.ofList signature rest
  return command

/-- The arguments of giving a role. -/
def readSetRole (rest : List String) : Except Usage Command := do
  let args ← Arguments.ofList .setRole rest
  match args.values with
  | [server, username, role] =>
    match Parameter.serverId? server, Role.ofText? role with
    | some server, some role => .ok (setRole server username role)
    | _, _ => .error .wrong
  | _ => .error .wrong

/-- The arguments of listing users. -/
def readListUsers (rest : List String) : Except Usage Command := do
  let args ← Arguments.ofList .listUsers rest
  let role ← optional Role.ofText? (args.value? "role")
  match args.values with
  | [server] =>
    match Parameter.serverId? server with
    | some server => .ok (listUsers server role)
    | none => .error .wrong
  | _ => .error .wrong

/-- What comes of asking for help on what is named. No command has commands of
    its own, so at most one name can stand there. -/
def readHelp : List String → Usage
  | [] => .help
  | [name] =>
    if name = "help" || Signature.all.any (·.name = name) then .help else .wrong
  | _ :: _ :: _ => .wrong

/-- What is asked for by an option in place of a command. -/
def readFront (arg : String) : Usage :=
  match arg.toList with
  | '-' :: 'h' :: _ => .help
  | '-' :: 'V' :: _ => .version
  | _ =>
    if arg = "--help" then .help
    else if arg = "--version" then .version
    else .wrong

/-- Reads a command line. -/
def ofArguments : List String → Except Usage Command
  | [] => .error .wrong
  | name :: rest =>
    if name = "serve" then readServe rest
    else if name = "create-server" then readBare .createServer createServer rest
    else if name = "list-servers" then readBare .listServers listServers rest
    else if name = "set-role" then readSetRole rest
    else if name = "list-users" then readListUsers rest
    else if name = "help" then .error (readHelp rest)
    else .error (readFront name)

end Command

end ChatHost
