import ChatHost.Text.Lowercase

/-!
# Environments and Log Formats

The two settings that are words, in any capitalisation, and what follows from
them for the log.

A host that is being developed logs more, and says where in the program and on
which thread; the format of the log is set on its own.

## Main definitions

* `Environment`: What a host is run for.
* `LogFormat`: Text for people or JSON for programs.
* `LogPreset`: What the log shows.
-/

namespace ChatHost

/-- What a host is run for. -/
inductive Environment
  | development
  | staging
  | production
  deriving DecidableEq

namespace Environment

/-- The environment that a word stands for, in any capitalisation. -/
def ofText (s : String) : Except String Environment :=
  let word := Text.lowercase s
  if word = "production" then .ok production
  else if word = "staging" then .ok staging
  else if word = "development" then .ok development
  else .error ("unknown environment '" ++ word ++ "'")

/-- Whether a host is in use. -/
def isProduction : Environment → Bool
  | production => true
  | _ => false

/-- Whether a host is being worked on. -/
def isDevelopment : Environment → Bool
  | development => true
  | _ => false

end Environment

/-- The format of the log. -/
inductive LogFormat
  | pretty
  | json
  deriving DecidableEq

namespace LogFormat

/-- The format that a word stands for, in any capitalisation. -/
def ofText (s : String) : Except String LogFormat :=
  let word := Text.lowercase s
  if word = "pretty" then .ok pretty
  else if word = "json" then .ok json
  else .error ("unknown log format '" ++ word ++ "'")

/-- The format of a host that does not set one. -/
def standard (environment : Environment) : LogFormat :=
  if environment.isProduction then json else pretty

end LogFormat

/-- How much is logged. -/
inductive LogLevel
  | info
  | debug
  deriving DecidableEq

/-- What the log shows. -/
structure LogPreset where
  level : LogLevel
  json : Bool
  spanEvents : Bool
  fileAndLine : Bool
  threadNames : Bool
  deriving DecidableEq

namespace LogPreset

/-- The log of a program that sets nothing. -/
def standard : LogPreset :=
  { level := .info, json := false, spanEvents := false, fileAndLine := true,
    threadNames := false }

/-- The log of a host that is being worked on. -/
def development : LogPreset :=
  { level := .debug, json := false, spanEvents := false, fileAndLine := true,
    threadNames := true }

/-- The log of a host that is in use. -/
def production : LogPreset :=
  { level := .info, json := true, spanEvents := false, fileAndLine := false,
    threadNames := false }

/-- The log of a host in an environment, in a format. -/
def ofSettings (environment : Environment) (format : LogFormat) : LogPreset :=
  let base := if environment.isDevelopment then development else production
  { base with json := decide (format = .json) }

end LogPreset

end ChatHost
