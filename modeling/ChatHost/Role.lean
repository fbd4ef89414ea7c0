import ChatHost.Text.Lowercase

/-!
# Roles

What a user of a hosted server may do there. The store keeps a role as a
number, people write it as a word in any capitalisation.

## Main definitions

* `Role`: Member or administrator.
* `Role.code`, `Role.ofCode?`: The number that the store keeps.
* `Role.text`, `Role.ofText?`: The word.
-/

namespace ChatHost

/-- What a user may do on a hosted server. -/
inductive Role
  | member
  | admin
  deriving DecidableEq

namespace Role

instance : Inhabited Role := ⟨member⟩

/-- The number of a role in the store. -/
def code : Role → Int
  | member => 0
  | admin => 1

/-- The role with a given number. -/
def ofCode? (n : Int) : Option Role :=
  if n = 0 then some member else if n = 1 then some admin else none

/-- The word for a role. -/
def text : Role → String
  | member => "member"
  | admin => "admin"

/-- The role that a word stands for, in any capitalisation. -/
def ofText? (s : String) : Option Role :=
  let word := Text.lowercase s
  if word = "member" then some member else if word = "admin" then some admin else none

/-- Whether a role is the administrator's. -/
def isAdmin : Role → Bool
  | member => false
  | admin => true

/-- What is said to somebody who names a role that is none. -/
def unknownText (s : String) : String := "Invalid role: " ++ s

@[simp] theorem ofCode?_code (role : Role) : ofCode? role.code = some role := by
  cases role <;> decide

end Role

end ChatHost
