import ChatHost.Fault
import ChatHost.Text.Blank

/-!
# Names

Names of users and channels. A name travels in a field of fixed size, so it has
at most as many bytes in UTF-8 as the field; that bound is part of the type. A
name may be blank or hold any character: whoever needs more than that asks for
it with `ofNonBlank`.

## Main definitions

* `Name`: A text of at most `Name.capacity` bytes.
* `Name.ofText`: A text as a name, unless it is too long.
* `Name.ofNonBlank`: The same for names that must say something.
-/

namespace ChatHost

/-- The size of the field that a name travels in. -/
def Name.capacity : Nat := 20

/-- A text of at most `Name.capacity` bytes. -/
structure Name where
  text : String
  fits : text.utf8ByteSize ≤ Name.capacity
  deriving DecidableEq

namespace Name

/-- A text as a name, unless it is too long. -/
def ofText (s : String) : Except Fault Name :=
  if h : s.utf8ByteSize ≤ capacity then .ok ⟨s, h⟩
  else .error (.nameTooLong s.utf8ByteSize capacity)

/-- The name of no characters. -/
def empty : Name := ⟨"", by decide⟩

instance : Inhabited Name := ⟨empty⟩

/-- The count of bytes of a name. -/
def size (name : Name) : Nat := name.text.utf8ByteSize

/-- Whether a name has no characters. -/
def isEmpty (name : Name) : Bool := name.size == 0

/-- Whether a name has no characters other than blanks. -/
def isBlank (name : Name) : Bool := Text.isAllBlank name.text

/-- A text as a name that must say something. -/
def ofNonBlank (s : String) : Except Fault Name :=
  match ofText s with
  | .error fault => .error fault
  | .ok name => if name.isBlank then .error .emptyName else .ok name

theorem ofText_text (name : Name) : ofText name.text = .ok name := by
  simp [ofText, name.fits]

end Name

end ChatHost
