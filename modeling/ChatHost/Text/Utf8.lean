import ChatHost.Bytes

/-!
# UTF-8

Texts as bytes and back. A byte string is the encoding of at most one text, and
byte strings that encode none are refused: nothing is replaced or skipped.

## Main definitions

* `utf8Encode`: The bytes of a text.
* `utf8Decode?`: The text that some bytes encode.

## Theorems

* `utf8Decode?_utf8Encode`: An encoded text is read back.
* `eq_utf8Encode_of_utf8Decode?`: Only the encoding of a text is read as it.
-/

namespace ChatHost

namespace Text

/-- The bytes of a text in UTF-8. -/
def utf8Encode (s : String) : Bytes :=
  s.toByteArray.data.toList

/-- The text that some bytes encode in UTF-8, if they do. -/
def utf8Decode? (bs : Bytes) : Option String :=
  String.fromUTF8? ⟨bs.toArray⟩

theorem length_utf8Encode (s : String) : (utf8Encode s).length = s.utf8ByteSize := by
  simp only [utf8Encode, Array.length_toList]
  rfl

/-- An encoded text is read back. -/
theorem utf8Decode?_utf8Encode (s : String) : utf8Decode? (utf8Encode s) = some s := by
  simp [utf8Decode?, utf8Encode, String.fromUTF8?, String.fromUTF8, s.isValidUTF8]

/-- Only the encoding of a text is read as that text. -/
theorem eq_utf8Encode_of_utf8Decode? (bs : Bytes) (s : String)
    (h : utf8Decode? bs = some s) : bs = utf8Encode s := by
  simp only [utf8Decode?, String.fromUTF8?] at h
  split at h
  · simp only [Option.some.injEq] at h
    subst h
    simp [utf8Encode, String.fromUTF8]
  · simp at h

end Text

end ChatHost
