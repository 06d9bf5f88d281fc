import UsingAdvisor.Text

/-!
# Bytes

File names and file contents are bytes, which need not be UTF-8. This module holds the passage
between bytes and text in both directions.
-/

namespace UsingAdvisor

/-- A sequence of bytes. -/
abbrev Bytes := List UInt8

namespace Bytes

/-- The UTF-8 form of a text. -/
def ofText (text : Text) : Bytes :=
  text.flatMap String.utf8EncodeChar

/-- The text that the bytes are the UTF-8 form of, if they are one. -/
def toText? (bytes : Bytes) : Option Text :=
  (ByteArray.mk bytes.toArray).utf8Decode?.map Array.toList

/-- A byte with an ASCII capital letter made small. Other bytes are left as they are. -/
def lower (byte : UInt8) : UInt8 :=
  if 0x41 ≤ byte ∧ byte ≤ 0x5A then byte + 0x20 else byte

/-- Whether two byte sequences differ at most in the case of ASCII letters. -/
def equalIgnoringCase (first second : Bytes) : Bool :=
  first.map lower == second.map lower

end Bytes

end UsingAdvisor
