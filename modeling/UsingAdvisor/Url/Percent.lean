import UsingAdvisor.Bytes

/-!
# Percent encoding

Inside a URL a byte may be written as a percent sign and two hexadecimal digits. Each part of a URL
has its own set of characters that must be written so; characters beyond ASCII always are, byte by
byte of their UTF-8 form. Decoding takes every well-formed escape and leaves other percent signs
standing.
-/

namespace UsingAdvisor.Url

/-- The uppercase hexadecimal digit of a number below sixteen. -/
def hexDigit (n : Nat) : Char :=
  (Nat.digitChar n).toUpper

/-- The value of a hexadecimal digit, in either case. -/
def hexValue? (c : Char) : Option Nat :=
  if '0' ≤ c ∧ c ≤ '9' then some (c.toNat - '0'.toNat)
  else if 'a' ≤ c ∧ c ≤ 'f' then some (c.toNat - 'a'.toNat + 10)
  else if 'A' ≤ c ∧ c ≤ 'F' then some (c.toNat - 'A'.toNat + 10)
  else none

/-- A byte as an escape. -/
def escapeByte (byte : UInt8) : Text :=
  ['%', hexDigit (byte.toNat / 16), hexDigit (byte.toNat % 16)]

/-- A text with the characters of a set, and those beyond ASCII, escaped. -/
def encode (mustEscape : Char → Bool) (text : Text) : Text :=
  text.flatMap fun c =>
    if 0x7F ≤ c.toNat || mustEscape c then (String.utf8EncodeChar c).flatMap escapeByte else [c]

/-- The bytes that a text with escapes stands for. -/
def decode : Text → Bytes
  | [] => []
  | '%' :: a :: b :: text =>
    match hexValue? a, hexValue? b with
    | some high, some low => UInt8.ofNat (high * 16 + low) :: decode text
    | _, _ => String.utf8EncodeChar '%' ++ decode (a :: b :: text)
  | c :: text => String.utf8EncodeChar c ++ decode text

/-- The control characters of ASCII. -/
def isControl (c : Char) : Bool :=
  c.toNat < 0x20 || c.toNat == 0x7F

/-- What is escaped in a fragment. -/
def inFragment (c : Char) : Bool :=
  isControl c || c ∈ [' ', '"', '<', '>', '\x60']

/-- What is escaped in a path. -/
def inPath (c : Char) : Bool :=
  inFragment c || c ∈ ['#', '?', '\x7b', '\x7d']

/-- What is escaped in a user name and password. -/
def inUserInfo (c : Char) : Bool :=
  inPath c || c ∈ ['/', ':', ';', '=', '@', '[', '\\', ']', '^', '|']

/-- What is escaped in a query. -/
def inQuery (c : Char) : Bool :=
  isControl c || c ∈ [' ', '"', '#', '<', '>']

/-- What is escaped in the query of a special scheme. -/
def inSpecialQuery (c : Char) : Bool :=
  inQuery c || c == '\''

end UsingAdvisor.Url
