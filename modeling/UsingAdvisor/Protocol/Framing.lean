import UsingAdvisor.Bytes

/-!
# Framing

How messages follow one another in a stream of bytes. A header of lines tells how many bytes the body
has, an empty line ends the header, and the body follows at once. Lines of the header that tell
something else are passed over.
-/

namespace UsingAdvisor.Protocol

/-- The name of the header field that tells the length of the body. -/
def lengthField : Text :=
  "Content-Length".toList

/-- A body with its header. -/
def frame (body : Text) : Bytes :=
  let bytes := Bytes.ofText body
  Bytes.ofText (lengthField ++ (": ".toList ++
    (Text.ofNat bytes.length ++ ['\r', '\n', '\r', '\n']))) ++ bytes

/-- The number that decimal digits write. -/
def decimalValue? (digits : Text) : Option Nat :=
  if digits ≠ [] ∧ digits.all Char.isDigit then
    some (digits.foldl (fun n c => 10 * n + (c.toNat - '0'.toNat)) 0)
  else none

/-- What a line of a header tells. -/
inductive HeaderLine where
  /-- The number of bytes of the body. -/
  | length (bytes : Nat)
  | other
  /-- The header is over. -/
  | blank
  deriving DecidableEq, Repr

/-- What a line of a header tells, its line break included. The case of a field's name and the spaces
around its value do not matter. -/
def HeaderLine.ofText (line : Text) : HeaderLine :=
  let content := line.filter fun c => c != ' ' && c != '\r' && c != '\n'
  if content = [] then blank
  else if (content.takeWhile (· != ':')).map Char.toLower = lengthField.map Char.toLower then
    match decimalValue? ((content.dropWhile (· != ':')).drop 1) with
    | some bytes => length bytes
    | none => other
  else other

end UsingAdvisor.Protocol
