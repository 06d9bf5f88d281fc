import UsingAdvisor.Document.Line

/-!
# Positions

An editor names a place in a document by its line and by the number of UTF-16 units in front of it on
that line. A position that names no place is read as the nearest place before it: past the end of a
line it lies in front of the line break, inside the two units of a character in front of that
character, and below the last line at the end of the document.
-/

namespace UsingAdvisor.Document

/-- A line, counted from zero, and a column in UTF-16 units. -/
structure Position where
  line : Nat
  character : Nat
  deriving DecidableEq, Repr

/-- The stretch between two positions. -/
structure Range where
  start : Position
  stop : Position
  deriving DecidableEq, Repr

/-- The number of UTF-16 units of a character: two above U+FFFF. -/
def units (c : Char) : Nat :=
  if c.toNat < 0x10000 then 1 else 2

/-- The number of characters at the front of `content` that fit into a number of units. -/
def column : (content : Text) → (room : Nat) → Nat
  | [], _ => 0
  | c :: content, room =>
    if units c ≤ room then column content (room - units c) + 1 else 0

/-- The number of characters in front of a position in a document that consists of these lines. -/
def offsetIn : List Line → (line character : Nat) → Nat
  | [], _, _ => 0
  | line :: _, 0, character => column line.content character
  | line :: rest, number + 1, character => line.text.length + offsetIn rest number character

/-- The number of characters in front of a position. -/
def offset (text : Text) (position : Position) : Nat :=
  offsetIn (lines text) position.line position.character

end UsingAdvisor.Document
