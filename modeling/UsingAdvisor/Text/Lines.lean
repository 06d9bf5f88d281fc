import UsingAdvisor.Text

/-!
# Lines ended by line feeds

The lines of a text as the readers of directives see them: separated by line feeds alone, so that a
carriage return belongs to the line it stands on. A text with `n` line feeds has `n + 1` lines.
-/

namespace UsingAdvisor.Text

/-- The lines of a text, without the line feeds between them. -/
def lines : Text → List Text
  | [] => [[]]
  | c :: text =>
    if c = '\n' then [] :: lines text
    else match lines text with
      | [] => [[c]]
      | line :: rest => (c :: line) :: rest

/-- Every text has a first line. -/
theorem lines_ne_nil (text : Text) : lines text ≠ [] := by
  cases text with
  | nil => simp [lines]
  | cons c text =>
    simp only [lines]
    split
    · simp
    · split <;> simp

/-- A line feed ends the line in front of it. -/
@[simp]
theorem lines_lineFeed (text : Text) : lines ('\n' :: text) = [] :: lines text := by
  simp [lines]

/-- One more than the index of the last line that `accept` accepts, and zero if none is. -/
def countThroughLast (accept : Text → Bool) : List Text → Nat
  | [] => 0
  | line :: rest =>
    match countThroughLast accept rest with
    | 0 => if accept line then 1 else 0
    | below + 1 => below + 2

/-- How a text ends its lines. -/
inductive LineEnding where
  /-- A line feed alone. -/
  | lineFeed
  /-- A carriage return and a line feed. -/
  | carriageReturnLineFeed
  deriving DecidableEq, Repr

/-- The characters of a line ending. -/
def LineEnding.text : LineEnding → Text
  | .lineFeed => ['\n']
  | .carriageReturnLineFeed => ['\r', '\n']

/-- The ending of the first line that a line feed ends. A text without line feeds counts as one
that uses line feeds alone. -/
def lineEnding : Text → LineEnding
  | [] => .lineFeed
  | '\n' :: _ => .lineFeed
  | '\r' :: '\n' :: _ => .carriageReturnLineFeed
  | _ :: text => lineEnding text

end UsingAdvisor.Text
