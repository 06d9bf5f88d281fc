import UsingAdvisor.Text

/-!
# Document lines

The lines of an open document, as an editor numbers them. A line feed, a carriage return and the
pair of both each end a line, and the pair ends one line and not two. These are the lines that
positions count; the readers of directives count line feeds alone (`Text.lines`). Main statement:
`lines_flatten` (the lines of a document, breaks included, are the document).
-/

namespace UsingAdvisor.Document

/-- What ends a line. -/
inductive Break where
  /-- The end of the document, which ends only its last line. -/
  | none
  | lineFeed
  | carriageReturn
  /-- A carriage return and a line feed, in that order. -/
  | pair
  deriving DecidableEq, Repr

/-- The characters of a line break. -/
def Break.text : Break → Text
  | none => []
  | lineFeed => ['\n']
  | carriageReturn => ['\r']
  | pair => ['\r', '\n']

/-- A line: its own characters, and the break after them. -/
structure Line where
  content : Text
  ending : Break
  deriving DecidableEq, Repr

/-- The characters of a line, its break included. -/
def Line.text (line : Line) : Text :=
  line.content ++ line.ending.text

/-- The lines with one more character in front of the first. -/
def consChar (c : Char) : List Line → List Line
  | [] => [⟨[c], .none⟩]
  | line :: rest => ⟨c :: line.content, line.ending⟩ :: rest

/-- The lines of a document. There is always a last one without a break, which may be empty. -/
def lines : Text → List Line
  | [] => [⟨[], .none⟩]
  | '\n' :: text => ⟨[], .lineFeed⟩ :: lines text
  | '\r' :: '\n' :: text => ⟨[], .pair⟩ :: lines text
  | '\r' :: text => ⟨[], .carriageReturn⟩ :: lines text
  | c :: text => consChar c (lines text)

/-- One more character in front of the first line is one more character in front of the text. -/
@[simp]
theorem consChar_flatten (c : Char) (rest : List Line) :
    ((consChar c rest).map Line.text).flatten = c :: (rest.map Line.text).flatten := by
  cases rest <;> simp [consChar, Line.text, Break.text]

/-- The lines of a document, breaks included, are the document. -/
@[simp]
theorem lines_flatten (text : Text) : ((lines text).map Line.text).flatten = text := by
  fun_induction lines text <;> simp_all [Line.text, Break.text]

/-- The characters of a numbered line, its break included. Past the last line there are none. -/
def lineText (text : Text) (number : Nat) : Text :=
  match (lines text)[number]? with
  | some line => line.text
  | none => []

end UsingAdvisor.Document
