import UsingAdvisor.Text.Lines
import UsingAdvisor.Text.Word

/-!
# Using directives

A directive imports a namespace: `using A.B;`, with `global` in front or `static` before the name if
the author wishes. An alias directive, `using X = A.B;`, imports nothing, but it does belong to the
list of directives at the top of a file. Directives are recognised line by line, a line feed being
the only line break. This module reads directives, writes them, and finds the line below the last
one at the margin.
-/

namespace UsingAdvisor

open Text

namespace Directive

/-- The optional first word of a directive. -/
def globalWord : Text := ['g', 'l', 'o', 'b', 'a', 'l']

/-- The word that every directive has. -/
def usingWord : Text := ['u', 's', 'i', 'n', 'g']

/-- The optional word before the name. -/
def staticWord : Text := ['s', 't', 'a', 't', 'i', 'c']

/-- What follows `word` and at least one space or tab after it. -/
def dropWord? (word text : Text) : Option Text :=
  (dropFront? word text).bind dropBlanks?

/-- What follows the opening of a directive: `using`, with or without `global` before it, and the
spaces and tabs after it. -/
def dropOpening? (line : Text) : Option Text :=
  dropWord? usingWord ((dropWord? globalWord line).getD line)

/-- Whether nothing but spaces and tabs stands before a semicolon. -/
def endsHere (text : Text) : Bool :=
  startsWith [';'] (dropBlanks text)

/-- The dotted name in front of the text, if the directive ends after it. -/
def readTarget? (text : Text) : Option Text :=
  match dottedName? text with
  | none => none
  | some (name, rest) => if endsHere rest then some name else none

/-- What follows an alias and its equals sign. -/
def dropAlias? (text : Text) : Option Text :=
  match wordRun text with
  | ([], _) => none
  | (_ :: _, rest) => (dropFront? ['='] (dropBlanks rest)).map dropBlanks

/-- What the directive names, if `text` follows the opening of an import. The word `static` is taken
as the optional word where a name follows it, and as the name itself otherwise. -/
def readImport? (text : Text) : Option Text :=
  ((dropWord? staticWord text).bind readTarget?).or (readTarget? text)

/-- The namespace that a line imports. The line may be indented. -/
def imported? (line : Text) : Option Text :=
  (dropOpening? (dropBlanks line)).bind readImport?

/-- The places where the target of a directive may start, if `text` follows its opening: with or
without `static`, and with or without an alias after that. -/
def targetPlaces (text : Text) : List Text :=
  let places := text :: (dropWord? staticWord text).toList
  places ++ places.filterMap dropAlias?

/-- Whether a line holds a directive at the margin. Alias directives count. -/
def isTopLevel (line : Text) : Bool :=
  match dropOpening? line with
  | none => false
  | some rest => (targetPlaces rest).any fun place => (readTarget? place).isSome

/-- The directive that imports a namespace, with the line ending after it. -/
def write (target ending : Text) : Text :=
  usingWord ++ ' ' :: (target ++ ';' :: ending)

/-- The number of the line where a new directive belongs: just below the last directive at the
margin, and the first line of a text that has none. Lines are counted from zero. -/
def insertionLine (text : Text) : Nat :=
  countThroughLast isTopLevel (lines (stripMark text))

/-- The namespaces that a text imports, line by line, wherever the directives stand. -/
def imports (text : Text) : List Text :=
  (lines (stripMark text)).filterMap imported?

end Directive

end UsingAdvisor
