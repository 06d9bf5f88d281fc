/-!
# Text

Source text, names and messages are lists of characters, so that a recogniser is a function by
recursion on what is still to be read, and its rest is a tail of its input. This module holds the
readers that every recogniser is built from: a fixed word, a run of spaces and tabs, the part before
a word. Main statements: `dropFront?_eq_some_iff` (a fixed word is read exactly when it stands in
front) and `breakAt_append` (breaking a text loses nothing).
-/

namespace UsingAdvisor

/-- A piece of text, character by character. -/
abbrev Text := List Char

namespace Text

/-- The mark that an editor may put in front of a whole file to say that it is UTF-8. -/
def byteOrderMark : Char := '\uFEFF'

/-- The text without its byte-order mark. One mark is dropped, and only in front. -/
def stripMark : Text → Text
  | [] => []
  | c :: text => if c = byteOrderMark then text else c :: text

/-- What follows `word`, if the text starts with it. -/
def dropFront? : (word : Text) → Text → Option Text
  | [], text => some text
  | _ :: _, [] => none
  | w :: word, c :: text => if w = c then dropFront? word text else none

/-- A fixed word is read exactly when it stands in front. -/
theorem dropFront?_eq_some_iff {word text rest : Text} :
    dropFront? word text = some rest ↔ text = word ++ rest := by
  induction word generalizing text with
  | nil => simp [dropFront?]
  | cons w word ih =>
    cases text with
    | nil => simp [dropFront?]
    | cons c text =>
      by_cases h : w = c
      · simp [dropFront?, h, ih]
      · simp [dropFront?, h, Ne.symm h]

/-- Whether `word` stands in front of the text. -/
def startsWith (word text : Text) : Bool :=
  (dropFront? word text).isSome

/-- The text before the first occurrence of `word`, and the text from that occurrence on. Without
an occurrence everything is before it. -/
def breakAt (word : Text) : Text → Text × Text
  | [] => ([], [])
  | c :: text =>
    if startsWith word (c :: text) then ([], c :: text)
    else (c :: (breakAt word text).1, (breakAt word text).2)

/-- Breaking a text loses nothing. -/
@[simp]
theorem breakAt_append (word text : Text) :
    (breakAt word text).1 ++ (breakAt word text).2 = text := by
  induction text with
  | nil => rfl
  | cons c text ih =>
    simp only [breakAt]
    split
    · rfl
    · simpa using ih

/-- Split a text at every occurrence of a character. There is always at least one part. -/
def splitAt (separator : Char) : Text → List Text
  | [] => [[]]
  | c :: text =>
    if c = separator then [] :: splitAt separator text
    else match splitAt separator text with
      | [] => [[c]]
      | part :: parts => (c :: part) :: parts

/-- A space or a tab: what may stand between the words of one line. -/
def isBlank (c : Char) : Bool :=
  c == ' ' || c == '\t'

/-- The text without the spaces and tabs in front of it. -/
def dropBlanks (text : Text) : Text :=
  text.dropWhile isBlank

/-- What follows a run of at least one space or tab. -/
def dropBlanks? : Text → Option Text
  | [] => none
  | c :: text => if isBlank c then some (dropBlanks text) else none

/-- The decimal digits of a number. -/
def ofNat (n : Nat) : Text :=
  Nat.toDigits 10 n

/-- Texts one after another, with `separator` between neighbours. -/
def join (separator : Text) : List Text → Text
  | [] => []
  | [text] => text
  | text :: next :: rest => text ++ separator ++ join separator (next :: rest)

end Text

end UsingAdvisor
