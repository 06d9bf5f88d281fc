import UsingAdvisor.Text.Word

/-!
# Missing names

A compiler reports an unresolved name with one of two messages, which quote the name. The name is
read back from the first place in the message where the wording fits around a quoted run of word
characters. The wording for a name is tried on the whole message before the wording for a type.
-/

namespace UsingAdvisor

open Text

/-- A message that quotes a name: the wording through the opening quote, and the wording from the
closing quote on. -/
structure Wording where
  opening : Text
  closing : Text
  deriving DecidableEq, Repr

namespace Wording

/-- The message for a name that no declaration in reach provides. -/
def missingValue : Wording :=
  ⟨"The name '".toList, '\'' :: " does not exist in the current context".toList⟩

/-- The message for a type or a namespace that is not found. -/
def missingType : Wording :=
  ⟨"The type or namespace name '".toList, '\'' :: " could not be found".toList⟩

/-- The message about `name`. -/
def message (wording : Wording) (name : Text) : Text :=
  wording.opening ++ (name ++ wording.closing)

/-- The name that the wording quotes in front of the text: a non-empty run of word characters. -/
def readName? (wording : Wording) (text : Text) : Option Text :=
  match dropFront? wording.opening text with
  | none => none
  | some quoted =>
    match wordRun quoted with
    | ([], _) => none
    | (c :: name, rest) => if startsWith wording.closing rest then some (c :: name) else none

/-- The name at the first place in the text where the wording fits. -/
def find? (wording : Wording) : Text → Option Text
  | [] => none
  | c :: text => (wording.readName? (c :: text)).or (wording.find? text)

end Wording

/-- The name that a message reports as missing. -/
def missingName? (message : Text) : Option Text :=
  (Wording.missingValue.find? message).or (Wording.missingType.find? message)

end UsingAdvisor
