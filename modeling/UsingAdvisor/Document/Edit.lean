import UsingAdvisor.Document.Position

/-!
# Edits and changes

An edit replaces a range of a document by a text. A change is what an editor reports while its user
types: an edit, or the whole new text. The ends of a range may come in either order.
-/

namespace UsingAdvisor.Document

/-- A text in place of a range. -/
structure Edit where
  range : Range
  newText : Text
  deriving DecidableEq, Repr

/-- What an editor reports: an edit, or a text in place of the whole document. -/
structure Change where
  /-- The replaced range. Without one the whole document is replaced. -/
  range : Option Range
  newText : Text
  deriving DecidableEq, Repr

/-- The text with `inserted` in place of the characters between two offsets. -/
def splice (text : Text) (first last : Nat) (inserted : Text) : Text :=
  text.take first ++ (inserted ++ text.drop last)

/-- The document after an edit. -/
def Edit.apply (edit : Edit) (text : Text) : Text :=
  let first := offset text edit.range.start
  let last := offset text edit.range.stop
  splice text (min first last) (max first last) edit.newText

/-- The document after a change. -/
def Change.apply (change : Change) (text : Text) : Text :=
  match change.range with
  | none => change.newText
  | some range => Edit.apply ⟨range, change.newText⟩ text

/-- The document after several changes, each one to the result of those before it. -/
def applyChanges (changes : List Change) (text : Text) : Text :=
  changes.foldl (fun text change => change.apply text) text

end UsingAdvisor.Document
