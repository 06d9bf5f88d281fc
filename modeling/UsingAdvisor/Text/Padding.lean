import UsingAdvisor.Text

/-!
# Padding

A column of a table: a text brought to a width with spaces. Widths count characters, and a text
that is already as wide is left as it is.
-/

namespace UsingAdvisor.Text

/-- Where the text stands in its column. -/
inductive Alignment where
  | left
  | right
  /-- In the middle; an odd space goes to the right. -/
  | center
  deriving DecidableEq, Repr

/-- The text brought to a width of at least `width` characters. -/
def pad (alignment : Alignment) (width : Nat) (text : Text) : Text :=
  let missing := width - text.length
  match alignment with
  | .left => text ++ List.replicate missing ' '
  | .right => List.replicate missing ' ' ++ text
  | .center =>
    List.replicate (missing / 2) ' ' ++ text ++ List.replicate (missing - missing / 2) ' '

end UsingAdvisor.Text
