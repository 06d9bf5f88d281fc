import UsingAdvisor.Text

/-!
# Cursors

A place in a text: the characters behind it, nearest first, and the characters ahead. A pattern
that asks what stands in front of it, such as the start of a line, asks the cursor.
-/

namespace UsingAdvisor.Source

/-- A place in a text. -/
structure Cursor where
  /-- The characters behind the place, the nearest one first. -/
  behind : Text
  /-- The characters ahead of the place. -/
  ahead : Text
  deriving DecidableEq, Repr

namespace Cursor

/-- The place in front of a text. -/
def start (text : Text) : Cursor :=
  ⟨[], text⟩

/-- The whole text that the cursor is a place in. -/
def text (cursor : Cursor) : Text :=
  cursor.behind.reverse ++ cursor.ahead

/-- How many characters are behind the place. -/
def offset (cursor : Cursor) : Nat :=
  cursor.behind.length

/-- Whether a line starts at a place with these characters behind it: nothing is behind it, or a
line feed is. -/
def startsLine : (behind : Text) → Bool
  | [] => true
  | c :: _ => c == '\n'

/-- The place after `passed`, with `rest` ahead of it. -/
def pass (cursor : Cursor) (passed rest : Text) : Cursor :=
  ⟨passed.reverse ++ cursor.behind, rest⟩

/-- Passing what stands ahead stays in the same text. -/
theorem text_pass {cursor : Cursor} {passed rest : Text} (h : cursor.ahead = passed ++ rest) :
    (cursor.pass passed rest).text = cursor.text := by
  simp [pass, text, h]

end Cursor

end UsingAdvisor.Source
