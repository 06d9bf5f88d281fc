import UsingAdvisor.Source.Header

/-!
# Namespace blocks

A block is a namespace together with the text it covers. A header reaches up to the next occurrence
of the word `namespace`. A file-scoped namespace covers all of its reach; a block in braces covers
its reach through the last line that holds a closing brace and nothing else, and a header without
such a line covers nothing. A nested namespace therefore cuts the outer block short, and is found as
a block of its own.
-/

namespace UsingAdvisor.Source

open Text

/-- A namespace and the text it covers, the header included. -/
structure Block where
  /-- The dotted name of the namespace. -/
  name : Text
  /-- The text from the start of the header to the end of the block. -/
  body : Text
  deriving DecidableEq, Repr

namespace Block

/-- Whether a line ends in front of `ahead`: a line feed comes next, or the text is over. The
reach of a header is not over where the next header's keyword cuts it, which `closed` tells. -/
def endsLine (closed : Bool) : (ahead : Text) → Bool
  | [] => closed
  | c :: _ => c == '\n'

/-- The text through the last closing brace that stands alone on its line. `fresh` tells whether a
line starts in front of the text, and `closed` whether the source ends with it. -/
def throughLastClosing? (closed : Bool) : (fresh : Bool) → Text → Option Text
  | _, [] => none
  | fresh, c :: text =>
    match throughLastClosing? closed (c == '\n') text with
    | some inside => some (c :: inside)
    | none => if fresh && c == '}' && endsLine closed text then some [c] else none

/-- The block of a header, if it has one, and the place where the search for the next header goes
on: after the block, or after the header when there is no block. -/
def ofHeader (header : Header) (after : Cursor) : Option Block × Cursor :=
  let reach := (breakAt Header.keyword after.ahead).1
  let beyond := (breakAt Header.keyword after.ahead).2
  match header.opener with
  | .semicolon => (some ⟨header.name, header.text ++ reach⟩, after.pass reach beyond)
  | .brace =>
    match throughLastClosing? beyond.isEmpty false reach with
    | some inside =>
      (some ⟨header.name, header.text ++ inside⟩,
        after.pass inside (after.ahead.drop inside.length))
    | none => (none, after)

/-- The search goes on at or after the end of the header. -/
theorem ofHeader_length_le (header : Header) (after : Cursor) :
    (ofHeader header after).2.ahead.length ≤ after.ahead.length := by
  have happend := congrArg List.length (breakAt_append Header.keyword after.ahead)
  rw [List.length_append] at happend
  simp only [ofHeader]
  split
  · simp only [Cursor.pass]
    omega
  · split
    · simp [Cursor.pass]
    · exact Nat.le_refl _

/-- The blocks from a place on, in order. -/
def listFrom (cursor : Cursor) : List Block :=
  match h : Header.next? cursor.behind cursor.ahead with
  | none => []
  | some (header, after) =>
    have := Nat.lt_of_le_of_lt (ofHeader_length_le header after) (Header.next?_length_lt h)
    (ofHeader header after).1.toList ++ listFrom (ofHeader header after).2
termination_by cursor.ahead.length

end Block

/-- The namespace blocks of a text, in order. -/
def blocks (text : Text) : List Block :=
  Block.listFrom (Cursor.start text)

end UsingAdvisor.Source
