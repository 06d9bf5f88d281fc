import Mathlib.Data.Nat.Count
import Mathlib.Data.Nat.Find
import UsingAdvisor.Proofs.Document.Offset
import UsingAdvisor.Proofs.Document.Units

/-!
# Breaks and positions

A line break ends behind a line feed, and behind a carriage return that no line feed follows; this is told from the
characters around an offset alone (`BreakEnds`). The position of an offset (`positionAt`) counts the breaks that end
up to it, and the UTF-16 units from the last of these ends. No offset between the two characters of a pair is the
place of a position (`InsidePair`).

The lines of a document are cut at the ends of the breaks (`areLines_lines`). What is told of a text from its
characters is therefore told line by line: up to the end of its own characters an offset is on the first line, behind
its break it is on a line below (`Line.Opens.positionAt_content`, `Line.Opens.positionAt_below`), and in between it
is inside a pair.
-/

namespace UsingAdvisor.Document

/-! ### Offsets -/

/-- A line break of the text ends at the offset. -/
def BreakEnds (text : Text) : Nat → Prop
  | 0 => False
  | place + 1 => text[place]? = some '\n' ∨ text[place]? = some '\r' ∧ text[place + 1]? ≠ some '\n'

/-- The offset lies between the two characters of a pair of carriage return and line feed. -/
def InsidePair (text : Text) : Nat → Prop
  | 0 => False
  | place + 1 => text[place]? = some '\r' ∧ text[place + 1]? = some '\n'

instance decidableBreakEnds (text : Text) : DecidablePred (BreakEnds text)
  | 0 => .isFalse id
  | place + 1 => inferInstanceAs (Decidable
      (text[place]? = some '\n' ∨ text[place]? = some '\r' ∧ text[place + 1]? ≠ some '\n'))

instance decidableInsidePair (text : Text) : DecidablePred (InsidePair text)
  | 0 => .isFalse id
  | place + 1 => inferInstanceAs (Decidable (text[place]? = some '\r' ∧ text[place + 1]? = some '\n'))

/-- The number of line breaks that end at the offset or in front of it. -/
def breaksThrough (text : Text) (place : Nat) : Nat :=
  Nat.count (BreakEnds text) (place + 1)

/-- Where the line of an offset starts: at the last end of a break up to the offset, and at the start of the text if
there is none. -/
def lineStart (text : Text) (place : Nat) : Nat :=
  Nat.findGreatest (BreakEnds text) place

/-- The position of an offset. -/
def positionAt (text : Text) (place : Nat) : Position where
  line := breaksThrough text place
  character := (encode ((text.take place).drop (lineStart text place))).length

/-- The number of lines of a text: there is one behind each break, and a first one. -/
def lineCount (text : Text) : Nat :=
  breaksThrough text text.length + 1

theorem getElem?_behind (front back : Text) (place : Nat) :
    (front ++ back)[front.length + place]? = back[place]? := by
  rw [List.getElem?_append_right (Nat.le_add_right _ _), Nat.add_sub_cancel_left]

/-- What stands in front of a text has no say in where its breaks end. -/
theorem breakEnds_append (front back : Text) (place : Nat) :
    BreakEnds (front ++ back) (front.length + (place + 1)) ↔ BreakEnds back (place + 1) := by
  rw [← Nat.add_assoc, BreakEnds, BreakEnds, Nat.add_assoc, getElem?_behind, getElem?_behind]

theorem insidePair_append (front back : Text) (place : Nat) :
    InsidePair (front ++ back) (front.length + (place + 1)) ↔ InsidePair back (place + 1) := by
  rw [← Nat.add_assoc, InsidePair, InsidePair, Nat.add_assoc, getElem?_behind, getElem?_behind]

/-- A break does not end inside a pair. -/
theorem BreakEnds.not_insidePair {text : Text} {place : Nat} (h : BreakEnds text place) :
    ¬ InsidePair text place := by
  cases place with
  | zero => exact id
  | succ place =>
    rintro ⟨hreturn, hfeed⟩
    rcases h with h | ⟨-, h⟩
    · rw [hreturn] at h
      exact absurd (Option.some.inj h) (by decide)
    · exact h hfeed

/-- The end of a text is inside no pair. -/
theorem not_insidePair_length (text : Text) : ¬ InsidePair text text.length := by
  cases hlength : text.length with
  | zero => exact id
  | succ place =>
    rintro ⟨-, hfeed⟩
    have hnone : text[place + 1]? = none := List.getElem?_eq_none (by omega)
    rw [hnone] at hfeed
    cases hfeed

/-! ### The first line of a text -/

/-- The line is the first one of the text that consists of the line and what stands behind it. -/
structure Line.Opens (line : Line) (back : Text) : Prop where
  lineFeed : '\n' ∉ line.content
  carriageReturn : '\r' ∉ line.content
  last : line.ending = .none → back = []
  lone : line.ending = .carriageReturn → back.head? ≠ some '\n'

namespace Line.Opens

variable {line : Line} {back : Text} (opens : line.Opens back) {place : Nat}
include opens

/-- The characters of a line itself are part of no break. -/
theorem ne_of_getElem? (hplace : place < line.content.length) :
    (line.text ++ back)[place]? ≠ some '\n' ∧ (line.text ++ back)[place]? ≠ some '\r' := by
  have hchar : (line.text ++ back)[place]? = some line.content[place] := by
    rw [Line.text, List.append_assoc, List.getElem?_append_left hplace, List.getElem?_eq_getElem hplace]
  have hmem : line.content[place] ∈ line.content := List.getElem_mem hplace
  rw [hchar]
  refine ⟨fun heq => opens.lineFeed ?_, fun heq => opens.carriageReturn ?_⟩
  · exact Option.some.inj heq ▸ hmem
  · exact Option.some.inj heq ▸ hmem

/-- Up to the end of the line itself no break ends, and no offset is inside a pair. -/
theorem not_of_le_content (hplace : place ≤ line.content.length) :
    ¬ BreakEnds (line.text ++ back) place ∧ ¬ InsidePair (line.text ++ back) place := by
  cases place with
  | zero => exact ⟨id, id⟩
  | succ place =>
    obtain ⟨hfeed, hreturn⟩ := opens.ne_of_getElem? hplace
    refine ⟨?_, fun h => hreturn h.1⟩
    rintro (h | ⟨h, -⟩)
    · exact hfeed h
    · exact hreturn h

omit opens in
/-- Behind the end of the line itself and in front of the end of its break an offset is inside a pair. -/
theorem insidePair_of_lt (hcontent : line.content.length < place) (htext : place < line.text.length) :
    InsidePair (line.text ++ back) place := by
  obtain ⟨content, ending⟩ := line
  rw [Line.text, List.length_append] at htext
  simp only at hcontent htext
  cases ending with
  | pair =>
    obtain rfl : place = content.length + 1 := by
      rw [Break.text, List.length_cons, List.length_singleton] at htext
      omega
    simp [InsidePair, Line.text, Break.text]
  | _ =>
    simp only [Break.text, List.length_nil, List.length_singleton] at htext
    omega

/-- No break ends on a line, in front of the end of its own break. -/
theorem not_breakEnds (hplace : place ≤ line.content.length ∨ place < line.text.length) :
    ¬ BreakEnds (line.text ++ back) place := by
  by_cases hcontent : place ≤ line.content.length
  · exact (opens.not_of_le_content hcontent).1
  · intro hbreak
    have htext : place < line.text.length := hplace.resolve_left hcontent
    exact hbreak.not_insidePair (insidePair_of_lt (Nat.lt_of_not_le hcontent) htext)

/-- The break of a line ends behind it. -/
theorem breakEnds_length (ended : line.ending ≠ .none) : BreakEnds (line.text ++ back) line.text.length := by
  obtain ⟨content, ending⟩ := line
  cases ending with
  | none => exact absurd rfl ended
  | lineFeed => simp [BreakEnds, Line.text, Break.text]
  | pair => simp [BreakEnds, Line.text, Break.text]
  | carriageReturn =>
    have hnext : (content ++ ['\r'] ++ back)[content.length + 1]? = back.head? := by
      rw [List.getElem?_append_right (by simp), List.head?_eq_getElem?]
      simp
    have hhead := opens.lone rfl
    rw [← hnext] at hhead
    rw [Line.text, Break.text, List.length_append, List.length_singleton]
    exact .inr ⟨by simp, hhead⟩

/-! ### Positions on the first line and below it -/

theorem breaksThrough_eq_zero (hplace : place ≤ line.content.length ∨ place < line.text.length) :
    breaksThrough (line.text ++ back) place = 0 := by
  rw [breaksThrough, Nat.count_iff_forall_not]
  intro other hother
  exact opens.not_breakEnds (by omega)

theorem breaksThrough_below (ended : line.ending ≠ .none) (place : Nat) :
    breaksThrough (line.text ++ back) (line.text.length + place) = breaksThrough back place + 1 := by
  have hnone : Nat.count (BreakEnds (line.text ++ back)) line.text.length = 0 :=
    Nat.count_iff_forall_not.2 fun other hother => opens.not_breakEnds (.inr hother)
  have hzero : ¬ BreakEnds back 0 := id
  -- the break of the line is counted apart, and the others are those of the text behind it
  rw [breaksThrough, Nat.add_assoc, Nat.count_add, hnone, Nat.zero_add, Nat.count_succ', Nat.add_zero,
    if_pos (opens.breakEnds_length ended), breaksThrough, Nat.count_succ', if_neg hzero, Nat.add_zero]
  simp only [breakEnds_append]

theorem lineStart_eq_zero (hplace : place ≤ line.content.length) : lineStart (line.text ++ back) place = 0 := by
  rw [lineStart, Nat.findGreatest_eq_zero_iff]
  intro other _ hother
  exact opens.not_breakEnds (.inl (Nat.le_trans hother hplace))

theorem lineStart_below (ended : line.ending ≠ .none) (place : Nat) :
    lineStart (line.text ++ back) (line.text.length + place) = line.text.length + lineStart back place := by
  have hle : lineStart back place ≤ place := Nat.findGreatest_le place
  rw [lineStart, Nat.findGreatest_eq_iff]
  refine ⟨by omega, fun _ => ?_, fun other hother hplace => ?_⟩
  · -- the line below starts behind the break of the first one, or behind one of its own
    cases hstart : lineStart back place with
    | zero => exact opens.breakEnds_length ended
    | succ start =>
      have hends : BreakEnds back (lineStart back place) :=
        Nat.findGreatest_of_ne_zero rfl (by omega)
      rw [hstart] at hends
      exact (breakEnds_append line.text back start).2 hends
  · obtain ⟨further, rfl⟩ : ∃ further, other = line.text.length + (further + 1) :=
      ⟨other - line.text.length - 1, by omega⟩
    rw [breakEnds_append]
    exact Nat.findGreatest_is_greatest (P := BreakEnds back) (n := place) (by rw [lineStart] at hother; omega)
      (by omega)

/-- **An offset on the first line.** -/
theorem positionAt_content (hplace : place ≤ line.content.length) :
    positionAt (line.text ++ back) place = ⟨0, (encode (line.content.take place)).length⟩ := by
  rw [positionAt, opens.breaksThrough_eq_zero (.inl hplace), opens.lineStart_eq_zero hplace, List.drop_zero, Line.text,
    List.append_assoc, List.take_append_of_le_length hplace]

/-- **An offset below the first line.** -/
theorem positionAt_below (ended : line.ending ≠ .none) (place : Nat) :
    positionAt (line.text ++ back) (line.text.length + place) =
      ⟨(positionAt back place).line + 1, (positionAt back place).character⟩ := by
  rw [positionAt, opens.breaksThrough_below ended, opens.lineStart_below ended, List.take_length_add_append,
    List.drop_length_add_append]
  rfl

/-- Below the first line an offset is inside a pair as it is in the text behind that line. -/
theorem insidePair_below (ended : line.ending ≠ .none) (place : Nat) :
    InsidePair (line.text ++ back) (line.text.length + place) ↔ InsidePair back place := by
  cases place with
  | zero => exact iff_of_false (opens.breakEnds_length ended).not_insidePair id
  | succ place => exact insidePair_append line.text back place

end Line.Opens

/-! ### The lines of a text -/

/-- The characters of some lines, breaks included. -/
abbrev textOf (block : List Line) : Text :=
  (block.map Line.text).flatten

/-- The characters of the lines of a document are the document. -/
theorem textOf_lines (text : Text) : textOf (lines text) = text :=
  lines_flatten text

theorem textOf_nil : textOf [] = [] :=
  rfl

theorem textOf_cons (line : Line) (block : List Line) : textOf (line :: block) = line.text ++ textOf block :=
  rfl

/-- The lines are those of their characters: each one ends with its break, and the last one with the text. -/
inductive AreLines : List Line → Prop
  | last {line : Line} (opens : line.Opens []) (ending : line.ending = .none) : AreLines [line]
  | cons {line : Line} {rest : List Line} (opens : line.Opens (textOf rest)) (ended : line.ending ≠ .none)
      (below : AreLines rest) : AreLines (line :: rest)

/-- One more character in front of the first line, which is part of no break. -/
theorem Line.Opens.consChar {line : Line} {back : Text} (opens : line.Opens back) {c : Char} (hfeed : c ≠ '\n')
    (hreturn : c ≠ '\r') : Line.Opens ⟨c :: line.content, line.ending⟩ back where
  lineFeed := List.not_mem_cons_of_ne_of_not_mem (Ne.symm hfeed) opens.lineFeed
  carriageReturn := List.not_mem_cons_of_ne_of_not_mem (Ne.symm hreturn) opens.carriageReturn
  last := opens.last
  lone := opens.lone

/-- **The lines of a document are those of its text.** -/
theorem areLines_lines (text : Text) : AreLines (lines text) := by
  have hempty {ending : Break} {back : Text} (hlast : ending ≠ .none)
      (hlone : ending = .carriageReturn → back.head? ≠ some '\n') : Line.Opens ⟨[], ending⟩ back :=
    ⟨List.not_mem_nil, List.not_mem_nil, fun h => absurd h hlast, hlone⟩
  fun_induction lines text with
  | case1 => exact .last ⟨List.not_mem_nil, List.not_mem_nil, fun _ => rfl, fun h => by cases h⟩ rfl
  | case2 text ih => exact .cons (hempty (by decide) (fun h => by cases h)) (by decide) ih
  | case3 text ih => exact .cons (hempty (by decide) (fun h => by cases h)) (by decide) ih
  | case4 text hnext ih =>
    refine .cons (hempty (by decide) fun _ hhead => ?_) (by decide) ih
    rw [textOf_lines] at hhead
    obtain ⟨rest, rfl⟩ := List.head?_eq_some_iff.1 hhead
    exact hnext rest rfl
  | case5 c text hfeed hpair hreturn ih =>
    cases hlines : lines text with
    | nil => rw [hlines] at ih; cases ih
    | cons line rest =>
      rw [hlines] at ih
      cases ih with
      | last opens ending => exact .last (opens.consChar hfeed hreturn) ending
      | cons opens ended below => exact .cons (opens.consChar hfeed hreturn) ended below

/-- There are as many lines as breaks, and one more. -/
theorem AreLines.length_eq {block : List Line} (h : AreLines block) : block.length = lineCount (textOf block) := by
  induction h with
  | last opens ending =>
    rw [lineCount, textOf_cons, textOf_nil, opens.breaksThrough_eq_zero, List.length_singleton]
    simp [Line.text, ending, Break.text]
  | cons opens ended below ih =>
    rw [lineCount, textOf_cons, List.length_append, opens.breaksThrough_below ended, List.length_cons, ih, lineCount]

/-- **A document has one line more than breaks.** -/
theorem length_lines_eq_lineCount (text : Text) : (lines text).length = lineCount text := by
  have hlength := (areLines_lines text).length_eq
  rwa [textOf_lines] at hlength

end UsingAdvisor.Document
