import UsingAdvisor.Proofs.Document.Inverse
import UsingAdvisor.Session

/-!
# The texts of lines

The texts of the lines of a document, breaks included, are the stretches of the document between the offsets of the
starts of its lines. So a character stands in the text of a line if as many breaks end in front of it as the number of
the line says (`mem_lineText_iff`). A completion is asked for at a position, and looks for a dot in the text of the
position's line: it finds one if there is a dot on the line of the offset that the position is read as. Main statement:
`lineText_partition`.
-/

namespace UsingAdvisor.Document

/-! ### Texts of lines and stretches of a text -/

/-- The characters of a numbered line among some lines, its break included. -/
def lineTextIn (block : List Line) (number : Nat) : Text :=
  (block[number]?).elim [] Line.text

theorem lineText_eq (text : Text) (number : Nat) : lineText text number = lineTextIn (lines text) number := by
  rw [lineText, lineTextIn]
  cases (lines text)[number]? <;> rfl

/-- The first line starts in front of all. -/
theorem offsetIn_zero (block : List Line) : offsetIn block 0 0 = 0 := by
  cases block with
  | nil => rfl
  | cons line block => exact column_zero line.content

/-- The texts of the lines make up the text. -/
theorem flatten_map_lineTextIn (block : List Line) :
    ((List.range block.length).map (lineTextIn block)).flatten = textOf block := by
  induction block with
  | nil => rfl
  | cons line block ih =>
    rw [List.length_cons, List.range_succ_eq_map, List.map_cons, List.map_map, List.flatten_cons, textOf_cons, ← ih]
    rfl

/-- **The text of a line is the stretch from its start to the start of the next one.** -/
theorem lineTextIn_eq_slice (block : List Line) (number : Nat) :
    lineTextIn block number =
      ((textOf block).take (offsetIn block (number + 1) 0)).drop (offsetIn block number 0) := by
  induction block generalizing number with
  | nil => rfl
  | cons line block ih =>
    cases number with
    | zero =>
      rw [textOf_cons, offsetIn_zero, offsetIn, offsetIn_zero, List.take_length_add_append, List.take_zero,
        List.append_nil]
      rfl
    | succ number =>
      rw [textOf_cons, offsetIn, offsetIn, List.take_length_add_append, List.drop_length_add_append, ← ih]
      rfl

/-- What is in front of the end of the first line is on no other line. -/
theorem eq_zero_iff_of_lt_text {line : Line} (block : List Line) {number place : Nat}
    (hplace : place < line.text.length) :
    0 = number ↔
      offsetIn (line :: block) number 0 ≤ place ∧ place < offsetIn (line :: block) (number + 1) 0 := by
  cases number with
  | zero =>
    rw [offsetIn_zero, offsetIn]
    omega
  | succ number =>
    rw [offsetIn]
    omega

namespace AreLines

variable {block : List Line} (h : AreLines block)
include h

/-- A line is the first one of the text behind its start, and the last line alone has no break. -/
theorem exists_opens {number : Nat} (hnumber : number < block.length) :
    ∃ line : Line, lineTextIn block number = line.text ∧
      line.Opens ((textOf block).drop (offsetIn block (number + 1) 0)) ∧
      (line.ending = .none ↔ number + 1 = block.length) := by
  induction h generalizing number with
  | @last line opens ending =>
    obtain rfl : number = 0 := Nat.lt_one_iff.1 hnumber
    have hrest : (textOf [line]).drop (offsetIn [line] 1 0) = [] := by
      refine List.drop_eq_nil_of_le ?_
      rw [offsetIn, textOf_cons, textOf_nil, List.append_nil]
      exact Nat.le_add_right _ _
    exact ⟨line, rfl, hrest ▸ opens, iff_of_true ending rfl⟩
  | @cons line rest opens ended below ih =>
    have hpos : 0 < rest.length := by
      cases below <;> exact Nat.succ_pos _
    rw [textOf_cons, offsetIn, List.drop_length_add_append, List.length_cons]
    cases number with
    | zero =>
      rw [offsetIn_zero, List.drop_zero]
      exact ⟨line, rfl, opens, iff_of_false ended (by omega)⟩
    | succ number =>
      obtain ⟨other, htextAt, hopens, hlast⟩ := ih (Nat.lt_of_succ_lt_succ hnumber)
      exact ⟨other, htextAt, hopens, hlast.trans (by omega)⟩

/-- **A character is on the line with the number of breaks that end in front of it.** -/
theorem breaksThrough_eq_iff (number : Nat) {place : Nat} (hplace : place < (textOf block).length) :
    breaksThrough (textOf block) place = number ↔
      offsetIn block number 0 ≤ place ∧ place < offsetIn block (number + 1) 0 := by
  induction h generalizing number place with
  | @last line opens ending =>
    rw [textOf_cons, textOf_nil] at hplace ⊢
    rw [List.append_nil] at hplace
    rw [opens.breaksThrough_eq_zero (.inr hplace)]
    exact eq_zero_iff_of_lt_text [] hplace
  | @cons line rest opens ended below ih =>
    rw [textOf_cons] at hplace ⊢
    rcases Nat.lt_or_ge place line.text.length with hfirst | hbelow
    · rw [opens.breaksThrough_eq_zero (.inr hfirst)]
      exact eq_zero_iff_of_lt_text rest hfirst
    · obtain ⟨further, rfl⟩ : ∃ further, place = line.text.length + further := Nat.exists_eq_add_of_le hbelow
      rw [List.length_append] at hplace
      rw [opens.breaksThrough_below ended]
      cases number with
      | zero =>
        rw [offsetIn_zero, offsetIn, offsetIn_zero]
        omega
      | succ number =>
        have hnext : breaksThrough (textOf rest) further = number ↔
            offsetIn rest number 0 ≤ further ∧ further < offsetIn rest (number + 1) 0 :=
          ih number (by omega)
        rw [offsetIn, offsetIn]
        omega

end AreLines

/-! ### Lines of a document -/

/-- The text of a line is the stretch of the document from its start to the start of the next one. -/
theorem lineText_eq_slice (text : Text) (number : Nat) :
    lineText text number = (text.take (offset text ⟨number + 1, 0⟩)).drop (offset text ⟨number, 0⟩) := by
  have hslice := lineTextIn_eq_slice (lines text) number
  rw [textOf_lines] at hslice
  rw [lineText_eq, hslice, offset, offset]

/-- **The characters of a line are those in front of which as many breaks end as its number says.** -/
theorem mem_lineText_iff {text : Text} {number : Nat} {c : Char} :
    c ∈ lineText text number ↔ ∃ place, text[place]? = some c ∧ breaksThrough text place = number := by
  have hline {place : Nat} (hplace : place < text.length) : breaksThrough text place = number ↔
      offset text ⟨number, 0⟩ ≤ place ∧ place < offset text ⟨number + 1, 0⟩ := by
    rw [← textOf_lines text] at hplace
    have hiff := (areLines_lines text).breaksThrough_eq_iff number hplace
    rwa [textOf_lines] at hiff
  rw [lineText_eq_slice, List.mem_iff_getElem?]
  simp only [List.getElem?_drop, List.getElem?_take, Option.ite_none_right_eq_some]
  constructor
  · rintro ⟨place, hlt, hchar⟩
    obtain ⟨hplace, -⟩ := List.getElem?_eq_some_iff.1 hchar
    exact ⟨_, hchar, (hline hplace).2 ⟨Nat.le_add_right _ _, hlt⟩⟩
  · rintro ⟨place, hchar, hnumber⟩
    obtain ⟨hplace, -⟩ := List.getElem?_eq_some_iff.1 hchar
    obtain ⟨hfirst, hlast⟩ := (hline hplace).1 hnumber
    obtain ⟨further, rfl⟩ := Nat.exists_eq_add_of_le hfirst
    exact ⟨further, hlast, hchar⟩

/-- **Lines and offsets cut a document at the same places.** The texts of the lines are, one after another, the
document. The text of a line, in the document or below it, is the stretch from the offset of its start to the offset of
the next start. Each line but the last has one break, at its end; a carriage return is one where no line feed comes
next. And a completion is asked for on the line that its position is read as: the answer is empty if a dot stands
on that line, and else it is the answer for a line without characters. -/
theorem lineText_partition (text : Text) :
    ((List.range (lineCount text)).map (lineText text)).flatten = text ∧
    (∀ number, lineText text number =
      (text.take (offset text ⟨number + 1, 0⟩)).drop (offset text ⟨number, 0⟩)) ∧
    (∀ number < lineCount text, ∃ line : Line, lineText text number = line.text ∧
      line.Opens (text.drop (offset text ⟨number + 1, 0⟩)) ∧
      (line.ending = .none ↔ number + 1 = lineCount text)) ∧
    ∀ (session : Session) (url : Url) (position : Position), session.documents.get? url = some text →
      let dotted := ∃ place, text[place]? = some '.' ∧ (positionAt text place).line = position.line
      (position.line < lineCount text → (positionAt text (offset text position)).line = position.line) ∧
      (dotted → session.completionAnswer url position = .completions []) ∧
      (¬ dotted → session.completionAnswer url position =
        .completions (Advice.completions session.index text [] session.settings.addUsing)) := by
  refine ⟨?_, lineText_eq_slice text, fun number hnumber => ?_, fun session url position htext => ?_⟩
  · have hflatten := flatten_map_lineTextIn (lines text)
    rw [textOf_lines, length_lines_eq_lineCount] at hflatten
    have hlines : lineText text = lineTextIn (lines text) := funext (lineText_eq text)
    rw [hlines]
    exact hflatten
  · rw [← length_lines_eq_lineCount] at hnumber ⊢
    have hopens := (areLines_lines text).exists_opens hnumber
    rw [textOf_lines] at hopens
    rw [lineText_eq]
    exact hopens
  · intro dotted
    have hdotted : '.' ∈ lineText text position.line ↔ dotted := mem_lineText_iff
    refine ⟨fun hline => (isGreatest_offset hline).1.line, fun h => ?_, fun h => ?_⟩
    · simp [Session.completionAnswer, htext, Advice.completions, hdotted.2 h]
    · simp [Session.completionAnswer, htext, Advice.completions, mt hdotted.1 h]

/-- A carriage return in front of a pair is a break of its own. -/
example : (List.range 3).map (lineText "a\r\r\n".toList) = ["a\r".toList, "\r\n".toList, []] := by
  decide +kernel

end UsingAdvisor.Document
