import Mathlib.Order.Bounds.Basic
import UsingAdvisor.Proofs.Document.Breaks

/-!
# Offsets and positions are inverse

The offset of the position of an offset is that offset, unless it lies inside a pair. A position that is not the
position of an offset is read as the nearest one before it: the last of the offsets on its line that have no more
units in front of them than the position says (`Fits`). Below the last line this is the end of the text. Main
statement: `offset_clamps`.

The proofs go along the lines of the text. On the first line an offset and a column are told from each other by the
characters of the line (`le_column_iff`); an offset below the first line is an offset of the text behind that line.
-/

namespace UsingAdvisor.Document

/-! ### Columns -/

/-- A number of characters stands in front of a column if their units do. -/
theorem le_column_iff {content : Text} {number room : Nat} (hnumber : number ≤ content.length) :
    number ≤ column content room ↔ (encode (content.take number)).length ≤ room := by
  induction content generalizing number room with
  | nil =>
    obtain rfl : number = 0 := Nat.le_zero.1 hnumber
    exact iff_of_true (Nat.zero_le _) (Nat.zero_le _)
  | cons c content ih =>
    cases number with
    | zero => exact iff_of_true (Nat.zero_le _) (Nat.zero_le _)
    | succ number =>
      have hrest : number ≤ column content (room - units c) ↔
          (encode (content.take number)).length ≤ room - units c := ih (Nat.le_of_succ_le_succ hnumber)
      rw [List.take_succ_cons, encode_cons, List.length_append, length_encodeChar, column]
      split <;> omega

/-- The column behind a number of characters is the one behind their units. -/
theorem column_encode_take {content : Text} {number : Nat} (hnumber : number ≤ content.length) :
    column content (encode (content.take number)).length = number := by
  induction content generalizing number with
  | nil => exact (Nat.le_zero.1 hnumber).symm
  | cons c content ih =>
    cases number with
    | zero => exact column_zero (c :: content)
    | succ number =>
      have hrest := ih (Nat.le_of_succ_le_succ hnumber)
      rw [List.take_succ_cons, encode_cons, List.length_append, length_encodeChar, column,
        if_pos (Nat.le_add_right _ _), Nat.add_sub_cancel_left, hrest]

/-! ### Offsets on the line of a position -/

/-- The offset is one that the position may be read as: it is on the line of the position, in front of the line's
break, and no more units than the position says stand in front of it on that line. -/
structure Fits (text : Text) (position : Position) (place : Nat) : Prop where
  inText : place ≤ text.length
  whole : ¬ InsidePair text place
  line : (positionAt text place).line = position.line
  character : (positionAt text place).character ≤ position.character

namespace Line.Opens

variable {line : Line} {back : Text} (opens : line.Opens back)
include opens

/-- An offset that is not inside a pair is on the first line or in the text behind it. -/
theorem content_or_below {place : Nat} (hplace : place ≤ (line.text ++ back).length)
    (hwhole : ¬ InsidePair (line.text ++ back) place) :
    place ≤ line.content.length ∨ line.ending ≠ .none ∧
      ∃ below, place = line.text.length + below ∧ below ≤ back.length ∧ ¬ InsidePair back below := by
  by_cases hcontent : place ≤ line.content.length
  · exact .inl hcontent
  · have htext : line.text.length ≤ place := by
      by_contra hlt
      exact hwhole (insidePair_of_lt (Nat.lt_of_not_le hcontent) (Nat.lt_of_not_le hlt))
    rw [List.length_append] at hplace
    have ended : line.ending ≠ .none := by
      intro hnone
      -- the last line ends with the text
      rw [opens.last hnone, Line.text, hnone, Break.text, List.append_nil, List.length_nil] at hplace
      omega
    obtain ⟨below, rfl⟩ : ∃ below, place = line.text.length + below := Nat.exists_eq_add_of_le htext
    exact .inr ⟨ended, below, rfl, by omega, mt (opens.insidePair_below ended below).2 hwhole⟩

/-- **A column is the last offset that fits.** -/
theorem isGreatest_column (character : Nat) :
    IsGreatest {place | Fits (line.text ++ back) ⟨0, character⟩ place} (column line.content character) := by
  have hcolumn := column_le_length line.content character
  have hposition := opens.positionAt_content hcolumn
  constructor
  · refine ⟨?_, (opens.not_of_le_content hcolumn).2, by rw [hposition], ?_⟩
    · have := column_le_length_text line character
      rw [List.length_append]
      omega
    · rw [hposition]
      exact (le_column_iff hcolumn).1 (Nat.le_refl _)
  · rintro place ⟨hplace, hwhole, hline, hcharacter⟩
    rcases opens.content_or_below hplace hwhole with hcontent | ⟨ended, below, rfl, -, -⟩
    · rw [opens.positionAt_content hcontent] at hcharacter
      exact (le_column_iff hcontent).2 hcharacter
    · rw [opens.positionAt_below ended] at hline
      cases hline

/-- Below the first line offsets fit as they do in the text behind it. -/
theorem fits_below (ended : line.ending ≠ .none) {number character place : Nat} :
    Fits (line.text ++ back) ⟨number + 1, character⟩ (line.text.length + place) ↔
      Fits back ⟨number, character⟩ place := by
  have hposition := opens.positionAt_below ended place
  have hwhole := opens.insidePair_below ended place
  constructor
  · intro ⟨hplace, hout, hline, hcharacter⟩
    rw [hposition] at hline hcharacter
    rw [List.length_append] at hplace
    exact ⟨Nat.le_of_add_le_add_left hplace, mt hwhole.2 hout, Nat.succ.inj hline, hcharacter⟩
  · intro ⟨hplace, hout, hline, hcharacter⟩
    refine ⟨?_, mt hwhole.1 hout, ?_, ?_⟩
    · rw [List.length_append]
      exact Nat.add_le_add_left hplace _
    · rw [hposition]
      exact congrArg (· + 1) hline
    · rw [hposition]
      exact hcharacter

end Line.Opens

/-! ### The lines of a text -/

namespace AreLines

variable {block : List Line} (h : AreLines block)
include h

/-- **The offset of the position of an offset is that offset.** -/
theorem offsetIn_positionAt {place : Nat} (hplace : place ≤ (textOf block).length)
    (hwhole : ¬ InsidePair (textOf block) place) :
    offsetIn block (positionAt (textOf block) place).line (positionAt (textOf block) place).character = place := by
  induction h generalizing place with
  | @last line opens ending =>
    rw [textOf_cons, textOf_nil] at hplace hwhole ⊢
    have hcontent : place ≤ line.content.length :=
      (opens.content_or_below hplace hwhole).resolve_right fun hbelow => hbelow.1 ending
    rw [opens.positionAt_content hcontent, offsetIn, column_encode_take hcontent]
  | @cons line rest opens ended below ih =>
    rw [textOf_cons] at hplace hwhole ⊢
    rcases opens.content_or_below hplace hwhole with hcontent | ⟨-, further, rfl, hfurther, hout⟩
    · rw [opens.positionAt_content hcontent, offsetIn, column_encode_take hcontent]
    · rw [opens.positionAt_below ended, offsetIn, ih hfurther hout]

/-- **The offset of a position is the last one that fits**, if the line of the position exists. -/
theorem isGreatest_offsetIn {number : Nat} (hnumber : number < block.length) (character : Nat) :
    IsGreatest {place | Fits (textOf block) ⟨number, character⟩ place} (offsetIn block number character) := by
  induction h generalizing number with
  | last opens ending =>
    obtain rfl : number = 0 := Nat.lt_one_iff.1 hnumber
    exact opens.isGreatest_column character
  | @cons line rest opens ended below ih =>
    cases number with
    | zero => exact opens.isGreatest_column character
    | succ number =>
      obtain ⟨hfits, hlast⟩ := ih (Nat.lt_of_succ_lt_succ hnumber)
      refine ⟨(opens.fits_below ended).2 hfits, fun place hplace => ?_⟩
      rcases opens.content_or_below hplace.inText hplace.whole with hcontent | ⟨-, further, rfl, -, -⟩
      · -- on the first line there is no offset of a lower one
        have hline : (positionAt (line.text ++ textOf rest) place).line = number + 1 := hplace.line
        rw [opens.positionAt_content hcontent] at hline
        cases hline
      · exact Nat.add_le_add_left (hlast ((opens.fits_below ended).1 hplace)) _

end AreLines

/-- The offset of a position on a line of the text is the last one that fits. -/
theorem isGreatest_offset {text : Text} {position : Position} (h : position.line < lineCount text) :
    IsGreatest {place | Fits text position place} (offset text position) := by
  rw [← length_lines_eq_lineCount] at h
  have hlast := (areLines_lines text).isGreatest_offsetIn h position.character
  rwa [textOf_lines] at hlast

/-- **Offsets and positions are inverse, and every other position is read as the nearest one before it.** An offset
that is not inside a pair is the offset of its position. Whatever the position, its offset is not inside a pair; it is
the end of the text if the text has no such line, and else the last of the offsets on the line, in front of the
line's break, that have no more UTF-16 units in front of them on the line than the position says. -/
theorem offset_clamps (text : Text) :
    (∀ place ≤ text.length, ¬ InsidePair text place → offset text (positionAt text place) = place) ∧
    ∀ position : Position,
      ¬ InsidePair text (offset text position) ∧
      (lineCount text ≤ position.line → offset text position = text.length) ∧
      (position.line < lineCount text → IsGreatest {place | Fits text position place} (offset text position)) := by
  refine ⟨fun place hplace hwhole => ?_, fun position => ?_⟩
  · rw [← textOf_lines text] at hplace hwhole
    have hinverse := (areLines_lines text).offsetIn_positionAt hplace hwhole
    rwa [textOf_lines] at hinverse
  · have hend : lineCount text ≤ position.line → offset text position = text.length := fun h =>
      offset_of_length_le (by rwa [length_lines_eq_lineCount])
    refine ⟨?_, hend, isGreatest_offset⟩
    rcases Nat.lt_or_ge position.line (lineCount text) with hline | hline
    · exact (isGreatest_offset hline).1.whole
    · rw [hend hline]
      exact not_insidePair_length text

/-- A column inside a character or behind the end of its line, and a line below the last one. -/
example :
    let text := "a\r\n😀b".toList
    positionAt text 4 = ⟨1, 2⟩ ∧ offset text ⟨1, 2⟩ = 4 ∧ offset text ⟨1, 1⟩ = 3 ∧ offset text ⟨0, 9⟩ = 1 ∧
      offset text ⟨2, 0⟩ = 5 := by
  decide +kernel

end UsingAdvisor.Document
