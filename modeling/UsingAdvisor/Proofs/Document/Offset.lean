import UsingAdvisor.Document.Edit
import UsingAdvisor.Proofs.Text.Lines

/-!
# Offsets

Where the positions of an editor lie in a text. An offset never leaves the text (`offset_le_length`) and
never goes down where the position goes up (`offset_mono`); a line past the last one lies at the end
(`offset_of_length_le`). The start of a line lies behind as many line feeds and lone carriage returns as the
line's number says (`offset_append`); in a text without lone carriage returns the editor's lines are the lines
between line feeds (`offset_lineStart`).

An editor that is given several edits at once takes all their ranges from the text as it was, and puts
edits of one place there in the order in which they are given. `applyTogether` is that reading; for one
edit it is `Edit.apply` (`applyTogether_singleton`), and edits that all insert at one place put their texts
there one after another (`applyTogether_of_place`).
-/

namespace UsingAdvisor.Document

open Text (ReturnsPaired EndsLine loneReturns)

/-- The order of positions in a document. -/
def Position.le (first second : Position) : Prop :=
  first.line < second.line ∨ first.line = second.line ∧ first.character ≤ second.character

instance (first second : Position) : Decidable (first.le second) :=
  inferInstanceAs (Decidable (first.line < second.line ∨
    first.line = second.line ∧ first.character ≤ second.character))

/-! ### Lines -/

/-- A document has a first line. -/
theorem exists_lines_eq_cons (text : Text) : ∃ line rest, lines text = line :: rest := by
  fun_induction lines text with
  | case1 => exact ⟨_, _, rfl⟩
  | case2 => exact ⟨_, _, rfl⟩
  | case3 => exact ⟨_, _, rfl⟩
  | case4 => exact ⟨_, _, rfl⟩
  | case5 c text _ _ _ ih =>
    obtain ⟨line, rest, hline⟩ := ih
    exact ⟨⟨c :: line.content, line.ending⟩, rest, by rw [hline, consChar]⟩

/-- A character that is part of no line break belongs to the first line. -/
theorem lines_cons_of_ne {c : Char} (hfeed : c ≠ '\n') (hreturn : c ≠ '\r') (text : Text) :
    lines (c :: text) = consChar c (lines text) :=
  lines.eq_5 c text hfeed (fun _ heq _ => hreturn heq) hreturn

/-- A character takes up some of the room. -/
theorem units_pos (c : Char) : 0 < units c := by
  unfold units
  split <;> omega

/-- No character fits into no room. -/
theorem column_zero (content : Text) : column content 0 = 0 := by
  cases content with
  | nil => rfl
  | cons c content =>
    have := units_pos c
    simp only [column]
    rw [if_neg (by omega)]

/-- A column lies on its line. -/
theorem column_le_length (content : Text) (room : Nat) : column content room ≤ content.length := by
  induction content generalizing room with
  | nil => exact Nat.le_refl 0
  | cons c content ih =>
    simp only [column, List.length_cons]
    split
    · exact Nat.succ_le_succ (ih _)
    · exact Nat.zero_le _

/-- More room holds no fewer characters. -/
theorem column_mono (content : Text) {room more : Nat} (h : room ≤ more) :
    column content room ≤ column content more := by
  induction content generalizing room more with
  | nil => exact Nat.le_refl 0
  | cons c content ih =>
    simp only [column]
    by_cases hfits : units c ≤ room
    · rw [if_pos hfits, if_pos (by omega)]
      exact Nat.succ_le_succ (ih (by omega))
    · rw [if_neg hfits]
      exact Nat.zero_le _

/-! ### The order of offsets -/

/-- A column lies in front of the end of its line. -/
theorem column_le_length_text (line : Line) (character : Nat) :
    column line.content character ≤ line.text.length := by
  have := column_le_length line.content character
  rw [Line.text, List.length_append]
  omega

/-- An offset lies within the lines. -/
theorem offsetIn_le_length (block : List Line) (number character : Nat) :
    offsetIn block number character ≤ ((block.map Line.text).flatten).length := by
  induction block generalizing number with
  | nil => exact Nat.le_refl 0
  | cons line block ih =>
    rw [List.map_cons, List.flatten_cons, List.length_append]
    cases number with
    | zero =>
      have := column_le_length_text line character
      simp only [offsetIn]
      omega
    | succ number =>
      have := ih number
      simp only [offsetIn]
      omega

/-- Below the last line every position is the end. -/
theorem offsetIn_of_length_le {block : List Line} {number : Nat} (h : block.length ≤ number)
    (character : Nat) : offsetIn block number character = ((block.map Line.text).flatten).length := by
  induction block generalizing number with
  | nil => rfl
  | cons line block ih =>
    cases number with
    | zero => simp at h
    | succ number =>
      rw [offsetIn, ih (Nat.le_of_succ_le_succ h), List.map_cons, List.flatten_cons,
        List.length_append]

/-- A later position has no smaller offset. -/
theorem offsetIn_mono (block : List Line) {first second : Position} (h : first.le second) :
    offsetIn block first.line first.character ≤ offsetIn block second.line second.character := by
  obtain ⟨number, character⟩ := first
  obtain ⟨number', character'⟩ := second
  simp only [Position.le] at h ⊢
  -- both positions move down one line at a time, until the first is on its line
  induction block generalizing number number' with
  | nil => exact Nat.le_refl 0
  | cons line block ih =>
    cases number with
    | zero =>
      cases number' with
      | zero =>
        have hle : character ≤ character' := by omega
        simpa only [offsetIn] using column_mono line.content hle
      | succ number' =>
        have := column_le_length_text line character
        simp only [offsetIn]
        omega
    | succ number =>
      cases number' with
      | zero => omega
      | succ number' =>
        have := ih number number' (by omega)
        simp only [offsetIn]
        omega

/-- An offset lies within the text. -/
theorem offset_le_length (text : Text) (position : Position) : offset text position ≤ text.length := by
  have := offsetIn_le_length (lines text) position.line position.character
  rwa [lines_flatten] at this

/-- Below the last line every position is the end of the text. -/
theorem offset_of_length_le {text : Text} {position : Position}
    (h : (lines text).length ≤ position.line) : offset text position = text.length := by
  rw [offset, offsetIn_of_length_le h, lines_flatten]

/-- **A later position has no smaller offset.** -/
theorem offset_mono (text : Text) {first second : Position} (h : first.le second) :
    offset text first ≤ offset text second :=
  offsetIn_mono (lines text) h

/-! ### The number of a line -/

/-- The start of a text is its first position. -/
theorem offset_start (text : Text) : offset text ⟨0, 0⟩ = 0 := by
  obtain ⟨line, rest, hline⟩ := exists_lines_eq_cons text
  rw [offset, hline, offsetIn, column_zero]

/-- A carriage return in front of no line feed is a line break. -/
theorem lines_return {text : Text} (h : text.head? ≠ some '\n') :
    lines ('\r' :: text) = ⟨[], .carriageReturn⟩ :: lines text := by
  refine lines.eq_4 text fun rest heq => h ?_
  rw [heq, List.head?_cons]

/-- **A document has one line more than line feeds and lone carriage returns.** -/
theorem length_lines (text : Text) : (lines text).length = text.count '\n' + loneReturns text + 1 := by
  fun_induction lines text with
  | case1 => rfl
  | case2 text ih =>
    rw [List.length_cons, ih, List.count_cons_self, Text.loneReturns_cons_of_ne (by decide)]
    omega
  | case3 text ih =>
    have hlone : loneReturns ('\r' :: '\n' :: text) = loneReturns text := by simp [loneReturns]
    rw [List.length_cons, ih, List.count_cons_of_ne (by decide), List.count_cons_self, hlone]
    omega
  | case4 text hfeed ih =>
    have hhead : text.head? ≠ some '\n' := fun hhead => by
      obtain ⟨rest, rfl⟩ := List.head?_eq_some_iff.1 hhead
      exact hfeed rest rfl
    have hlone : loneReturns ('\r' :: text) = 1 + loneReturns text := by simp [loneReturns, hhead]
    rw [List.length_cons, ih, List.count_cons_of_ne (by decide), hlone]
    omega
  | case5 c text hfeed hpair hreturn ih =>
    obtain ⟨line, rest, hline⟩ := exists_lines_eq_cons text
    rw [List.count_cons_of_ne hfeed, Text.loneReturns_cons_of_ne hreturn, ← ih, hline, consChar,
      List.length_cons, List.length_cons]

/-- Without lone carriage returns, a document has one line more than line feeds. -/
theorem length_lines_of_returnsPaired {text : Text} (paired : ReturnsPaired text) :
    (lines text).length = text.count '\n' + 1 := by
  rw [length_lines, Text.loneReturns_eq_zero_iff.2 paired, Nat.add_zero]

/-- Behind a line feed the lines start anew. -/
theorem exists_lines_append {front : Text} (ends : EndsLine front) :
    ∃ block, ∀ back, lines (front ++ back) = block ++ lines back := by
  fun_induction lines front with
  | case1 => exact ⟨[], fun _ => rfl⟩
  | case2 front ih =>
    obtain ⟨block, hblock⟩ := ih ends.tail
    exact ⟨⟨[], .lineFeed⟩ :: block, fun back => by rw [List.cons_append, lines, hblock, List.cons_append]⟩
  | case3 front ih =>
    obtain ⟨block, hblock⟩ := ih ends.tail.tail
    refine ⟨⟨[], .pair⟩ :: block, fun back => ?_⟩
    rw [List.cons_append, List.cons_append, lines, hblock, List.cons_append]
  | case4 front hfeed ih =>
    obtain ⟨block, hblock⟩ := ih ends.tail
    refine ⟨⟨[], .carriageReturn⟩ :: block, fun back => ?_⟩
    -- the text goes on behind the carriage return, since it ends with a line feed
    have hhead : (front ++ back).head? ≠ some '\n' := by
      cases front with
      | nil => exact absurd (ends _ rfl) (by decide)
      | cons d front => simpa using fun heq => hfeed front (by rw [heq])
    rw [List.cons_append, lines_return hhead, hblock, List.cons_append]
  | case5 c front hfeed hpair hreturn ih =>
    obtain ⟨block, hblock⟩ := ih ends.tail
    cases block with
    | nil =>
      -- the first character ends no line, so another one comes behind it
      have hfront := lines_flatten (front ++ [])
      rw [hblock, List.append_nil] at hfront
      obtain rfl : [] = front := hfront
      exact absurd (ends c rfl) hfeed
    | cons line block =>
      refine ⟨⟨c :: line.content, line.ending⟩ :: block, fun back => ?_⟩
      rw [List.cons_append, lines_cons_of_ne hfeed hreturn, hblock]
      rfl

/-- **The lines in front of a text that starts a line**, as many as it has line breaks in front. -/
theorem exists_lines_eq_append {front : Text} (ends : EndsLine front) (back : Text) :
    ∃ block, block.length = front.count '\n' + loneReturns front ∧
      ((block.map Line.text).flatten).length = front.length ∧ lines (front ++ back) = block ++ lines back := by
  obtain ⟨block, hblock⟩ := exists_lines_append ends
  -- the text alone ends with an empty line, which is not among those in front
  have halone := hblock []
  rw [List.append_nil] at halone
  refine ⟨block, ?_, ?_, hblock back⟩
  · have hlength := length_lines front
    rw [halone, List.length_append, lines, List.length_singleton] at hlength
    omega
  · have hflatten := congrArg List.length (lines_flatten front)
    rw [halone, List.map_append, List.flatten_append, List.length_append, lines] at hflatten
    exact hflatten

/-- Below a block of lines positions count from its end. -/
theorem offsetIn_append (block rest : List Line) (number character : Nat) :
    offsetIn (block ++ rest) (block.length + number) character =
      ((block.map Line.text).flatten).length + offsetIn rest number character := by
  induction block with
  | nil => simp
  | cons line block ih =>
    rw [List.cons_append, List.length_cons, Nat.add_right_comm, offsetIn, ih, List.map_cons,
      List.flatten_cons, List.length_append, Nat.add_assoc]

/-- **A line starts behind as many line feeds and lone carriage returns as its number says.** -/
theorem offset_append {front : Text} (ends : EndsLine front) (back : Text) :
    offset (front ++ back) ⟨front.count '\n' + loneReturns front, 0⟩ = front.length := by
  obtain ⟨block, hlength, hflatten, hlines⟩ := exists_lines_eq_append ends back
  have hoffset := offsetIn_append block (lines back) 0 0
  rw [hflatten, ← hlines, hlength] at hoffset
  exact hoffset.trans (congrArg (front.length + ·) (offset_start back))

/-- Without lone carriage returns, a line starts behind as many line feeds as its number says. -/
theorem offset_lineStart {front back : Text} (paired : ReturnsPaired (front ++ back))
    (ends : EndsLine front) : offset (front ++ back) ⟨front.count '\n', 0⟩ = front.length := by
  have hoffset := offset_append ends back
  rwa [Text.loneReturns_eq_zero_iff.2 (paired.of_endsLine ends), Nat.add_zero] at hoffset

/-! ### Edits given together -/

/-- A stretch of a text, by the numbers of characters in front of its ends, and what takes its place. -/
structure Patch where
  first : Nat
  last : Nat
  newText : Text
  deriving DecidableEq, Repr

/-- What an edit does to a text. -/
def Edit.patch (text : Text) (edit : Edit) : Patch :=
  let first := offset text edit.range.start
  let last := offset text edit.range.stop
  ⟨min first last, max first last, edit.newText⟩

/-- What becomes of a text behind its first `passed` characters, if patches are given in the order of
their places. -/
def patchFrom (text : Text) (passed : Nat) : List Patch → Text
  | [] => text.drop passed
  | patch :: patches =>
    (text.drop passed).take (patch.first - passed) ++
      (patch.newText ++ patchFrom text patch.last patches)

/-- The document after several edits, all of whose ranges are ranges of the text as it was. Edits of one
place keep their order. -/
def applyTogether (edits : List Edit) (text : Text) : Text :=
  patchFrom text 0
    ((edits.map (Edit.patch text)).mergeSort fun patch next => decide (patch.first ≤ next.first))

/-- One edit given alone is that edit. -/
theorem applyTogether_singleton (edit : Edit) (text : Text) :
    applyTogether [edit] text = edit.apply text := by
  simp [applyTogether, patchFrom, Edit.patch, Edit.apply, splice]

/-- Patches of one empty stretch put their texts there. -/
theorem patchFrom_of_place {text : Text} {place passed : Nat} (h : passed ≤ place)
    (inserted : List Text) :
    patchFrom text passed (inserted.map (Patch.mk place place)) =
      (text.drop passed).take (place - passed) ++ (inserted.flatten ++ text.drop place) := by
  induction inserted generalizing passed with
  | nil =>
    have hcut := List.take_append_drop (place - passed) (text.drop passed)
    rw [List.drop_drop, Nat.add_sub_cancel' h] at hcut
    exact hcut.symm
  | cons first inserted ih =>
    rw [List.map_cons, patchFrom, ih (Nat.le_refl place)]
    simp

/-- **Edits that insert at one place put their texts there, in their order.** -/
theorem applyTogether_of_place (text : Text) (place : Position) (inserted : List Text) :
    applyTogether (inserted.map fun newText => ⟨⟨place, place⟩, newText⟩) text =
      splice text (offset text place) (offset text place) inserted.flatten := by
  have hpatches : (inserted.map fun newText => (⟨⟨place, place⟩, newText⟩ : Edit)).map
      (Edit.patch text) = inserted.map (Patch.mk (offset text place) (offset text place)) := by
    rw [List.map_map]
    refine List.map_congr_left fun newText _ => ?_
    simp [Edit.patch]
  have hsorted : (inserted.map (Patch.mk (offset text place) (offset text place))).Pairwise
      fun patch next => decide (patch.first ≤ next.first) = true :=
    List.pairwise_map.2 (List.pairwise_of_forall fun _ _ => by simp)
  -- sorting changes nothing, as all patches start at the place
  rw [applyTogether, hpatches, List.mergeSort_of_pairwise hsorted,
    patchFrom_of_place (Nat.zero_le _)]
  simp [splice]

end UsingAdvisor.Document
