import Mathlib.Order.Bounds.Basic
import UsingAdvisor.Proofs.Directive.Grammar
import UsingAdvisor.Proofs.Text.Lines

/-!
# The line for a new directive

The lines of a text are looked at for directives at the margin, and the last of them decides: counting through the
last accepted line gives one more than its index (`countThroughLast_eq_succ_iff`), and zero without one. Main
statement: `insertionLine_exact`.
-/

namespace UsingAdvisor

open Text

namespace Text

/-- Counting goes through the lines in front of the last accepted one, and that one. -/
theorem countThroughLast_eq_succ_iff {accept : Text → Bool} {block : List Text} {number : Nat} :
    countThroughLast accept block = number + 1 ↔
      IsGreatest {index | ∃ line, block[index]? = some line ∧ accept line = true} number := by
  obtain ⟨above, below, rfl, hlength, hlast, hbelow⟩ := exists_countThroughLast_split accept block
  -- whatever is accepted stands among the lines above
  have hbound {index : Nat} {line : Text} (hline : (above ++ below)[index]? = some line)
      (haccept : accept line = true) : index < above.length := by
    by_contra hle
    rw [List.getElem?_append_right (Nat.le_of_not_lt hle)] at hline
    rw [hbelow line (List.mem_of_getElem? hline)] at haccept
    cases haccept
  rw [← hlength]
  constructor
  · intro hnumber
    have hfront : number < above.length := by omega
    refine ⟨⟨above[number], ?_, hlast _ ?_⟩, fun index ⟨line, hline, haccept⟩ => ?_⟩
    · rw [List.getElem?_append_left hfront, List.getElem?_eq_getElem hfront]
    · rw [Option.mem_def, List.getLast?_eq_getElem?, hnumber, Nat.add_sub_cancel, List.getElem?_eq_getElem hfront]
    · have := hbound hline haccept
      omega
  · rintro ⟨⟨line, hline, haccept⟩, hgreatest⟩
    have hfront := hbound hline haccept
    obtain ⟨last, hlastLine⟩ : ∃ last, above.getLast? = some last :=
      ⟨_, List.getLast?_eq_some_getLast (List.ne_nil_of_length_pos (by omega))⟩
    have hle := hgreatest ⟨last, by
      rw [List.getElem?_append_left (Nat.sub_one_lt (by omega)), ← List.getLast?_eq_getElem?, hlastLine],
      hlast last hlastLine⟩
    omega

/-- Counting does not go beyond the last line. -/
theorem countThroughLast_le_length (accept : Text → Bool) (block : List Text) :
    countThroughLast accept block ≤ block.length := by
  obtain ⟨above, below, rfl, hlength, -, -⟩ := exists_countThroughLast_split accept block
  rw [← hlength, List.length_append]
  exact Nat.le_add_right ..

end Text

namespace Directive

/-- **A new directive belongs just below the last line that starts with a directive at the margin**, alias
directives counted, and on the first line if there is no such line. This is the line below the last one at the most.
Every line that imports something and is not indented is above it. -/
theorem insertionLine_exact (text : Text) :
    (∀ number, insertionLine text = number + 1 ↔
      IsGreatest {index | ∃ line, (lines (stripMark text))[index]? = some line ∧ StartsTopLevel line} number) ∧
    (insertionLine text = 0 ↔ ∀ line ∈ lines (stripMark text), ¬ StartsTopLevel line) ∧
    insertionLine text ≤ (lines (stripMark text)).length ∧
    ∀ index line target, (lines (stripMark text))[index]? = some line → StartsImport line target →
      Unindented line → index < insertionLine text := by
  have hgreatest (number : Nat) : insertionLine text = number + 1 ↔
      IsGreatest {index | ∃ line, (lines (stripMark text))[index]? = some line ∧ StartsTopLevel line} number := by
    simp only [insertionLine, countThroughLast_eq_succ_iff, isTopLevel_iff]
  have hzero : insertionLine text = 0 ↔ ∀ line ∈ lines (stripMark text), ¬ StartsTopLevel line := by
    simp only [insertionLine, countThroughLast_eq_zero_iff, ← isTopLevel_iff, Bool.not_eq_true]
  refine ⟨hgreatest, hzero, countThroughLast_le_length .., fun index line target hline himport hmargin => ?_⟩
  have htop : StartsTopLevel line := himport.startsTopLevel hmargin
  cases hnumber : insertionLine text with
  | zero => exact absurd htop (hzero.1 hnumber line (List.mem_of_getElem? hline))
  | succ number => exact Nat.lt_succ_of_le (((hgreatest number).1 hnumber).2 ⟨line, hline, htop⟩)

/-- An alias directive, an indented directive and one in a comment. -/
example : insertionLine "using System;\nusing J = N.J ;\n  using A;\n// using B;\n".toList = 2 := by
  decide +kernel

end Directive

end UsingAdvisor
