import UsingAdvisor.Advice.Insertion
import UsingAdvisor.Scope
import UsingAdvisor.Proofs.Directive.Line
import UsingAdvisor.Proofs.Document.Offset

/-!
# A text at the place for a new directive

Where the line of the last directive at the margin is ended (`LastEnded`), a text can be cut below that
line, or at its top if it has no such directive. `CutAt` says what such a cut is: the lines above it end with
a directive at the margin, and none of the lines below holds one. All that is read from a text can be told
from a cut of it:

* the insertion line is the number of lines above (`CutAt.insertionLine_eq`), and a new directive is put
  right at the cut (`CutAt.offset_eq`);
* the imports are those of the lines above and those of the lines below (`CutAt.imports_eq`);
* no header reaches over the cut (`CutAt.headers_eq`).

Directives put at a cut are more lines above it: `CutAt.insert` is the invariant that carries every
statement about documents after an edit.
-/

namespace UsingAdvisor.Directive

open Text
open Source (Passed)

/-- Whether a directive stands at the margin somewhere in the text. -/
def HasTopLevel (text : Text) : Prop :=
  ∃ line ∈ lines (stripMark text), isTopLevel line = true

/-- A line feed ends the line of the last directive at the margin, if there is one. Only the last line of
a text is not ended by a line feed, so that line must hold no such directive. -/
def LastEnded (text : Text) : Prop :=
  ∀ line ∈ (lines (stripMark text)).getLast?, isTopLevel line = false

instance : DecidablePred HasTopLevel :=
  fun text => inferInstanceAs (Decidable (∃ line ∈ lines (stripMark text), isTopLevel line = true))

instance : DecidablePred LastEnded :=
  fun text => inferInstanceAs
    (Decidable (∀ line ∈ (lines (stripMark text)).getLast?, isTopLevel line = false))

/-- The text is `front` and `back`, cut at the place for a new directive; `above` are the lines in front
of the cut, a mark not counted. -/
structure CutAt (text front : Text) (above : List Text) (back : Text) : Prop where
  text_eq : text = front ++ back
  stripMark_eq : stripMark text = endLines above ++ back
  stripMark_front : stripMark front = endLines above
  ends : EndsLine front
  no_lineFeed : ∀ line ∈ above, '\n' ∉ line
  last : ∀ line ∈ above.getLast?, isTopLevel line = true
  below : ∀ line ∈ lines back, isTopLevel line = false

/-- The lines of a text below its last directive at the margin, if that is ended. -/
theorem exists_lines_split {text : Text} (ended : LastEnded text) :
    ∃ above back, stripMark text = endLines above ++ back ∧
      above.length = insertionLine text ∧ (∀ line ∈ above, '\n' ∉ line) ∧
      (∀ line ∈ above.getLast?, isTopLevel line = true) ∧
      ∀ line ∈ lines back, isTopLevel line = false := by
  obtain ⟨above, below, hsplit, hlength, hlast, hbelow⟩ :=
    exists_countThroughLast_split isTopLevel (lines (stripMark text))
  -- the last line is below the last directive, so a line starts there
  have hne : below ≠ [] := by
    rintro rfl
    rw [List.append_nil] at hsplit
    obtain ⟨line, hline⟩ : ∃ line, above.getLast? = some line :=
      ⟨_, List.getLast?_eq_some_getLast (hsplit ▸ lines_ne_nil _)⟩
    have htop := hlast line hline
    rw [ended line (hsplit ▸ hline)] at htop
    exact Bool.noConfusion htop
  have hlt : above.length < (lines (stripMark text)).length := by
    rw [hsplit, List.length_append]
    have := List.length_pos_iff.2 hne
    omega
  obtain ⟨back, hback, hlines⟩ := exists_eq_endLines_append hlt
  rw [hsplit, List.take_left] at hback
  rw [hsplit, List.drop_left] at hlines
  refine ⟨above, back, hback, hlength, fun line hline => ?_, hlast, hlines ▸ hbelow⟩
  exact not_mem_of_mem_lines (hsplit ▸ List.mem_append_left below hline)

/-- **A text whose last directive at the margin is ended can be cut below it.** -/
theorem exists_cutAt {text : Text} (marked : text.head? = some byteOrderMark → HasTopLevel text)
    (ended : LastEnded text) : ∃ front above back, CutAt text front above back := by
  obtain ⟨above, back, hback, hlength, hfeed, hlast, hbelow⟩ := exists_lines_split ended
  obtain ⟨front, htext, hfront⟩ := exists_eq_append_of_stripMark hback
  have hends : EndsLine (stripMark front) := hfront ▸ endsLine_endLines above
  rcases endsLine_or_eq_of_stripMark hends with hends | hmark
  · exact ⟨front, above, back, htext, hback, hfront, hends, hfeed, hlast, hbelow⟩
  · -- a text that is cut right behind its mark has no line above the cut, and so no directive at the margin
    obtain ⟨line, hline, htop⟩ := marked (by rw [htext, hmark]; rfl)
    have habove : above = [] := by
      rw [hmark, stripMark_mark] at hfront
      cases above with
      | nil => rfl
      | cons first above => simp at hfront
    rw [habove, List.length_nil, insertionLine, eq_comm, countThroughLast_eq_zero_iff] at hlength
    rw [hlength line hline] at htop
    exact Bool.noConfusion htop

namespace CutAt

variable {text front back : Text} {above : List Text}

/-- A new directive belongs below the lines above. -/
theorem insertionLine_eq (cut : CutAt text front above back) :
    insertionLine text = above.length := by
  rw [insertionLine, cut.stripMark_eq, lines_endLines_append cut.no_lineFeed,
    countThroughLast_append, if_pos (countThroughLast_eq_zero_iff.2 cut.below)]
  rcases above.eq_nil_or_concat with rfl | ⟨init, line, rfl⟩
  · rfl
  · have htop : isTopLevel line = true := cut.last line (by simp)
    have hone : countThroughLast isTopLevel [line] = 1 := by simp [countThroughLast, htop]
    rw [List.concat_eq_append, countThroughLast_append, hone, if_neg Nat.one_ne_zero, List.length_append,
      List.length_singleton]

/-- The place for a new directive is the cut. -/
theorem offset_eq (cut : CutAt text front above back) (paired : ReturnsPaired text) :
    Document.offset text ⟨insertionLine text, 0⟩ = front.length := by
  have hcount : front.count '\n' = above.length := by
    rw [← count_stripMark, cut.stripMark_front, count_endLines cut.no_lineFeed]
  have hpaired : ReturnsPaired (front ++ back) := cut.text_eq ▸ paired
  rw [cut.insertionLine_eq, ← hcount, cut.text_eq, Document.offset_lineStart hpaired cut.ends]

/-- The imports above the cut, and those below. -/
theorem imports_eq (cut : CutAt text front above back) :
    imports text = above.filterMap imported? ++ (lines back).filterMap imported? := by
  rw [imports, cut.stripMark_eq, lines_endLines_append cut.no_lineFeed, List.filterMap_append]

/-- **No header reaches over the cut**, so lines that the search passes leave the headers as they are
when they are put there. -/
theorem headers_insert (cut : CutAt text front above back) {block : List Text}
    (passed : ∀ line ∈ block, Passed line) :
    Source.headers (endLines (above ++ block) ++ back) = Source.headers (stripMark text) := by
  rw [cut.stripMark_eq]
  rcases above.eq_nil_or_concat with rfl | ⟨init, line, rfl⟩
  · exact Source.headers_endLines_append passed back
  · -- the directive in front of the cut is no part of a header
    have hline : Passed line :=
      passed_of_isTopLevel (cut.no_lineFeed line (by simp)) (cut.last line (by simp))
    have hsplit {more : List Text} (hmore : ∀ line ∈ more, Passed line) :
        Source.headers (endLines (init.concat line ++ more) ++ back) =
          Source.headers (endLines init) ++ Source.headers back := by
      have happend : endLines (init.concat line ++ more) ++ back =
          endLines init ++ (endLines (line :: more) ++ back) := by simp
      rw [happend, Source.headers_append (endsLine_endLines init) (hline.apart_endLines more back),
        Source.headers_endLines_append (List.forall_mem_cons.2 ⟨hline, hmore⟩)]
    rw [hsplit passed, ← hsplit (List.forall_mem_nil Passed), List.append_nil]

/-! ### Directives put at the cut -/

/-- **Directives written at a cut give a text that is cut below them.** -/
theorem insert (cut : CutAt text front above back) {targets : List Text}
    (dotted : ∀ target ∈ targets, IsDotted target) (ending : LineEnding) :
    CutAt (front ++ (endLines (targets.map (writtenLine ending)) ++ back))
      (front ++ endLines (targets.map (writtenLine ending)))
      (above ++ targets.map (writtenLine ending)) back := by
  have hfeed : ∀ line ∈ targets.map (writtenLine ending), '\n' ∉ line :=
    List.forall_mem_map.2 fun target htarget => not_mem_writtenLine (dotted target htarget) ending
  have htop : ∀ line ∈ targets.map (writtenLine ending), isTopLevel line = true :=
    List.forall_mem_map.2 fun target htarget => isTopLevel_write (dotted target htarget) _
  generalize targets.map (writtenLine ending) = block at hfeed htop ⊢
  have hstrip (rest : Text) (hrest : front = [] → block = [] → stripMark rest = rest) :
      stripMark (front ++ (endLines block ++ rest)) = endLines (above ++ block) ++ rest := by
    by_cases hfront : front = []
    · have habove : endLines above = [] := by
        rw [← cut.stripMark_front, hfront, stripMark]
      rw [hfront, List.nil_append, endLines_append, habove, List.nil_append]
      cases block with
      | nil => exact hrest hfront rfl
      | cons line block =>
        -- a directive is what the text starts with now, so that it starts with no mark
        refine stripMark_of_head?_ne ?_
        obtain hhead | hhead := head?_of_isTopLevel (htop line List.mem_cons_self) <;>
          simp [endLines_cons, List.head?_append, hhead, byteOrderMark]
    · rw [stripMark_append hfront, cut.stripMark_front, endLines_append, List.append_assoc]
  have hback : front = [] → block = [] → stripMark back = back := by
    rintro rfl -
    have htext : text = back := cut.text_eq
    have habove : endLines above = [] := cut.stripMark_front.symm
    rw [← htext, cut.stripMark_eq, habove, List.nil_append, htext]
  have hmark : stripMark (front ++ endLines block) = endLines (above ++ block) := by
    simpa using hstrip [] fun _ _ => rfl
  refine ⟨(List.append_assoc ..).symm, hstrip back hback, hmark,
    cut.ends.append (endsLine_endLines block), ?_, ?_, cut.below⟩
  · exact fun line hline => (List.mem_append.1 hline).elim (cut.no_lineFeed line) (hfeed line)
  · intro line hline
    rw [List.getLast?_append] at hline
    cases hlast : block.getLast? with
    | none => exact cut.last line (by simpa [hlast] using hline)
    | some other =>
      obtain rfl : other = line := by simpa [hlast] using hline
      exact htop other (List.mem_of_getLast? hlast)

/-- Directives written at a cut as the text ends its lines leave it ending its lines so. -/
theorem lineEnding_insert (cut : CutAt text front above back) {targets : List Text}
    (dotted : ∀ target ∈ targets, IsDotted target) :
    lineEnding (front ++ (endLines (targets.map (writtenLine (lineEnding text))) ++ back)) =
      lineEnding text := by
  by_cases hfront : front = []
  · cases targets with
    | nil => rw [cut.text_eq, List.map_nil]; rfl
    | cons target targets =>
      have htarget := dotted target List.mem_cons_self
      have hline : '\n' ∉ usingWord ++ ' ' :: (target ++ [';']) := by
        simp [usingWord, htarget.not_mem_of_endsName stops_lineFeed.toEndsName]
      have hreturn : '\r' ∉ usingWord ++ ' ' :: (target ++ [';']) := by
        simp [usingWord, htarget.not_mem (d := '\r') (by decide) (by decide)]
      have hwrite : write target (lineEnding text).text =
          (usingWord ++ ' ' :: (target ++ [';'])) ++ (lineEnding text).text := by
        simp [write]
      rw [endLines_writtenLine, hfront, List.flatMap_cons, List.nil_append, List.append_assoc, hwrite,
        List.append_assoc, lineEnding_line hline hreturn]
  · have hmem : '\n' ∈ front := cut.ends.lineFeed_mem hfront
    rw [lineEnding_append hmem, cut.text_eq, lineEnding_append hmem]

end CutAt

end UsingAdvisor.Directive
