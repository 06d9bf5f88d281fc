import UsingAdvisor.Advice.Completion
import UsingAdvisor.Proofs.Advice.Convergence

/-!
# The number of the line for a new directive

An editor ends a line at a line feed, at a carriage return and at the pair of both; the line for a new directive is
counted in line feeds alone. The two agree on the number of the line that holds the last directive at the margin
if no lone carriage return stands in front of it, and otherwise the line for a new directive is too high by the
number of these (`onLine_last_iff`). Main statement: `insertionLine_numbers_iff`.
-/

namespace UsingAdvisor

open Text (EndsLine byteOrderMark endLines lines loneReturns stripMark)

/-! ### Lines that hold a stretch of a text -/

namespace Document

/-- The characters of a text from `first` up to `last` stand on the line with this number, in front of its
break. -/
def OnLine (text : Text) (number first last : Nat) : Prop :=
  ∃ line ∈ (lines text)[number]?,
    offset text ⟨number, 0⟩ ≤ first ∧ last ≤ offset text ⟨number, 0⟩ + line.content.length

/-- The next line starts behind the characters of a line. -/
theorem offsetIn_add_length_le {block : List Line} {number : Nat} {line : Line} (h : line ∈ block[number]?) :
    offsetIn block number 0 + line.content.length ≤ offsetIn block (number + 1) 0 := by
  induction block generalizing number with
  | nil => simp at h
  | cons first block ih =>
    cases number with
    | zero =>
      obtain rfl : first = line := by simpa using h
      simp only [offsetIn, column_zero, Line.text, List.length_append]
      omega
    | succ number =>
      have hnext : offsetIn block number 0 + line.content.length ≤ offsetIn block (number + 1) 0 :=
        ih (by simpa using h)
      simp only [offsetIn] at hnext ⊢
      omega

/-- No two lines hold the same characters. -/
theorem OnLine.unique {text : Text} {number other first last : Nat} (h : OnLine text number first last)
    (hother : OnLine text other first last) (hlt : first < last) : number = other := by
  have hbelow {upper lower : Nat} (hupper : OnLine text upper first last) (hlower : OnLine text lower first last) :
      ¬ upper < lower := by
    intro hless
    obtain ⟨line, hline, -, hlast⟩ := hupper
    obtain ⟨-, -, hfirst, -⟩ := hlower
    -- the lower line starts behind the upper one
    have hnext : offset text ⟨upper, 0⟩ + line.content.length ≤ offset text ⟨upper + 1, 0⟩ :=
      offsetIn_add_length_le hline
    have hle : Position.le ⟨upper + 1, 0⟩ ⟨lower, 0⟩ := by
      simp only [Position.le]
      omega
    have hmono := offset_mono text hle
    omega
  have := hbelow h hother
  have := hbelow hother h
  omega

/-- Characters that are part of no line break belong to the first line behind them. -/
theorem lines_append_of_not_mem {word text : Text} (hfeed : '\n' ∉ word) (hreturn : '\r' ∉ word) {line : Line}
    {rest : List Line} (h : lines text = line :: rest) :
    lines (word ++ text) = ⟨word ++ line.content, line.ending⟩ :: rest := by
  induction word with
  | nil => exact h
  | cons c word ih =>
    obtain ⟨hc, hword⟩ := not_or.1 (mt List.mem_cons.2 hfeed)
    obtain ⟨hc', hword'⟩ := not_or.1 (mt List.mem_cons.2 hreturn)
    rw [List.cons_append, lines_cons_of_ne (Ne.symm hc) (Ne.symm hc'), ih hword hword', consChar]
    rfl

/-- **A word behind a line feed stands on the line with the number of line breaks in front of it**, where a mark
may stand between the two. -/
theorem onLine_of_endsLine {front mark word : Text} (ends : EndsLine front) (hfeed : '\n' ∉ mark ++ word)
    (hreturn : '\r' ∉ mark ++ word) (back : Text) :
    OnLine (front ++ (mark ++ word ++ back)) (front.count '\n' + loneReturns front)
      (front ++ mark).length ((front ++ mark).length + word.length) := by
  obtain ⟨line, rest, hline⟩ := exists_lines_eq_cons back
  obtain ⟨block, hlength, -, hlines⟩ := exists_lines_eq_append ends (mark ++ word ++ back)
  rw [lines_append_of_not_mem hfeed hreturn hline] at hlines
  refine ⟨⟨mark ++ word ++ line.content, line.ending⟩, ?_, ?_, ?_⟩
  · rw [hlines, ← hlength]
    simp
  · rw [offset_append ends, List.length_append]
    omega
  · rw [offset_append ends]
    simp only [List.length_append]
    omega

end Document

namespace Directive

/-! ### The last directive -/

/-- `directive` is the last directive at the margin of a text. It starts a line, where a mark in front of the text
is not counted, and goes through its semicolon; none of the lines below it holds a directive at the margin. -/
structure IsLast (text front directive behind : Text) : Prop where
  text_eq : text = front ++ (directive ++ behind)
  starts : EndsLine (stripMark front)
  top : isTopLevel directive = true
  semicolon : ∃ body, directive = body ++ [';'] ∧ ';' ∉ body
  below : ∀ line ∈ (lines behind).tail, isTopLevel line = false

/-- **A text with a directive at the margin has a last one.** -/
theorem exists_isLast {text : Text} (top : HasTopLevel text) :
    ∃ front directive behind, IsLast text front directive behind := by
  obtain ⟨above, below, hsplit, -, hlast, hbelow⟩ :=
    Text.exists_countThroughLast_split isTopLevel (lines (stripMark text))
  rcases above.eq_nil_or_concat with rfl | ⟨init, line, rfl⟩
  · obtain ⟨line, hline, htop⟩ := top
    rw [hsplit, List.nil_append] at hline
    rw [hbelow line hline] at htop
    exact Bool.noConfusion htop
  · rw [List.concat_eq_append] at hsplit hlast
    have hline : isTopLevel line = true := hlast line (by simp)
    -- the text is cut in front of that line, and the line behind its first semicolon
    have hlt : init.length < (lines (stripMark text)).length := by
      rw [hsplit, List.append_assoc, List.length_append, List.singleton_append, List.length_cons]
      omega
    obtain ⟨back, hback, hlines⟩ := Text.exists_eq_endLines_append hlt
    rw [hsplit, List.append_assoc, List.take_left] at hback
    rw [hsplit, List.append_assoc, List.drop_left, List.singleton_append] at hlines
    obtain ⟨body, more, rfl, hbody⟩ := List.eq_append_cons_of_mem (semicolon_mem_of_isTopLevel hline)
    obtain ⟨tail, rfl⟩ := Text.prefix_of_lines_eq_cons hlines
    have hdirective : body ++ ';' :: more ++ tail = (body ++ [';']) ++ (more ++ tail) := by simp
    have hfeed : '\n' ∉ body ++ [';'] := by
      have hfeed : '\n' ∉ body ++ ';' :: more := Text.not_mem_of_mem_lines (hlines ▸ List.mem_cons_self)
      simp only [List.mem_append, List.mem_cons, not_or] at hfeed ⊢
      exact ⟨hfeed.1, hfeed.2.1, List.not_mem_nil⟩
    obtain ⟨front, htext, hfront⟩ := Text.exists_eq_append_of_stripMark (hdirective ▸ hback)
    refine ⟨front, body ++ [';'], more ++ tail, htext, ?_, ?_, ⟨body, rfl, hbody⟩, ?_⟩
    · rw [hfront]
      exact Text.endsLine_endLines init
    · rw [← hline]
      exact isTopLevel_semicolon body [] more
    · obtain ⟨first, rest, hrest⟩ := Text.exists_lines_eq_cons (more ++ tail)
      rw [hdirective, Text.lines_append_of_not_mem hfeed hrest] at hlines
      rw [hrest, List.tail_cons, (List.cons.inj hlines).2]
      exact hbelow

namespace IsLast

variable {text front directive behind : Text} (last : IsLast text front directive behind)
include last

/-- The directive has no line break in it. -/
theorem not_mem : '\n' ∉ directive ∧ '\r' ∉ directive := by
  obtain ⟨body, hbody, hsemicolon⟩ := last.semicolon
  have htop := hbody ▸ last.top
  rw [hbody]
  exact ⟨not_mem_of_isTopLevel htop hsemicolon Text.stops_lineFeed (by decide) (by decide),
    not_mem_of_isTopLevel htop hsemicolon Text.stops_carriageReturn (by decide) (by decide)⟩

/-- **The directive stands on the line with the number of line breaks in front of it.** -/
theorem onLine : Document.OnLine text (front.count '\n' + loneReturns front) front.length
    (front.length + directive.length) := by
  obtain ⟨hfeed, hreturn⟩ := last.not_mem
  rw [last.text_eq]
  rcases Text.endsLine_or_eq_of_stripMark last.starts with hends | rfl
  · have hline := Document.onLine_of_endsLine hends (List.nil_append directive ▸ hfeed)
      (List.nil_append directive ▸ hreturn) behind
    rwa [List.append_nil] at hline
  · have hmark : '\n' ∉ [byteOrderMark] ++ directive ∧ '\r' ∉ [byteOrderMark] ++ directive := by
      simp [hfeed, hreturn, byteOrderMark]
    exact Document.onLine_of_endsLine Text.endsLine_nil hmark.1 hmark.2 behind

/-- The line for a new directive has the number of line feeds in front of the last directive, and one more. -/
theorem insertionLine_eq : insertionLine text = front.count '\n' + 1 := by
  have hstrip : stripMark text = stripMark front ++ (directive ++ behind) := by
    rw [last.text_eq]
    by_cases hne : front = []
    · -- a directive starts with no mark
      subst hne
      refine Text.stripMark_of_head?_ne ?_
      obtain hhead | hhead := head?_of_isTopLevel last.top <;> simp [List.head?_append, hhead, byteOrderMark]
    · exact Text.stripMark_append hne _
  obtain ⟨above, hlength, hlines⟩ := Text.exists_lines_append last.starts (directive ++ behind)
  obtain ⟨line, rest, hrest⟩ := Text.exists_lines_eq_cons behind
  have hbelow : ∀ line ∈ rest, isTopLevel line = false := by
    have hbelow := last.below
    rwa [hrest] at hbelow
  have hfirst : isTopLevel (directive ++ line) = true := by
    rw [isTopLevel_append_of_mem (semicolon_mem_of_isTopLevel last.top), last.top]
  have hone : Text.countThroughLast isTopLevel ((directive ++ line) :: rest) = 1 := by
    rw [Text.countThroughLast, Text.countThroughLast_eq_zero_iff.2 hbelow, hfirst]
    rfl
  rw [insertionLine, hstrip, hlines, Text.lines_append_of_not_mem last.not_mem.1 hrest,
    Text.countThroughLast_append, hone, if_neg Nat.one_ne_zero, hlength, Text.count_stripMark]

/-- **The number of the line that holds the directive**: the line for a new directive, and as many lines more as
lone carriage returns stand in front. -/
theorem onLine_iff {number : Nat} :
    Document.OnLine text number front.length (front.length + directive.length) ↔
      number + 1 = insertionLine text + loneReturns front := by
  rw [last.insertionLine_eq]
  constructor
  · intro hnumber
    have hpos : 0 < directive.length := by
      obtain ⟨body, rfl, -⟩ := last.semicolon
      simp
    have hsame := hnumber.unique last.onLine (by omega)
    omega
  · intro hnumber
    obtain rfl : number = front.count '\n' + loneReturns front := by omega
    exact last.onLine

end IsLast

end Directive

namespace Advice

open Directive (HasTopLevel IsLast insertionLine)

/-- The edits that are offered for a document: those of the fixes and those of the completions. -/
def Offered (document : Text) (edit : Document.Edit) : Prop :=
  (∃ index url diagnostics, ∃ fix ∈ quickFixes index url document diagnostics, edit ∈ fix.edits) ∨
    ∃ index line addUsing, ∃ item ∈ completions index document line addUsing,
      ∃ edits ∈ item.edits, edit ∈ edits

/-- Every offered edit inserts a directive. -/
theorem Offered.exists_eq_insertion {document : Text} {edit : Document.Edit} (h : Offered document edit) :
    ∃ target, edit = insertion document target := by
  rcases h with ⟨index, url, diagnostics, fix, hfix, hedit⟩ |
    ⟨index, line, addUsing, item, hitem, edits, hedits, hedit⟩
  · obtain ⟨remedy, -, rfl⟩ | ⟨-, hedits⟩ := mem_quickFixes hfix
    · exact ⟨remedy.home, List.mem_singleton.1 hedit⟩
    · obtain ⟨home, -, rfl⟩ := List.mem_map.1 (hedits ▸ hedit)
      exact ⟨home, rfl⟩
  · rw [completions] at hitem
    split at hitem
    next => exact absurd hitem List.not_mem_nil
    next =>
      obtain ⟨symbol, -, rfl⟩ := List.mem_map.1 hitem
      obtain ⟨-, hedits⟩ := Option.ite_none_right_eq_some.1 hedits
      obtain rfl := Option.some.inj hedits
      exact ⟨symbol.home, List.mem_singleton.1 hedit⟩

/-- **The line above the one for a new directive holds the last directive if and only if no lone carriage return
stands in front of that.** A text with a directive at the margin has a last one, which stands on one line of the
editor; the number of that line is told by the line for a new directive and by the lone carriage returns in front.
The edits that are offered for the text are at the start of the line below in the same case only. -/
theorem insertionLine_numbers_iff {text : Text} (top : HasTopLevel text) :
    (∃ front directive behind, IsLast text front directive behind) ∧
    ∀ front directive behind, IsLast text front directive behind →
      let holds := fun number => Document.OnLine text number front.length (front.length + directive.length)
      (∀ number, holds number ↔ number + 1 = insertionLine text + loneReturns front) ∧
      (holds (insertionLine text - 1) ↔ loneReturns front = 0) ∧
      ∀ number, holds number → ∀ edit, Offered text edit →
        (edit.range.start = ⟨number + 1, 0⟩ ↔ loneReturns front = 0) := by
  refine ⟨Directive.exists_isLast top, ?_⟩
  intro front directive behind last holds
  have hline := last.insertionLine_eq
  refine ⟨fun number => last.onLine_iff, last.onLine_iff.trans (by omega), fun number hnumber edit hedit => ?_⟩
  obtain ⟨target, rfl⟩ := hedit.exists_eq_insertion
  have hnumber := last.onLine_iff.1 hnumber
  have hstart : (insertion text target).range.start = ⟨insertionLine text, 0⟩ := rfl
  rw [hstart, Document.Position.mk.injEq, and_iff_left rfl]
  omega

/-- A text with a mark, a pair in front of its directive and a lone carriage return behind it. -/
theorem insertionLine_numbers_paired :
    let front := "\uFEFF// base\r\n".toList
    let directive := "using System;".toList
    let behind := " // more\rclass Crate".toList
    let text := front ++ (directive ++ behind)
    HasTopLevel text ∧ IsLast text front directive behind ∧ loneReturns front = 0 ∧ insertionLine text = 2 ∧
      Document.OnLine text (insertionLine text - 1) front.length (front.length + directive.length) := by
  intro front directive behind text
  have top : HasTopLevel text := by decide +kernel
  have semicolon : ∃ body, directive = body ++ [';'] ∧ ';' ∉ body :=
    ⟨"using System".toList, by decide +kernel, by decide +kernel⟩
  have last : IsLast text front directive behind :=
    ⟨rfl, by decide +kernel, by decide +kernel, semicolon, by decide +kernel⟩
  have paired : loneReturns front = 0 := by decide +kernel
  obtain ⟨-, hnumbers⟩ := insertionLine_numbers_iff top
  exact ⟨top, last, paired, by decide +kernel, (hnumbers front directive behind last).2.1.2 paired⟩

/-- **A line for a new directive that is too high**: a lone carriage return stands above the last directive, and
the new one is put in front of that. -/
theorem not_onLine_loneReturn :
    let front := "// base\r// more\n".toList
    let directive := "using System;".toList
    let behind := "\n".toList
    let text := front ++ (directive ++ behind)
    HasTopLevel text ∧ IsLast text front directive behind ∧ insertionLine text = 2 ∧
      ¬ Document.OnLine text (insertionLine text - 1) front.length (front.length + directive.length) ∧
      Document.lineText text (insertionLine text - 1) = "// more\n".toList ∧
      Document.lineText text 2 = "using System;\n".toList ∧
      (insertion text "Shop.Parts".toList).apply text =
        "// base\r// more\nusing Shop.Parts;\nusing System;\n".toList := by
  intro front directive behind text
  have semicolon : ∃ body, directive = body ++ [';'] ∧ ';' ∉ body :=
    ⟨"using System".toList, by decide +kernel, by decide +kernel⟩
  have last : IsLast text front directive behind :=
    ⟨rfl, by decide +kernel, by decide +kernel, semicolon, by decide +kernel⟩
  refine ⟨by decide +kernel, last, by decide +kernel, ?_, by decide +kernel, by decide +kernel,
    by decide +kernel⟩
  rw [last.onLine_iff]
  decide +kernel

end Advice

end UsingAdvisor
