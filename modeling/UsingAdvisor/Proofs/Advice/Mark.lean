import UsingAdvisor.Proofs.Advice.LastLine
import UsingAdvisor.Proofs.Scope

/-!
# Fixes and the mark

What becomes of a mark in front of a document when a fix is taken. A document with a directive at the margin keeps
its mark, since new directives go below a line (`head?_insertAll`). A document without one has its directives put
at the very start, in front of the mark (`insertAll_eq_of_not_hasTopLevel`). The mark is then no mark any more, but
the first character of the line behind them, where it hides the directive or the header that starts there: only
what stands below that line is still read (`imports_insertAll_of_mark`, `mem_enclosing_insertAll_of_mark`). The
main statement tells exactly when the mark is kept, and when what was read before is still read
(`kept_quickFix_iff`).
-/

namespace UsingAdvisor

open Directive (HasTopLevel LastEnded imported? imports insertionLine isTopLevel writtenLine)
open Text (IsDotted ReturnsPaired byteOrderMark endLines lineEnding lines stripMark)

/-! ### Below the first line -/

/-- The text below the first line. -/
def Text.below : Text → Text
  | [] => []
  | c :: text => if c = '\n' then text else below text

/-- The namespaces that a document imports below its first line. -/
def Directive.importsBelow (document : Text) : List Text :=
  (lines document).tail.filterMap imported?

/-- The namespaces that enclose a document by the headers below its first line. -/
def enclosingBelow (document : Text) : List Text :=
  (Source.headers (Text.below document)).flatMap fun header => lineage header.name

/-- The text below a line is what follows its line feed. -/
theorem Text.below_line {line : Text} (hfeed : '\n' ∉ line) (back : Text) :
    Text.below (line ++ '\n' :: back) = back := by
  induction line with
  | nil => rfl
  | cons c line ih =>
    obtain ⟨hc, hline⟩ := not_or.1 (mt List.mem_cons.2 hfeed)
    rw [List.cons_append, Text.below, if_neg (Ne.symm hc), ih hline]

/-- There is nothing below a single line. -/
theorem Text.below_of_not_mem {line : Text} (hfeed : '\n' ∉ line) : Text.below line = [] := by
  induction line with
  | nil => rfl
  | cons c line ih =>
    obtain ⟨hc, hline⟩ := not_or.1 (mt List.mem_cons.2 hfeed)
    rw [Text.below, if_neg (Ne.symm hc), ih hline]

/-- A mark is part of the first line. -/
theorem Text.exists_lines_of_mark {document : Text} (marked : document.head? = some byteOrderMark) :
    ∃ line rest, lines document = (byteOrderMark :: line) :: rest := by
  obtain ⟨text, rfl⟩ := List.head?_eq_some_iff.1 marked
  obtain ⟨line, rest, hlines⟩ := Text.exists_lines_eq_cons text
  exact ⟨line, rest, Text.lines_cons_of_ne (by decide) hlines⟩

/-- Where the search passes the first line, all headers stand below it. -/
theorem Source.headers_below {line : Text} {rest : List Text} {text : Text} (hlines : lines text = line :: rest)
    (hpassed : Source.Passed line) : Source.headers text = Source.headers (Text.below text) := by
  cases rest with
  | nil =>
    obtain rfl := Text.eq_of_lines_eq_singleton hlines
    rw [hpassed.headers_eq_nil, Text.below_of_not_mem hpassed.1]
    exact (Source.Header.listFrom_nil []).symm
  | cons next rest =>
    obtain ⟨back, rfl, -⟩ := Text.exists_eq_append_lineFeed hlines (List.cons_ne_nil next rest)
    have hline := Source.headers_endLines_append (List.forall_mem_singleton.2 hpassed) back
    rw [Text.below_line hpassed.1, ← hline]
    simp

namespace Advice

/-! ### Documents with a directive at the margin -/

section Top

variable {document : Text} {targets : List Text} (paired : ReturnsPaired document)
  (marked : document.head? = some byteOrderMark) (top : HasTopLevel document)
  (dotted : ∀ target ∈ targets, IsDotted target)

include paired top

/-- Directives are inserted behind the mark. -/
theorem head?_insertAll (marked : document.head? = some byteOrderMark) :
    (insertAll document targets).head? = some byteOrderMark := by
  by_cases ended : LastEnded document
  · obtain ⟨front, above, back, cut⟩ := Directive.exists_cutAt (fun _ => top) ended
    -- with nothing in front of the cut the text would be the same without its mark
    have hfront : front ≠ [] := by
      rintro rfl
      have habove : endLines above = [] := cut.stripMark_front.symm
      have hsame : stripMark document = document := by
        rw [cut.stripMark_eq, habove, cut.text_eq]
      obtain ⟨rest, rfl⟩ := List.head?_eq_some_iff.1 marked
      exact absurd (congrArg List.length hsame) (by simp)
    obtain ⟨c, front, rfl⟩ := List.exists_cons_of_ne_nil hfront
    rw [insertAll_eq cut paired, ← marked, cut.text_eq]
    rfl
  · obtain ⟨rest, rfl⟩ := List.head?_eq_some_iff.1 marked
    rw [insertAll_eq_append ended paired]
    rfl

include dotted

/-- The imports of the document stay. -/
theorem imports_subset_insertAll : imports document ⊆ imports (insertAll document targets) := by
  intro home hhome
  by_cases ended : LastEnded document
  · exact (mem_imports_insertAll paired (fun _ => top) ended dotted).2 (.inl hhome)
  · cases targets with
    | nil =>
      rwa [insertAll_eq_append ended paired, List.map_nil, Text.endLines_nil, List.append_nil]
    | cons target targets =>
      rw [imports_insertAll_cons ended paired dotted]
      exact List.mem_append_left targets hhome

/-- The namespaces that enclose the document stay. -/
theorem enclosing_insertAll_of_hasTopLevel : enclosing (insertAll document targets) = enclosing document := by
  by_cases ended : LastEnded document
  · exact enclosing_insertAll paired (fun _ => top) ended dotted
  · exact enclosing_insertAll_of_not_lastEnded ended paired dotted

end Top

/-! ### Documents without one -/

/-- Without a directive at the margin the new ones go in front of the document. -/
theorem insertAll_eq_of_not_hasTopLevel {document : Text} (top : ¬ HasTopLevel document) (targets : List Text) :
    insertAll document targets = endLines (targets.map (writtenLine (lineEnding document))) ++ document := by
  have hline : insertionLine document = 0 := by
    refine Text.countThroughLast_eq_zero_iff.2 fun line hline => ?_
    exact Bool.eq_false_iff.2 fun htop => top ⟨line, hline, htop⟩
  rw [insertAll_eq_splice, hline, Document.offset_start]
  rfl

section Bare

variable {document target : Text} {targets : List Text} (top : ¬ HasTopLevel document)
  (dotted : ∀ name ∈ target :: targets, IsDotted name)

include top

/-- The document starts with a directive then, and with no mark. -/
theorem head?_insertAll_of_not_hasTopLevel :
    (insertAll document (target :: targets)).head? = some 'u' := by
  rw [insertAll_eq_of_not_hasTopLevel top, List.map_cons, Text.endLines_cons]
  rfl

theorem stripMark_insertAll_of_not_hasTopLevel :
    stripMark (insertAll document (target :: targets)) =
      endLines ((target :: targets).map (writtenLine (lineEnding document))) ++ document := by
  have hhead : (insertAll document (target :: targets)).head? = some 'u' :=
    head?_insertAll_of_not_hasTopLevel top
  rw [Text.stripMark_of_head?_ne (by rw [hhead]; decide), insertAll_eq_of_not_hasTopLevel top]

include dotted

/-- **A mark behind the new directives hides the first import**: those below the first line are left. -/
theorem imports_insertAll_of_mark (marked : document.head? = some byteOrderMark) :
    imports (insertAll document (target :: targets)) = target :: targets ++ Directive.importsBelow document := by
  have hfeed : ∀ line ∈ (target :: targets).map (writtenLine (lineEnding document)), '\n' ∉ line :=
    List.forall_mem_map.2 fun name hname => Directive.not_mem_writtenLine (dotted name hname) _
  obtain ⟨line, rest, hlines⟩ := Text.exists_lines_of_mark marked
  rw [imports, stripMark_insertAll_of_not_hasTopLevel top, Text.lines_endLines_append hfeed,
    List.filterMap_append, filterMap_imported?_writtenLine dotted, Directive.importsBelow, hlines,
    List.filterMap_cons_none (Directive.imported?_mark line), List.tail_cons]

/-- **A mark behind the new directives hides the first header**: those below the first line are left. -/
theorem mem_enclosing_insertAll_of_mark (marked : document.head? = some byteOrderMark) {home : Text} :
    home ∈ enclosing (insertAll document (target :: targets)) ↔ home ∈ enclosingBelow document := by
  have hpassed : ∀ line ∈ (target :: targets).map (writtenLine (lineEnding document)), Source.Passed line :=
    List.forall_mem_map.2 fun name hname =>
      Directive.passed_of_isTopLevel (Directive.not_mem_writtenLine (dotted name hname) _)
        (Directive.isTopLevel_write (dotted name hname) _)
  obtain ⟨line, rest, hlines⟩ := Text.exists_lines_of_mark marked
  have hmark : Source.Passed (byteOrderMark :: line) := by
    refine ⟨Text.not_mem_of_mem_lines (hlines ▸ List.mem_cons_self), ?_, by simp [byteOrderMark]⟩
    exact ⟨byteOrderMark, line, rfl, by decide, by decide, by decide⟩
  rw [enclosing, stripMark_insertAll_of_not_hasTopLevel top, Source.headers_endLines_append hpassed,
    Source.headers_below hlines hmark, List.mem_eraseDups, enclosingBelow]

end Bare

/-! ### Fixes -/

/-- A fix inserts directives, one at least, for namespaces that need a remedy. -/
theorem exists_targets_of_mem_quickFixes {index : SymbolIndex} {url : Url} {document : Text}
    {diagnostics : List Diagnostic} {fix : QuickFix} (hfix : fix ∈ quickFixes index url document diagnostics) :
    ∃ target targets, Document.applyTogether fix.edits document = insertAll document (target :: targets) ∧
      ∀ name ∈ target :: targets, name ∈ (remedies index document diagnostics).map Remedy.home := by
  obtain ⟨remedy, hremedy, rfl⟩ | ⟨htitle, hedits⟩ := mem_quickFixes hfix
  · exact ⟨remedy.home, [], rfl, List.forall_mem_singleton.2 (List.mem_map_of_mem hremedy)⟩
  · cases hhomes : (remedies index document diagnostics).map Remedy.home with
    | nil =>
      rw [quickFixes_eq, List.map_eq_nil_iff.1 hhomes] at hfix
      exact absurd hfix List.not_mem_nil
    | cons target targets =>
      refine ⟨target, targets, ?_, fun _ => id⟩
      rw [hedits, hhomes, insertAll]

/-- **What a fix keeps of a document with a mark**, in which no carriage return stands alone. It keeps the mark if
and only if the document has a directive at the margin. All imports, and all enclosing namespaces, are kept in that
case; otherwise they are kept if and only if each of them is also read below the first line. -/
theorem kept_quickFix_iff (sources : List Text) (url : Url) (diagnostics : List Diagnostic) {document : Text}
    (paired : ReturnsPaired document) (marked : document.head? = some byteOrderMark) :
    ∀ fix ∈ quickFixes (SymbolIndex.ofSources sources) url document diagnostics,
      let after := Document.applyTogether fix.edits document
      (after.head? = some byteOrderMark ↔ HasTopLevel document) ∧
      (imports document ⊆ imports after ↔
        HasTopLevel document ∨ imports document ⊆ Directive.importsBelow document) ∧
      (enclosing document ⊆ enclosing after ↔
        HasTopLevel document ∨ enclosing document ⊆ enclosingBelow document) := by
  intro fix hfix after
  obtain ⟨target, targets, happly, hremedies⟩ := exists_targets_of_mem_quickFixes hfix
  have dotted : ∀ name ∈ target :: targets, IsDotted name := fun name hname =>
    isDotted_of_mem_remedies sources document diagnostics name (hremedies name hname)
  have hunseen : ∀ name ∈ target :: targets, name ∉ imports document := fun name hname =>
    not_mem_imports ((apt_remedies _ document diagnostics).unseen name (hremedies name hname))
  have hafter : after = insertAll document (target :: targets) := happly
  rw [hafter]
  by_cases top : HasTopLevel document
  · refine ⟨iff_of_true (head?_insertAll paired top marked) top,
      iff_of_true (imports_subset_insertAll paired top dotted) (.inl top), iff_of_true ?_ (.inl top)⟩
    rw [enclosing_insertAll_of_hasTopLevel paired top dotted]
    exact List.Subset.refl _
  · refine ⟨iff_of_false ?_ top, ?_, ?_⟩
    · rw [head?_insertAll_of_not_hasTopLevel top]
      decide
    · rw [imports_insertAll_of_mark top dotted marked, or_iff_right top]
      refine ⟨fun hkept home hhome => ?_, fun hbelow => List.subset_append_of_subset_right _ hbelow⟩
      -- none of the new imports is among the old ones
      exact (List.mem_append.1 (hkept hhome)).resolve_left fun hnew => hunseen home hnew hhome
    · rw [or_iff_right top]
      exact forall₂_congr fun home _ => mem_enclosing_insertAll_of_mark top dotted marked

/-- A document with a mark and a directive, which keeps its mark and all it sees. -/
theorem kept_quickFix_using :
    let sources := ["namespace Shop.Parts;\npublic class Gear ;\n".toList]
    let document := "\uFEFFusing System;\r\n\r\nnamespace Shop.Web;\r\nclass Crate : Gear".toList
    let url : Url := ⟨"file".toList, none, .segments ["Crate.cs".toList], none, none⟩
    let diagnostics : List Diagnostic := [⟨⟨⟨3, 14⟩, ⟨3, 18⟩⟩, none, none, none, none,
      Wording.missingType.message "Gear".toList, none, none, none⟩]
    let fixes := quickFixes (SymbolIndex.ofSources sources) url document diagnostics
    (ReturnsPaired document ∧ document.head? = some byteOrderMark) ∧
      fixes.map QuickFix.title = [importTitle "Shop.Parts".toList] ∧
      ∀ fix ∈ fixes,
        let after := Document.applyTogether fix.edits document
        after.head? = some byteOrderMark ∧ imports document ⊆ imports after ∧
          enclosing document ⊆ enclosing after := by
  intro sources document url diagnostics fixes
  have paired : ReturnsPaired document := by decide +kernel
  have marked : document.head? = some byteOrderMark := by decide +kernel
  have top : HasTopLevel document := by decide +kernel
  have titles : fixes.map QuickFix.title = [importTitle "Shop.Parts".toList] := by decide +kernel
  refine ⟨⟨paired, marked⟩, titles, fun fix hfix => ?_⟩
  obtain ⟨hmark, himports, henclosing⟩ := kept_quickFix_iff sources url diagnostics paired marked fix hfix
  exact ⟨hmark.2 top, himports.2 (.inl top), henclosing.2 (.inl top)⟩

/-- **A fix that hides a namespace**: the mark stands in front of its header, behind the new directive. -/
theorem not_kept_quickFix_namespace :
    let sources := ["namespace Shop.Parts;\npublic class Gear ;\n".toList]
    let document := "\uFEFFnamespace Shop.Web;\nclass Crate : Gear".toList
    let url : Url := ⟨"file".toList, none, .segments ["Crate.cs".toList], none, none⟩
    let diagnostics : List Diagnostic := [⟨⟨⟨1, 14⟩, ⟨1, 18⟩⟩, none, none, none, none,
      Wording.missingType.message "Gear".toList, none, none, none⟩]
    (ReturnsPaired document ∧ document.head? = some byteOrderMark) ∧
      ∃ fix ∈ quickFixes (SymbolIndex.ofSources sources) url document diagnostics,
        let after := Document.applyTogether fix.edits document
        after = "using Shop.Parts;\n\uFEFFnamespace Shop.Web;\nclass Crate : Gear".toList ∧
          after.head? ≠ some byteOrderMark ∧
          enclosing document = ["Shop.Web".toList, "Shop".toList] ∧ enclosing after = [] := by
  intro sources document url diagnostics
  have hoffered : importTitle "Shop.Parts".toList ∈
      (quickFixes (SymbolIndex.ofSources sources) url document diagnostics).map QuickFix.title := by
    decide +kernel
  obtain ⟨fix, hfix, htitle⟩ := List.mem_map.1 hoffered
  obtain ⟨remedy, -, hhome, rfl⟩ := exists_remedy_of_mem_quickFixes hfix htitle
  have hafter : Document.applyTogether (remedy.fix url document).edits document =
      "using Shop.Parts;\n\uFEFFnamespace Shop.Web;\nclass Crate : Gear".toList := by
    have hedits : (remedy.fix url document).edits = [insertion document "Shop.Parts".toList] := by
      rw [← hhome]
      rfl
    rw [hedits]
    decide +kernel
  refine ⟨by decide +kernel, remedy.fix url document, hfix, hafter, ?_⟩
  rw [hafter]
  decide +kernel

end Advice

end UsingAdvisor
