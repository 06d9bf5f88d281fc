import UsingAdvisor.Proofs.Advice.Convergence

/-!
# Fixes and the last line

Whether a fix imports what it is for. A new directive belongs on the line below the last one at the margin.
Where no line feed ends that one, there is no such line: the place for the new directive is the end of the
document (`offset_insertionLine`), and the directive is put behind the last one on its line
(`insertAll_eq_append`), where the reader of imports does not look for another. The main statement is that
this is the only case in which a fix fails to import what it is for (`imports_quickFix_iff`).
-/

namespace UsingAdvisor.Advice

open Directive (HasTopLevel LastEnded imported? imports insertionLine isTopLevel writtenLine)
open Text (IsDotted ReturnsPaired byteOrderMark endLines lineEnding lines stripMark)

/-! ### A document that ends with a directive -/

/-- The lines of a text whose last directive at the margin is not ended: it stands on the last one. -/
theorem exists_last_of_not_lastEnded {text : Text} (h : ¬ LastEnded text) :
    ∃ above last, stripMark text = endLines above ++ last ∧ (∀ line ∈ above, '\n' ∉ line) ∧
      '\n' ∉ last ∧ isTopLevel last = true := by
  simp only [LastEnded, Classical.not_forall, Bool.not_eq_false] at h
  obtain ⟨last, hlast, htop⟩ := h
  obtain ⟨above, hlines⟩ := List.getLast?_eq_some_iff.1 hlast
  have hlt : above.length < (lines (stripMark text)).length := by simp [hlines]
  -- what is behind the other lines is the last one
  obtain ⟨back, hback, hrest⟩ := Text.exists_eq_endLines_append hlt
  rw [hlines, List.take_left] at hback
  rw [hlines, List.drop_left] at hrest
  have hfeed : ∀ line ∈ above ++ [last], '\n' ∉ line :=
    fun line hline => Text.not_mem_of_mem_lines (hlines ▸ hline)
  rw [Text.eq_of_lines_eq_singleton hrest] at hback
  exact ⟨above, last, hback, fun line hline => hfeed line (List.mem_append_left _ hline),
    hfeed last (by simp), htop⟩

section Unended

variable {document : Text} (unended : ¬ LastEnded document)

include unended

/-- The line for a new directive is below the last line. -/
theorem insertionLine_of_not_lastEnded : insertionLine document = document.count '\n' + 1 := by
  obtain ⟨above, last, htext, hfeed, hlast, htop⟩ := exists_last_of_not_lastEnded unended
  have hone : Text.countThroughLast isTopLevel [last] = 1 := by simp [Text.countThroughLast, htop]
  rw [insertionLine, ← Text.count_stripMark, htext, Text.lines_endLines_append hfeed,
    Text.lines_of_not_mem hlast, Text.countThroughLast_append, hone, if_neg Nat.one_ne_zero,
    List.count_append, Text.count_endLines hfeed, List.count_eq_zero.2 hlast]

/-- The place for a new directive is the end of the document. -/
theorem offset_insertionLine (paired : ReturnsPaired document) :
    Document.offset document ⟨insertionLine document, 0⟩ = document.length := by
  refine Document.offset_of_length_le (Nat.le_of_eq ?_)
  rw [Document.length_lines_of_returnsPaired paired, insertionLine_of_not_lastEnded unended]

/-- Insertions put written directives behind the document. -/
theorem insertAll_eq_append (paired : ReturnsPaired document) (targets : List Text) :
    insertAll document targets =
      document ++ endLines (targets.map (writtenLine (lineEnding document))) := by
  rw [insertAll_eq_splice, offset_insertionLine unended paired, Document.splice, List.take_length,
    List.drop_length, List.append_nil]

/-- Without a mark it is so, too. -/
theorem stripMark_insertAll (paired : ReturnsPaired document) (targets : List Text) :
    stripMark (insertAll document targets) =
      stripMark document ++ endLines (targets.map (writtenLine (lineEnding document))) := by
  have hne : document ≠ [] := by
    rintro rfl
    exact unended (by decide)
  rw [insertAll_eq_append unended paired, Text.stripMark_append hne]

/-- **The first inserted directive is not imported**, since it goes behind another one on the same line. -/
theorem imports_insertAll_cons (paired : ReturnsPaired document) {target : Text} {targets : List Text}
    (dotted : ∀ name ∈ target :: targets, IsDotted name) :
    imports (insertAll document (target :: targets)) = imports document ++ targets := by
  obtain ⟨above, last, htext, hfeed, hlast, htop⟩ := exists_last_of_not_lastEnded unended
  obtain ⟨htarget, htargets⟩ := List.forall_mem_cons.1 dotted
  generalize hending : lineEnding document = ending
  have hjoined : '\n' ∉ last ++ writtenLine ending target := by
    rw [List.mem_append, not_or]
    exact ⟨hlast, Directive.not_mem_writtenLine htarget ending⟩
  have hwritten : ∀ line ∈ targets.map (writtenLine ending), '\n' ∉ line :=
    List.forall_mem_map.2 fun name hname => Directive.not_mem_writtenLine (htargets name hname) ending
  have hlines : lines (stripMark document ++ endLines ((target :: targets).map (writtenLine ending))) =
      above ++ ([last ++ writtenLine ending target] ++
        (targets.map (writtenLine ending) ++ [[]])) := by
    have hfeeds : ∀ line ∈ above ++ ([last ++ writtenLine ending target] ++
        targets.map (writtenLine ending)), '\n' ∉ line :=
      List.forall_mem_append.2 ⟨hfeed, List.forall_mem_cons.2 ⟨hjoined, hwritten⟩⟩
    have hblock : stripMark document ++ endLines ((target :: targets).map (writtenLine ending)) =
        endLines (above ++ ([last ++ writtenLine ending target] ++
          targets.map (writtenLine ending))) := by
      simp [htext]
    have hall := Text.lines_endLines_append hfeeds []
    rwa [List.append_nil, ← hblock, List.append_assoc, List.append_assoc] at hall
  have himports : imports document = above.filterMap imported? ++ [last].filterMap imported? := by
    rw [imports, htext, Text.lines_endLines_append hfeed, Text.lines_of_not_mem hlast,
      List.filterMap_append]
  -- behind the last directive nothing more is read on its line
  have hjoin : [last ++ writtenLine ending target].filterMap imported? =
      [last].filterMap imported? := by
    rw [List.filterMap_cons, Directive.imported?_append htop, List.filterMap_cons]
  have hnone : [[]].filterMap imported? = [] := rfl
  rw [imports, stripMark_insertAll unended paired, hending, hlines, himports, List.filterMap_append,
    List.filterMap_append, List.filterMap_append, hjoin, hnone,
    filterMap_imported?_writtenLine htargets ending, List.append_nil, List.append_assoc]

/-- Directives behind the document enclose nothing and let nothing out. -/
theorem enclosing_insertAll_of_not_lastEnded (paired : ReturnsPaired document) {targets : List Text}
    (dotted : ∀ target ∈ targets, IsDotted target) :
    enclosing (insertAll document targets) = enclosing document := by
  obtain ⟨above, last, htext, -, hlast, htop⟩ := exists_last_of_not_lastEnded unended
  rw [enclosing, stripMark_insertAll unended paired, htext, enclosing, htext]
  cases targets with
  | nil => rw [List.map_nil, Text.endLines_nil, List.append_nil]
  | cons target targets =>
    obtain ⟨htarget, htargets⟩ := List.forall_mem_cons.1 dotted
    generalize lineEnding document = ending
    have hpassed {line : Text} (hline : isTopLevel line = true) (hfeed : '\n' ∉ line) : Source.Passed line :=
      Directive.passed_of_isTopLevel hfeed hline
    have hfirst : Source.Passed (last ++ writtenLine ending target) := by
      refine hpassed ?_ ?_
      · rw [Directive.isTopLevel_append_of_mem (Directive.semicolon_mem_of_isTopLevel htop), htop]
      · rw [List.mem_append, not_or]
        exact ⟨hlast, Directive.not_mem_writtenLine htarget ending⟩
    have hblock : ∀ line ∈ (last ++ writtenLine ending target) :: targets.map (writtenLine ending),
        Source.Passed line := by
      refine List.forall_mem_cons.2 ⟨hfirst, List.forall_mem_map.2 fun name hname => ?_⟩
      exact hpassed (Directive.isTopLevel_write (htargets name hname) _)
        (Directive.not_mem_writtenLine (htargets name hname) ending)
    -- the last line holds no header, and neither do the lines that it and the directives make
    have hjoined : endLines above ++ last ++ endLines ((target :: targets).map (writtenLine ending)) =
        endLines above ++
          (endLines ((last ++ writtenLine ending target) :: targets.map (writtenLine ending)) ++ []) := by
      simp
    have hends := Text.endsLine_endLines above
    have hnone : Source.headers [] = [] := Source.Header.listFrom_nil []
    rw [hjoined, Source.headers_append hends (hfirst.apart_endLines _ []),
      Source.headers_endLines_append hblock, Source.headers_append hends (hpassed htop hlast).2.1,
      (hpassed htop hlast).headers_eq_nil, hnone]

end Unended

/-! ### What a fix imports -/

/-- What is not seen is not imported. -/
theorem not_mem_imports {document home : Text} (h : (Scope.ofText document).sees home = false) :
    home ∉ imports document := by
  intro himport
  rw [Scope.sees, Scope.ofText, List.contains_iff_mem.2 himport, Bool.true_or] at h
  exact Bool.noConfusion h

/-- There is a fix for a namespace where there is a remedy. -/
theorem importTitle_mem_titles_iff {index : SymbolIndex} {url : Url} {document target : Text}
    {diagnostics : List Diagnostic} :
    importTitle target ∈ (quickFixes index url document diagnostics).map QuickFix.title ↔
      target ∈ (remedies index document diagnostics).map Remedy.home := by
  constructor
  · intro htitle
    obtain ⟨fix, hfix, htitle⟩ := List.mem_map.1 htitle
    obtain ⟨remedy, hremedy, rfl, -⟩ := exists_remedy_of_mem_quickFixes hfix htitle
    exact List.mem_map_of_mem hremedy
  · intro htarget
    obtain ⟨remedy, hremedy, rfl⟩ := List.mem_map.1 htarget
    refine List.mem_map.2 ⟨remedy.fix url document, ?_, rfl⟩
    rw [quickFixes_eq]
    exact List.mem_append_left _ (List.mem_map_of_mem hremedy)

section QuickFix

variable {sources : List Text} {url : Url} {diagnostics : List Diagnostic} {document : Text}
  {fix : QuickFix} (paired : ReturnsPaired document)
  (unmarked : document.head? ≠ some byteOrderMark)
  (hfix : fix ∈ quickFixes (SymbolIndex.ofSources sources) url document diagnostics)

include paired unmarked hfix

/-- What a fix for one namespace imports. -/
theorem mem_imports_importFix_iff {target : Text} (htitle : fix.title = importTitle target) :
    target ∈ imports (Document.applyTogether fix.edits document) ↔ LastEnded document := by
  obtain ⟨remedy, hremedy, rfl, rfl⟩ := exists_remedy_of_mem_quickFixes hfix htitle
  have hhome := List.mem_map_of_mem (f := Remedy.home) hremedy
  have dotted := List.forall_mem_singleton.2
    (isDotted_of_mem_remedies sources document diagnostics remedy.home hhome)
  change remedy.home ∈ imports (insertAll document [remedy.home]) ↔ LastEnded document
  by_cases ended : LastEnded document
  · refine iff_of_true ?_ ended
    exact (mem_imports_insertAll paired (absurd · unmarked) ended dotted).2 (.inr List.mem_cons_self)
  · refine iff_of_false ?_ ended
    have apt := apt_remedies (SymbolIndex.ofSources sources) document diagnostics
    rw [imports_insertAll_cons ended paired dotted, List.append_nil]
    exact not_mem_imports (apt.unseen remedy.home hhome)

/-- What the joining fix imports. -/
theorem mem_imports_joiningFix_iff (htitle : fix.title = addAllTitle) :
    (∀ target ∈ (remedies (SymbolIndex.ofSources sources) document diagnostics).map Remedy.home,
      target ∈ imports (Document.applyTogether fix.edits document)) ↔ LastEnded document := by
  have apt := apt_remedies (SymbolIndex.ofSources sources) document diagnostics
  have dotted := isDotted_of_mem_remedies sources document diagnostics
  obtain ⟨hnodup, -, hunseen⟩ := apt
  rw [edits_eq_of_mem_quickFixes hfix (.inl htitle)]
  change (∀ target ∈ _, target ∈ imports (insertAll document _)) ↔ LastEnded document
  by_cases ended : LastEnded document
  · refine iff_of_true (fun target htarget => ?_) ended
    exact (mem_imports_insertAll paired (absurd · unmarked) ended dotted).2 (.inr htarget)
  · refine iff_of_false (fun hevery => ?_) ended
    cases hhomes : (remedies (SymbolIndex.ofSources sources) document diagnostics).map Remedy.home with
    | nil =>
      rw [quickFixes_eq, List.map_eq_nil_iff.1 hhomes] at hfix
      exact List.not_mem_nil hfix
    | cons home others =>
      -- the first namespace is missed, and none of the later directives is for it
      rw [hhomes] at hevery dotted hnodup hunseen
      have himport := hevery home List.mem_cons_self
      rw [imports_insertAll_cons ended paired dotted, List.mem_append] at himport
      rcases himport with hold | hlater
      · exact not_mem_imports (hunseen home List.mem_cons_self) hold
      · exact (List.nodup_cons.1 hnodup).1 hlater

end QuickFix

/-- **A fix imports what it is for exactly where the last directive at the margin is ended**, in a document
without a mark and without lone carriage returns. The joining fix imports every namespace for which there is
a fix in that case, and misses one of them otherwise. -/
theorem imports_quickFix_iff (sources : List Text) (url : Url) (diagnostics : List Diagnostic)
    {document : Text} (paired : ReturnsPaired document)
    (unmarked : document.head? ≠ some byteOrderMark) :
    let fixes := quickFixes (SymbolIndex.ofSources sources) url document diagnostics
    ∀ fix ∈ fixes,
      let after := Document.applyTogether fix.edits document
      (∀ target, fix.title = importTitle target → (target ∈ imports after ↔ LastEnded document)) ∧
      (fix.title = addAllTitle →
        ((∀ target, importTitle target ∈ fixes.map QuickFix.title → target ∈ imports after) ↔
          LastEnded document)) := by
  intro fixes fix hfix after
  refine ⟨fun target htitle => mem_imports_importFix_iff paired unmarked hfix htitle, fun htitle => ?_⟩
  simp only [fixes, importTitle_mem_titles_iff]
  exact mem_imports_joiningFix_iff paired unmarked hfix htitle

/-- A document with an ended directive, where the fix imports the namespace. -/
theorem imports_quickFix_ended :
    let sources := ["namespace Shop.Parts;\npublic class Gear ;\n".toList]
    let document := "using System; // base\r\nclass Crate : Gear".toList
    let url : Url := ⟨"file".toList, none, .segments ["Crate.cs".toList], none, none⟩
    let diagnostics : List Diagnostic := [⟨⟨⟨1, 14⟩, ⟨1, 18⟩⟩, none, none, none, none,
      Wording.missingType.message "Gear".toList, none, none, none⟩]
    let fixes := quickFixes (SymbolIndex.ofSources sources) url document diagnostics
    (ReturnsPaired document ∧ document.head? ≠ some byteOrderMark) ∧
      fixes.map QuickFix.title = [importTitle "Shop.Parts".toList] ∧
      ∀ fix ∈ fixes, fix.title = importTitle "Shop.Parts".toList →
        "Shop.Parts".toList ∈ imports (Document.applyTogether fix.edits document) := by
  intro sources document url diagnostics fixes
  have paired : ReturnsPaired document := by decide +kernel
  have unmarked : document.head? ≠ some byteOrderMark := by decide +kernel
  have ended : LastEnded document := by decide +kernel
  have titles : fixes.map QuickFix.title = [importTitle "Shop.Parts".toList] := by decide +kernel
  refine ⟨⟨paired, unmarked⟩, titles, fun fix hfix htitle => ?_⟩
  exact ((imports_quickFix_iff sources url diagnostics paired unmarked fix hfix).1 _ htitle).2 ended

/-- **A fix that imports nothing**: behind a directive on the last line the new one is in its comment. -/
theorem not_imports_quickFix_comment :
    let sources := ["namespace Shop.Parts;\npublic class Gear ;\n".toList]
    let document := "using System; // base".toList
    let url : Url := ⟨"file".toList, none, .segments ["Crate.cs".toList], none, none⟩
    let diagnostics : List Diagnostic := [⟨⟨⟨1, 0⟩, ⟨1, 4⟩⟩, none, none, none, none,
      Wording.missingType.message "Gear".toList, none, none, none⟩]
    (ReturnsPaired document ∧ document.head? ≠ some byteOrderMark) ∧
      ∃ fix ∈ quickFixes (SymbolIndex.ofSources sources) url document diagnostics,
        fix.title = importTitle "Shop.Parts".toList ∧
        Document.applyTogether fix.edits document =
          "using System; // baseusing Shop.Parts;\n".toList ∧
        "Shop.Parts".toList ∉ imports (Document.applyTogether fix.edits document) := by
  intro sources document url diagnostics
  have hoffered : importTitle "Shop.Parts".toList ∈
      (quickFixes (SymbolIndex.ofSources sources) url document diagnostics).map QuickFix.title := by
    decide +kernel
  obtain ⟨fix, hfix, htitle⟩ := List.mem_map.1 hoffered
  obtain ⟨remedy, -, hhome, rfl⟩ := exists_remedy_of_mem_quickFixes hfix htitle
  have hafter : Document.applyTogether (remedy.fix url document).edits document =
      "using System; // baseusing Shop.Parts;\n".toList := by
    have hedits : (remedy.fix url document).edits = [insertion document "Shop.Parts".toList] := by
      rw [← hhome]
      rfl
    rw [hedits]
    decide +kernel
  refine ⟨by decide +kernel, remedy.fix url document, hfix, htitle, hafter, ?_⟩
  rw [hafter]
  decide +kernel

end UsingAdvisor.Advice
