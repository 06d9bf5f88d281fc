import UsingAdvisor.Proofs.Advice.Convergence
import UsingAdvisor.Proofs.Scope
import UsingAdvisor.Proofs.SymbolIndex.Lookup

/-!
# A document's own namespaces

What a document sees is not offered to it: a completion is for a symbol whose namespace it does not see
(`label_ne_of_sees`), and so is every edit of a fix (`not_offered_of_sees`). A document sees the namespaces that
enclose its declarations, and these are found by the reader of scopes wherever the scanner finds them. Main
statement: `own_namespaces_not_offered`.
-/

namespace UsingAdvisor.Advice

open Text (ReturnsPaired)

/-! ### What is seen is not offered -/

/-- Different namespaces are imported by different edits. -/
theorem insertion_inj {document first second : Text}
    (h : insertion document first = insertion document second) : first = second := by
  have hwrite : Directive.write first (Text.lineEnding document).text =
      Directive.write second (Text.lineEnding document).text := congrArg Document.Edit.newText h
  exact List.append_cancel_right (List.cons.inj (List.append_cancel_left hwrite)).2

/-- A name whose namespace is seen is not completed. -/
theorem label_ne_of_sees {index : SymbolIndex} {document name : Text} {symbol : Symbol}
    (hlookup : index.lookup? name = some symbol) (hsees : (Scope.ofText document).sees symbol.home = true)
    {line : Text} {addUsing : Bool} {item : Completion}
    (hitem : item ∈ completions index document line addUsing) : item.label ≠ name := by
  rw [completions] at hitem
  split at hitem
  next => exact absurd hitem List.not_mem_nil
  next =>
    obtain ⟨offered, hoffered, rfl⟩ := List.mem_map.1 hitem
    obtain ⟨hmem, hunseen⟩ := List.mem_filter.1 hoffered
    rintro rfl
    -- the name has one symbol, which is seen
    obtain rfl : offered = symbol :=
      Option.some.inj ((SymbolIndex.lookup?_of_mem hmem).symm.trans hlookup)
    rw [hsees] at hunseen
    exact Bool.noConfusion hunseen

/-- A namespace that is seen is imported by no fix. -/
theorem not_offered_of_sees {index : SymbolIndex} {url : Url} {document home : Text}
    {diagnostics : List Diagnostic} (hsees : (Scope.ofText document).sees home = true) {fix : QuickFix}
    (hfix : fix ∈ quickFixes index url document diagnostics) :
    fix.title ≠ importTitle home ∧ insertion document home ∉ fix.edits := by
  have hunseen : home ∉ (remedies index document diagnostics).map Remedy.home := by
    intro hhome
    rw [(apt_remedies index document diagnostics).unseen home hhome] at hsees
    exact Bool.noConfusion hsees
  rcases mem_quickFixes hfix with ⟨remedy, hremedy, rfl⟩ | ⟨htitle, hedits⟩
  · have hne : home ≠ remedy.home := by
      rintro rfl
      exact hunseen (List.mem_map_of_mem hremedy)
    refine ⟨fun htitle => hne (importTitle_inj htitle).symm, fun hedit => hne ?_⟩
    exact insertion_inj (List.mem_singleton.1 hedit)
  · refine ⟨fun himport => addAllTitle_ne_importTitle home (htitle.symm.trans himport), fun hedit => ?_⟩
    rw [hedits] at hedit
    obtain ⟨other, hother, heq⟩ := List.mem_map.1 hedit
    exact hunseen (insertion_inj heq ▸ hother)

/-! ### What is declared is seen -/

/-- **A document is never offered its own namespaces.** In a document without lone carriage returns, with or
without a mark, take a namespace of a symbol that the scanner finds there, or an ancestor of it. It is among the
namespaces that enclose the document. Hence, whatever the index, no name that is indexed under it is completed,
on any line, and no fix is for it or has an edit that imports it, for any diagnostics. -/
theorem own_namespaces_not_offered {text : Text} (paired : ReturnsPaired text) {symbol : Symbol}
    (declared : symbol ∈ Source.symbols text) {home : Text} (own : Encloses home symbol.home) :
    home ∈ enclosing text ∧
    ∀ index : SymbolIndex,
      (∀ name indexed, index.lookup? name = some indexed → indexed.home = home →
        ∀ line addUsing, ∀ item ∈ completions index text line addUsing, item.label ≠ name) ∧
      ∀ url diagnostics, ∀ fix ∈ quickFixes index url text diagnostics,
        fix.title ≠ importTitle home ∧ insertion text home ∉ fix.edits := by
  have henclosing : home ∈ enclosing text := mem_enclosing_of_mem_symbols paired declared own
  have hsees : (Scope.ofText text).sees home = true := by
    rw [Scope.sees, Scope.ofText, List.contains_iff_mem.2 henclosing, Bool.or_true]
  refine ⟨henclosing, fun index => ⟨?_, fun url diagnostics fix hfix => not_offered_of_sees hsees hfix⟩⟩
  rintro name indexed hlookup rfl line addUsing item hitem
  exact label_ne_of_sees hlookup hsees hitem

/-- A document with a mark and paired carriage returns, whose header is closed on the next line: the ancestor of
its namespace is not offered. -/
theorem own_namespaces_not_offered_ancestor :
    let text := "\uFEFFusing System;\r\n\r\nnamespace Acme.Web\r\n\x7b\r\n  class Page ;\r\n\x7d\r\n".toList
    let symbol : Symbol := ⟨"Page".toList, "Acme.Web".toList, .classType⟩
    let home := "Acme".toList
    (ReturnsPaired text ∧ symbol ∈ Source.symbols text ∧ Encloses home symbol.home) ∧
    home ∈ enclosing text ∧
    ∀ index : SymbolIndex,
      (∀ name indexed, index.lookup? name = some indexed → indexed.home = home →
        ∀ line addUsing, ∀ item ∈ completions index text line addUsing, item.label ≠ name) ∧
      ∀ url diagnostics, ∀ fix ∈ quickFixes index url text diagnostics,
        fix.title ≠ importTitle home ∧ insertion text home ∉ fix.edits := by
  intro text symbol home
  have paired : ReturnsPaired text := by decide +kernel
  have declared : symbol ∈ Source.symbols text := by decide +kernel
  have own : Encloses home symbol.home := .inr ⟨"Web".toList, by decide +kernel⟩
  exact ⟨⟨paired, declared, own⟩, own_namespaces_not_offered paired declared own⟩

end UsingAdvisor.Advice
