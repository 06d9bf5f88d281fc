import UsingAdvisor.Proofs.Advice.Partition
import UsingAdvisor.Proofs.MissingName
import UsingAdvisor.Proofs.SymbolIndex.Lookup
import UsingAdvisor.Proofs.SymbolIndex.Names

/-!
# Completions and fixes agree

Completions are found by going through the index, and fixes by reading a message and looking its name up.
Both come down to the symbol of the name, if the document does not see it (`unseen?`): the completions of a
name are those of that symbol (`filter_completions`), and one diagnostic gets the fix for its namespace
(`quickFixes_singleton`). Main statement: `completion_iff_quickFix`.
-/

namespace UsingAdvisor.Advice

/-- The completions of one name. -/
theorem filter_completions (index : SymbolIndex) {document line : Text} (hline : '.' ∉ line)
    (addUsing : Bool) (name : Text) :
    (completions index document line addUsing).filter (fun item => item.label == name) =
      (unseen? index document name).toList.map (Completion.ofSymbol document addUsing) := by
  have hdot : line.contains '.' = false := by simpa using hline
  have hcomm : (index.symbols.filter fun symbol => !(Scope.ofText document).sees symbol.home).filter
        (fun symbol => symbol.name == name) =
      (index.lookup? name).toList.filter fun symbol => !(Scope.ofText document).sees symbol.home := by
    rw [← index.filter_name_eq, List.filter_filter, List.filter_filter]
    exact List.filter_congr fun _ _ => Bool.and_comm _ _
  rw [completions, hdot, if_neg Bool.false_ne_true, List.filter_map]
  change List.map _ (List.filter (fun symbol : Symbol => symbol.name == name) _) = _
  rw [hcomm, unseen?]
  cases index.lookup? name with
  | none => rfl
  | some symbol =>
    rw [Option.filter_some]
    cases hsees : (Scope.ofText document).sees symbol.home <;> simp [hsees]

/-- The fix for one diagnostic. -/
theorem quickFixes_singleton (index : SymbolIndex) (url : Url) (document : Text)
    (diagnostic : Diagnostic) :
    quickFixes index url document [diagnostic] =
      (missingHome? index document diagnostic).toList.map fun home =>
        Remedy.fix url document ⟨home, [diagnostic]⟩ := by
  have hremedies : remedies index document [diagnostic] =
      (missingHome? index document diagnostic).toList.map fun home => ⟨home, [diagnostic]⟩ := by
    rw [remedies_eq_map]
    cases hhome : missingHome? index document diagnostic with
    | none => simp [hhome]
    | some home =>
      have hreports := reports_perm index document [diagnostic] home
      simp only [hhome, beq_self_eq_true, List.filter_cons_of_pos, List.filter_nil] at hreports
      have hhomes : [diagnostic].filterMap (missingHome? index document) = [home] := by simp [hhome]
      rw [hhomes]
      change [(⟨home, reports index document [diagnostic] _ home⟩ : Remedy)] = [⟨home, [diagnostic]⟩]
      rw [List.perm_singleton.1 hreports]
  rw [quickFixes, hremedies]
  cases missingHome? index document diagnostic <;> rfl

/-- Completions come in the order of their labels. -/
theorem pairwise_completions (index : SymbolIndex) (document line : Text) (addUsing : Bool) :
    (completions index document line addUsing).Pairwise fun first second =>
      Text.precedes first.label second.label = true := by
  rw [completions]
  split
  next => exact List.Pairwise.nil
  next => exact List.pairwise_map.2 (index.ascending.sublist List.filter_sublist)

/-- Completions without edits are those with edits but for these. -/
theorem completions_false (index : SymbolIndex) (document line : Text) :
    completions index document line false =
      (completions index document line true).map fun item => { item with edits := none } := by
  rw [completions, completions]
  split
  next => rfl
  next =>
    rw [List.map_map]
    rfl

/-- What a message about a name is fixed by. Nothing is indexed under the empty name, and no message reports
it. -/
theorem missingHome?_of_message (sources : List Text) (document : Text) {name : Text}
    (hname : ∀ c ∈ name, Text.isWord c = true) {diagnostic : Diagnostic}
    (hmessage : diagnostic.message ∈ messagesFor name) :
    missingHome? (SymbolIndex.ofSources sources) document diagnostic =
      neededHome? (SymbolIndex.ofSources sources) document name := by
  rw [missingHome?, Diagnostic.missingName?]
  by_cases hne : name = []
  · subst hne
    have hlookup : (SymbolIndex.ofSources sources).lookup? [] = none := by
      refine List.find?_eq_none.2 fun symbol hsymbol hempty => ?_
      exact (SymbolIndex.isTypeName_of_mem_ofSources hsymbol).ne_nil (eq_of_beq hempty)
    rw [missingName?_of_mem_nil hmessage, neededHome?, unseen?, hlookup]
    rfl
  · rw [missingName?_of_mem hname hne hmessage, Option.bind_some]

/-- **A name is completed exactly where it is fixed, and with the same edits.** The cursor is on a line
without a dot. A name of word characters is completed once or not at all; one diagnostic that reports it as
missing gets one fix or none, one where the name is completed, and then the fix for the document has the
edits of the completion. Completions come in strict order of their labels, and without edits they are the
same but for these. -/
theorem completion_iff_quickFix (sources : List Text) (url : Url) {document line name : Text}
    (hline : '.' ∉ line) (hname : ∀ c ∈ name, Text.isWord c = true) :
    let index := SymbolIndex.ofSources sources
    let items := completions index document line true
    (∀ diagnostic : Diagnostic, diagnostic.message ∈ messagesFor name →
      let fixes := quickFixes index url document [diagnostic]
      ((∃ item ∈ items, item.label = name) ↔ fixes ≠ []) ∧
      (fixes ≠ [] → ∃ item fix, items.filter (fun item => item.label == name) = [item] ∧
        fixes = [fix] ∧ fix.url = url ∧ item.edits = some fix.edits)) ∧
    items.Pairwise (fun first second => Text.precedes first.label second.label = true) ∧
    completions index document line false = items.map fun item => { item with edits := none } := by
  intro index items
  refine ⟨fun diagnostic hmessage => ?_, pairwise_completions index document line true,
    completions_false index document line⟩
  intro fixes
  have hitems : items.filter (fun item => item.label == name) =
      (unseen? index document name).toList.map (Completion.ofSymbol document true) :=
    filter_completions index hline true name
  have hfixes : fixes = (unseen? index document name).toList.map fun symbol =>
      Remedy.fix url document ⟨symbol.home, [diagnostic]⟩ := by
    have hhome : missingHome? index document diagnostic = neededHome? index document name :=
      missingHome?_of_message sources document hname hmessage
    simp only [fixes, quickFixes_singleton, hhome, neededHome?]
    cases unseen? index document name <;> rfl
  have hoffered : (∃ item ∈ items, item.label = name) ↔
      items.filter (fun item => item.label == name) ≠ [] := by
    simp [List.filter_eq_nil_iff]
  rw [hoffered, hitems, hfixes]
  cases unseen? index document name with
  | none => exact ⟨iff_of_false (absurd rfl) (absurd rfl), fun h => absurd rfl h⟩
  | some symbol =>
    refine ⟨iff_of_true (List.cons_ne_nil _ _) (List.cons_ne_nil _ _), fun _ => ?_⟩
    exact ⟨_, _, rfl, rfl, rfl, rfl⟩

/-- A type that is indexed, in a document that does not see it. -/
theorem completion_iff_quickFix_gear :
    let sources := ["namespace Shop.Parts;\npublic class Gear ;\n".toList]
    let url : Url := ⟨"file".toList, none, .segments ["Crate.cs".toList], none, none⟩
    let document := "using System;\r\nclass Crate : Gear".toList
    let line := "class Crate : Gear".toList
    let name := "Gear".toList
    let index := SymbolIndex.ofSources sources
    let items := completions index document line true
    ('.' ∉ line ∧ ∀ c ∈ name, Text.isWord c = true) ∧
    items.map Completion.label = [name] ∧
    (∀ diagnostic : Diagnostic, diagnostic.message ∈ messagesFor name →
      let fixes := quickFixes index url document [diagnostic]
      ((∃ item ∈ items, item.label = name) ↔ fixes ≠ []) ∧
      (fixes ≠ [] → ∃ item fix, items.filter (fun item => item.label == name) = [item] ∧
        fixes = [fix] ∧ fix.url = url ∧ item.edits = some fix.edits)) ∧
    items.Pairwise (fun first second => Text.precedes first.label second.label = true) ∧
    completions index document line false = items.map fun item => { item with edits := none } := by
  intro sources url document line name index items
  have hline : '.' ∉ line := by decide +kernel
  have hname : ∀ c ∈ name, Text.isWord c = true := List.all_eq_true.1 (by decide +kernel)
  have hlabels : items.map Completion.label = [name] := by decide +kernel
  exact ⟨⟨hline, hname⟩, hlabels, completion_iff_quickFix sources url hline hname⟩

end UsingAdvisor.Advice
