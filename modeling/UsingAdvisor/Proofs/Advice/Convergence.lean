import UsingAdvisor.Advice.Completion
import UsingAdvisor.Proofs.Advice.Insertion
import UsingAdvisor.Proofs.Advice.Remedies

/-!
# Convergence of the advice

What is offered for a document after an offer has been taken. A document with inserted directives sees the
namespaces that it saw and the new ones, and its cut lies lower, so that of the fixes and completions those
for the new namespaces go and the others stay, with their edits as many lines lower as directives were
inserted. Main statement: `advice_converges`. Also here: the fixes as those for one namespace each and the
one that joins them (`quickFixes_eq`).
-/

namespace UsingAdvisor

/-- The edit, as many lines lower. -/
def Document.Edit.lower (count : Nat) (edit : Edit) : Edit :=
  ⟨⟨⟨edit.range.start.line + count, edit.range.start.character⟩,
    ⟨edit.range.stop.line + count, edit.range.stop.character⟩⟩, edit.newText⟩

namespace Advice

open Directive (HasTopLevel LastEnded)
open Text (IsDotted ReturnsPaired byteOrderMark)

/-- The fix, with its edits as many lines lower. -/
def QuickFix.lower (count : Nat) (fix : QuickFix) : QuickFix :=
  { fix with edits := fix.edits.map (Document.Edit.lower count) }

/-- The completion, with its edits as many lines lower. -/
def Completion.lower (count : Nat) (completion : Completion) : Completion :=
  { completion with edits := completion.edits.map (List.map (Document.Edit.lower count)) }

/-! ### Titles and the joining fix -/

/-- The title of the fix that imports one namespace. -/
def importTitle (target : Text) : Text :=
  "Add 'using ".toList ++ (target ++ [';', '\''])

/-- A fix for one namespace has its title. -/
theorem Remedy.fix_eq (url : Url) (document : Text) (remedy : Remedy) :
    remedy.fix url document =
      ⟨importTitle remedy.home, url, [insertion document remedy.home], remedy.diagnostics, true⟩ := rfl

theorem importTitle_inj {first second : Text} (h : importTitle first = importTitle second) :
    first = second :=
  List.append_cancel_right (List.append_cancel_left h)

/-- The title of the joining fix is no title of another. -/
theorem addAllTitle_ne_importTitle (target : Text) : addAllTitle ≠ importTitle target := by
  intro h
  -- the titles part at the fifth character
  have hfifth : (addAllTitle)[4]? = (importTitle target)[4]? := by rw [h]
  have hall : (addAllTitle)[4]? = some 'a' := by decide
  have himport : (importTitle target)[4]? = some '\'' := rfl
  rw [hall, himport] at hfifth
  exact absurd hfifth (by decide)

/-- The fix that joins several fixes, where there are several. -/
def QuickFix.joined (url : Url) (fixes : List QuickFix) : List QuickFix :=
  if 1 < fixes.length then
    [{ title := addAllTitle
       url := url
       edits := fixes.flatMap QuickFix.edits
       diagnostics := fixes.flatMap QuickFix.diagnostics
       preferred := false }]
  else []

/-- What is known of a joining fix. -/
theorem QuickFix.of_mem_joined {url : Url} {fixes : List QuickFix} {fix : QuickFix}
    (h : fix ∈ QuickFix.joined url fixes) :
    fix.title = addAllTitle ∧ fix.preferred = false ∧ fix.edits = fixes.flatMap QuickFix.edits := by
  rw [QuickFix.joined] at h
  split at h
  next =>
    rw [List.mem_singleton.1 h]
    exact ⟨rfl, rfl, rfl⟩
  next => exact absurd h List.not_mem_nil

/-- The edits of the fixes for one namespace each. -/
theorem flatMap_edits_fix (url : Url) (document : Text) (remedies : List Remedy) :
    (remedies.map (Remedy.fix url document)).flatMap QuickFix.edits =
      (remedies.map Remedy.home).map (insertion document) := by
  rw [List.flatMap_map, List.map_map]
  exact List.map_eq_flatMap.symm

/-- **The fixes are those for one namespace each, and the one that joins them.** -/
theorem quickFixes_eq (index : SymbolIndex) (url : Url) (document : Text)
    (diagnostics : List Diagnostic) :
    quickFixes index url document diagnostics =
      (remedies index document diagnostics).map (Remedy.fix url document) ++
        QuickFix.joined url ((remedies index document diagnostics).map (Remedy.fix url document)) := by
  rw [quickFixes, QuickFix.joined, List.length_map, flatMap_edits_fix, List.flatMap_map, List.map_map]
  rfl

/-- A fix is the one for a remedy, or it is the joining fix. -/
theorem mem_quickFixes {index : SymbolIndex} {url : Url} {document : Text}
    {diagnostics : List Diagnostic} {fix : QuickFix}
    (h : fix ∈ quickFixes index url document diagnostics) :
    (∃ remedy ∈ remedies index document diagnostics, fix = remedy.fix url document) ∨
      fix.title = addAllTitle ∧
        fix.edits = ((remedies index document diagnostics).map Remedy.home).map (insertion document) := by
  rw [quickFixes_eq] at h
  rcases List.mem_append.1 h with h | h
  · obtain ⟨remedy, hremedy, rfl⟩ := List.mem_map.1 h
    exact .inl ⟨remedy, hremedy, rfl⟩
  · obtain ⟨htitle, -, hedits⟩ := QuickFix.of_mem_joined h
    exact .inr ⟨htitle, hedits.trans (flatMap_edits_fix url document _)⟩

/-- The fixes for one namespace each are those that an editor may apply on its own. -/
theorem filter_quickFixes {keeps : QuickFix → Bool} (hkeeps : ∀ fix, keeps fix = true → fix.preferred = true)
    (index : SymbolIndex) (url : Url) (document : Text) (diagnostics : List Diagnostic) :
    (quickFixes index url document diagnostics).filter keeps =
      ((remedies index document diagnostics).filter fun remedy => keeps (remedy.fix url document)).map
        (Remedy.fix url document) := by
  -- an editor may not apply a joining fix on its own
  have hjoined : ∀ fixes, (QuickFix.joined url fixes).filter keeps = [] := by
    intro fixes
    refine List.filter_eq_nil_iff.2 fun fix hfix hkeep => ?_
    obtain ⟨-, hpreferred, -⟩ := QuickFix.of_mem_joined hfix
    rw [hkeeps fix hkeep] at hpreferred
    exact Bool.noConfusion hpreferred
  rw [quickFixes_eq, List.filter_append, hjoined, List.append_nil, List.filter_map]
  rfl

/-- A fix with the title of an import is the one for the remedy for its namespace. -/
theorem exists_remedy_of_mem_quickFixes {index : SymbolIndex} {url : Url} {document target : Text}
    {diagnostics : List Diagnostic} {fix : QuickFix}
    (hfix : fix ∈ quickFixes index url document diagnostics) (htitle : fix.title = importTitle target) :
    ∃ remedy ∈ remedies index document diagnostics, remedy.home = target ∧
      fix = remedy.fix url document := by
  obtain ⟨remedy, hremedy, rfl⟩ | ⟨hall, -⟩ := mem_quickFixes hfix
  · exact ⟨remedy, hremedy, importTitle_inj htitle, rfl⟩
  · exact absurd (hall.symm.trans htitle) (addAllTitle_ne_importTitle target)

/-- The joining fix, and a fix that is alone, imports every namespace that needs a remedy. -/
theorem edits_eq_of_mem_quickFixes {index : SymbolIndex} {url : Url} {document : Text}
    {diagnostics : List Diagnostic} {fix : QuickFix}
    (hfix : fix ∈ quickFixes index url document diagnostics)
    (hevery : fix.title = addAllTitle ∨ quickFixes index url document diagnostics = [fix]) :
    fix.edits = ((remedies index document diagnostics).map Remedy.home).map (insertion document) := by
  obtain ⟨remedy, hremedy, rfl⟩ | ⟨-, hedits⟩ := mem_quickFixes hfix
  · rcases hevery with htitle | halone
    · exact absurd htitle.symm (addAllTitle_ne_importTitle _)
    · -- more than one remedy would give more than one fix
      have hlength : (remedies index document diagnostics).length ≤ 1 := by
        have hcount := congrArg List.length halone
        rw [quickFixes_eq, List.length_append, List.length_map, List.length_singleton] at hcount
        omega
      obtain ⟨only, honly⟩ := List.length_eq_one_iff.1
        (Nat.le_antisymm hlength (List.length_pos_of_mem hremedy))
      rw [honly] at hremedy ⊢
      rw [List.mem_singleton.1 hremedy]
      rfl
  · exact hedits

/-- Completions of one namespace are told by what they display. -/
theorem contains_map_from (targets : List Text) (home : Text) :
    (targets.map ("from ".toList ++ ·)).contains ("from ".toList ++ home) = targets.contains home := by
  rw [Bool.eq_iff_iff, List.contains_iff_mem, List.contains_iff_mem, List.mem_map]
  constructor
  · rintro ⟨target, htarget, heq⟩
    rwa [← List.append_cancel_left heq]
  · intro hhome
    exact ⟨home, hhome, rfl⟩

/-! ### Offers for a document with inserted directives -/

section Inserted

variable {document : Text} {targets : List Text} (paired : ReturnsPaired document)
  (marked : document.head? = some byteOrderMark → HasTopLevel document)
  (ended : LastEnded document) (dotted : ∀ target ∈ targets, IsDotted target)

include paired marked ended dotted

/-- A document with inserted directives sees what it saw and the new namespaces. -/
theorem sees_insertAll (home : Text) :
    (Scope.ofText (insertAll document targets)).sees home =
      ((Scope.ofText document).sees home || targets.contains home) := by
  have himports : home ∈ Directive.imports (insertAll document targets) ↔
      home ∈ Directive.imports document ∨ home ∈ targets :=
    mem_imports_insertAll paired marked ended dotted
  rw [Bool.eq_iff_iff]
  simp only [Scope.sees, Scope.ofText, enclosing_insertAll paired marked ended dotted, Bool.or_eq_true,
    List.contains_iff_mem, himports]
  exact or_right_comm

/-- Directives are inserted as many lines lower. -/
theorem insertion_insertAll (target : Text) :
    insertion (insertAll document targets) target =
      (insertion document target).lower targets.length := by
  rw [insertion, insertionLine_insertAll paired marked ended dotted,
    lineEnding_insertAll paired marked ended dotted]
  rfl

/-- The fix for one namespace lies as many lines lower. -/
theorem fix_insertAll (url : Url) (remedy : Remedy) :
    remedy.fix url (insertAll document targets) = (remedy.fix url document).lower targets.length := by
  rw [Remedy.fix_eq, Remedy.fix_eq, insertion_insertAll paired marked ended dotted]
  rfl

/-- The fixes after insertions. -/
theorem quickFixes_insertAll (index : SymbolIndex) (url : Url) (diagnostics : List Diagnostic) :
    let others := (withoutShown (targets.contains ·)
      (remedies index document diagnostics)).map fun remedy =>
        (remedy.fix url document).lower targets.length
    quickFixes index url (insertAll document targets) diagnostics =
      others ++ QuickFix.joined url others := by
  have hfix : Remedy.fix url (insertAll document targets) =
      fun remedy => (remedy.fix url document).lower targets.length := by
    funext remedy
    exact fix_insertAll paired marked ended dotted url remedy
  have hremedies := remedies_of_sees (sees_insertAll paired marked ended dotted) index diagnostics
  rw [quickFixes_eq, hremedies, hfix]

/-- The completions after insertions. -/
theorem completions_insertAll (index : SymbolIndex) (line : Text) (addUsing : Bool) :
    completions index (insertAll document targets) line addUsing =
      ((completions index document line addUsing).filter fun completion =>
        !(targets.map ("from ".toList ++ ·)).contains completion.detail).map
        (Completion.lower targets.length) := by
  have hsymbol : Completion.ofSymbol (insertAll document targets) addUsing =
      Completion.lower targets.length ∘ Completion.ofSymbol document addUsing := by
    funext symbol
    rw [Completion.ofSymbol, insertion_insertAll paired marked ended dotted]
    cases addUsing <;> rfl
  simp only [completions]
  split
  next => rfl
  next =>
    rw [List.filter_map, List.filter_filter, List.map_map, hsymbol]
    congr 1
    refine List.filter_congr fun symbol _ => ?_
    rw [sees_insertAll paired marked ended dotted, Bool.not_or, Bool.and_comm]
    congr 2
    exact (contains_map_from targets symbol.home).symm

end Inserted

/-! ### Taking an offer -/

/-- Remedies are for dotted names. -/
theorem isDotted_of_mem_remedies (sources : List Text) (document : Text)
    (diagnostics : List Diagnostic) :
    ∀ home ∈ (remedies (SymbolIndex.ofSources sources) document diagnostics).map Remedy.home,
      IsDotted home := by
  intro home hhome
  obtain ⟨symbol, hsymbol, rfl⟩ := (apt_remedies _ document diagnostics).indexed home hhome
  exact SymbolIndex.isDotted_of_mem_ofSources hsymbol

/-- The remedies for other namespaces are told by the titles of their fixes. -/
theorem filter_remedies_of_title (url : Url) (document target : Text) (remedies : List Remedy) :
    (remedies.filter fun remedy =>
        (remedy.fix url document).preferred && (remedy.fix url document).title != importTitle target) =
      withoutShown ([target].contains ·) remedies := by
  refine List.filter_congr fun remedy _ => ?_
  have htitle : importTitle remedy.home = importTitle target ↔ remedy.home = target :=
    ⟨importTitle_inj, congrArg importTitle⟩
  rw [Bool.eq_iff_iff]
  simp [Remedy.fix_eq, htitle]

/-- The fixes that are left after one import. -/
theorem quickFixes_insertAll_singleton {document target : Text} (paired : ReturnsPaired document)
    (marked : document.head? = some byteOrderMark → HasTopLevel document) (ended : LastEnded document)
    (dotted : IsDotted target) (index : SymbolIndex) (url : Url) (diagnostics : List Diagnostic) :
    let others := ((quickFixes index url document diagnostics).filter fun other =>
      other.preferred && other.title != importTitle target).map (QuickFix.lower 1)
    quickFixes index url (insertAll document [target]) diagnostics =
      others ++ QuickFix.joined url others := by
  have hpreferred : ∀ fix : QuickFix, (fix.preferred && fix.title != importTitle target) = true →
      fix.preferred = true := fun _ h => (Bool.and_eq_true_iff.1 h).1
  rw [quickFixes_insertAll paired marked ended (List.forall_mem_singleton.2 dotted),
    filter_quickFixes hpreferred, filter_remedies_of_title, List.map_map]
  rfl

/-- Nothing is left to fix after every import. -/
theorem quickFixes_insertAll_homes {document : Text} (paired : ReturnsPaired document)
    (marked : document.head? = some byteOrderMark → HasTopLevel document) (ended : LastEnded document)
    {index : SymbolIndex} {diagnostics : List Diagnostic}
    (dotted : ∀ home ∈ (remedies index document diagnostics).map Remedy.home, IsDotted home)
    (url : Url) :
    quickFixes index url
      (insertAll document ((remedies index document diagnostics).map Remedy.home)) diagnostics = [] := by
  have hnone : withoutShown (((remedies index document diagnostics).map Remedy.home).contains ·)
      (remedies index document diagnostics) = [] := by
    refine List.filter_eq_nil_iff.2 fun remedy hremedy => ?_
    have hhome : remedy.home ∈ (remedies index document diagnostics).map Remedy.home :=
      List.mem_map_of_mem hremedy
    simp only [List.contains_iff_mem.2 hhome]
    exact Bool.false_ne_true
  rw [quickFixes_insertAll paired marked ended dotted, hnone]
  rfl

/-- **Taking an offer takes it off the offers and leaves the others.** The document is one without lone
carriage returns, which has no mark in front unless it has a directive at the margin, and whose last such
directive is ended. Once the fix for one namespace is applied, the fixes for the same diagnostics are the
other ones, one line lower, with the joining fix where at least two of them are left, and the completions are
those from other namespaces, one line lower. Once the joining fix is applied, or the only one, no fix is
left. -/
theorem advice_converges (sources : List Text) (url : Url) (diagnostics : List Diagnostic)
    {document : Text} (paired : ReturnsPaired document)
    (marked : document.head? = some byteOrderMark → HasTopLevel document)
    (ended : LastEnded document) :
    let index := SymbolIndex.ofSources sources
    let fixes := quickFixes index url document diagnostics
    (∀ target, ∀ fix ∈ fixes, fix.title = importTitle target →
      let after := Document.applyTogether fix.edits document
      let others := (fixes.filter fun other => other.preferred && other.title != fix.title).map
        (QuickFix.lower 1)
      quickFixes index url after diagnostics = others ++ QuickFix.joined url others ∧
      ∀ line addUsing, completions index after line addUsing =
        ((completions index document line addUsing).filter fun completion =>
          completion.detail != "from ".toList ++ target).map (Completion.lower 1)) ∧
    ∀ fix ∈ fixes, fix.title = addAllTitle ∨ fixes = [fix] →
      quickFixes index url (Document.applyTogether fix.edits document) diagnostics = [] := by
  intro index fixes
  have dotted := isDotted_of_mem_remedies sources document diagnostics
  constructor
  · intro target fix hfix htitle
    obtain ⟨remedy, hremedy, rfl, rfl⟩ := exists_remedy_of_mem_quickFixes hfix htitle
    have htarget := dotted remedy.home (List.mem_map_of_mem hremedy)
    -- the edit of the fix is one insertion
    refine ⟨?_, fun line addUsing => ?_⟩
    · rw [htitle]
      exact quickFixes_insertAll_singleton paired marked ended htarget index url diagnostics
    · have hcompletions := completions_insertAll paired marked ended
        (List.forall_mem_singleton.2 htarget) index line addUsing
      simp only [List.map_cons, List.map_nil, List.contains_cons, List.contains_nil, Bool.or_false]
        at hcompletions
      exact hcompletions
  · intro fix hfix hevery
    rw [edits_eq_of_mem_quickFixes hfix hevery]
    exact quickFixes_insertAll_homes paired marked ended dotted url

/-- Two missing types of two namespaces, in a document with a mark and a directive. -/
theorem advice_converges_two :
    let sources := ["namespace Acme.Io;\nclass Buffer\nnamespace Acme;\nenum Mode\n".toList]
    let document := "\uFEFFusing System;\r\n\r\nnamespace Web;\r\n".toList
    let url : Url := ⟨"file".toList, none, .segments ["a.cs".toList], none, none⟩
    let report (name : Text) : Diagnostic :=
      ⟨⟨⟨2, 0⟩, ⟨2, 1⟩⟩, none, none, none, none, Wording.missingValue.message name, none, none, none⟩
    let diagnostics := [report "Mode".toList, report "Buffer".toList]
    let index := SymbolIndex.ofSources sources
    let fixes := quickFixes index url document diagnostics
    (ReturnsPaired document ∧ (document.head? = some byteOrderMark → HasTopLevel document) ∧
      LastEnded document) ∧
    fixes.map QuickFix.title = [importTitle "Acme".toList, importTitle "Acme.Io".toList, addAllTitle] ∧
    (∀ target, ∀ fix ∈ fixes, fix.title = importTitle target →
      let after := Document.applyTogether fix.edits document
      let others := (fixes.filter fun other => other.preferred && other.title != fix.title).map
        (QuickFix.lower 1)
      quickFixes index url after diagnostics = others ++ QuickFix.joined url others ∧
      ∀ line addUsing, completions index after line addUsing =
        ((completions index document line addUsing).filter fun completion =>
          completion.detail != "from ".toList ++ target).map (Completion.lower 1)) ∧
    ∀ fix ∈ fixes, fix.title = addAllTitle ∨ fixes = [fix] →
      quickFixes index url (Document.applyTogether fix.edits document) diagnostics = [] := by
  intro sources document url report diagnostics index fixes
  have paired : ReturnsPaired document := by decide +kernel
  have marked : document.head? = some byteOrderMark → HasTopLevel document := by decide +kernel
  have ended : LastEnded document := by decide +kernel
  have titles : fixes.map QuickFix.title =
      [importTitle "Acme".toList, importTitle "Acme.Io".toList, addAllTitle] := by decide +kernel
  exact ⟨⟨paired, marked, ended⟩, titles,
    advice_converges sources url diagnostics paired marked ended⟩

end Advice
end UsingAdvisor
