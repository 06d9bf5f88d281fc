import UsingAdvisor.Proofs.Advice.Convergence
import UsingAdvisor.Proofs.Repetition

/-!
# Fixes as a partition of the diagnostics

A diagnostic is fixable if it reports a name that is indexed under a namespace which the document does not
see; that namespace is what its fix imports (`missingHome?`). The remedies are found name by name, and each
name brings its own diagnostics to the remedy for its namespace (`remedyName_remediesFor`), so that in the
end the remedy for a namespace has the reports of all its names (`remedies_eq_remediesFor`). Main statement:
`quickFixes_partition` (the fixes take the fixable diagnostics apart by namespace and lose none of them).
-/

namespace UsingAdvisor.Advice

/-- The symbol of a name, if the document does not see it. -/
def unseen? (index : SymbolIndex) (document name : Text) : Option Symbol :=
  (index.lookup? name).filter fun symbol => !(Scope.ofText document).sees symbol.home

/-- The namespace that a name needs: that of its symbol, if the document does not see it. -/
def neededHome? (index : SymbolIndex) (document name : Text) : Option Text :=
  (unseen? index document name).map Symbol.home

/-- The namespace whose import fixes a diagnostic. A diagnostic is fixable if there is one: what it reports
as missing is an indexed name whose namespace the document does not see. -/
def missingHome? (index : SymbolIndex) (document : Text) (diagnostic : Diagnostic) : Option Text :=
  diagnostic.missingName?.bind (neededHome? index document)

/-! ### Remedies that are extended -/

/-- The remedy for a namespace that has one is extended in its place. -/
theorem addRemedy_of_mem {homes : List Text} (hnodup : homes.Nodup) {home : Text} (h : home ∈ homes)
    (settled : Text → List Diagnostic) (more : List Diagnostic) :
    addRemedy home more (homes.map fun home => ⟨home, settled home⟩) =
      homes.map fun other => ⟨other, settled other ++ if home = other then more else []⟩ := by
  induction homes with
  | nil => exact absurd h List.not_mem_nil
  | cons first rest ih =>
    obtain ⟨hfirst, hrest⟩ := List.nodup_cons.1 hnodup
    rw [List.map_cons, List.map_cons, addRemedy]
    by_cases heq : home = first
    · -- the namespace does not occur again
      subst heq
      rw [if_pos rfl, if_pos rfl]
      congr 1
      refine List.map_congr_left fun other hother => ?_
      have hne : home ≠ other := fun h => hfirst (h ▸ hother)
      rw [if_neg hne, List.append_nil]
    · rw [if_neg (Ne.symm heq), if_neg heq, List.append_nil, ih hrest]
      exact (List.mem_cons.1 h).resolve_left heq

/-- The remedy for a new namespace goes to the end. -/
theorem addRemedy_of_not_mem {remedies : List Remedy} {home : Text}
    (h : home ∉ remedies.map Remedy.home) (diagnostics : List Diagnostic) :
    addRemedy home diagnostics remedies = remedies ++ [⟨home, diagnostics⟩] := by
  induction remedies with
  | nil => rfl
  | cons remedy rest ih =>
    obtain ⟨hne, hrest⟩ := not_or.1 (mt List.mem_cons.2 h)
    rw [addRemedy, if_neg (Ne.symm hne), ih hrest, List.cons_append]

section Remedies

variable (index : SymbolIndex) (document : Text) (diagnostics : List Diagnostic)

/-- The diagnostics that report a name. -/
def reportsOf (name : Text) : List Diagnostic :=
  diagnostics.filter fun diagnostic => diagnostic.missingName? == some name

/-- The diagnostics that report names of one namespace, name after name. -/
def reports (names : List Text) (home : Text) : List Diagnostic :=
  (names.filter fun name => neededHome? index document name == some home).flatMap
    (reportsOf diagnostics)

/-- The remedies for names: one for each namespace that they need, with the reports of its names. -/
def remediesFor (names : List Text) : List Remedy :=
  (names.filterMap (neededHome? index document)).eraseDups.map fun home =>
    ⟨home, reports index document diagnostics names home⟩

/-- A name adds its reports to the remedy for the namespace that it needs. -/
theorem remedyName_eq (remedies : List Remedy) (name : Text) :
    remedyName index (Scope.ofText document) diagnostics remedies name =
      match neededHome? index document name with
      | none => remedies
      | some home => addRemedy home (reportsOf diagnostics name) remedies := by
  rw [remedyName, neededHome?, unseen?]
  cases index.lookup? name with
  | none => rfl
  | some symbol =>
    rw [Option.filter_some]
    cases hsees : (Scope.ofText document).sees symbol.home <;> simp [hsees, reportsOf]

/-- One name more is one part more, at the namespace that it needs. -/
theorem reports_append (names : List Text) (name home : Text) :
    reports index document diagnostics (names ++ [name]) home =
      reports index document diagnostics names home ++
        if neededHome? index document name = some home then reportsOf diagnostics name else [] := by
  rw [reports, List.filter_append, List.flatMap_append, ← reports]
  by_cases hhome : neededHome? index document name = some home <;> simp [hhome]

/-- Names that need other namespaces report nothing for this one. -/
theorem reports_eq_nil {names : List Text} {home : Text}
    (h : home ∉ names.filterMap (neededHome? index document)) :
    reports index document diagnostics names home = [] := by
  rw [reports, List.filter_eq_nil_iff.2, List.flatMap_nil]
  intro name hname hhome
  exact h (List.mem_filterMap.2 ⟨name, hname, eq_of_beq hhome⟩)

/-- **One name more.** -/
theorem remedyName_remediesFor (names : List Text) (name : Text) :
    remedyName index (Scope.ofText document) diagnostics
      (remediesFor index document diagnostics names) name =
        remediesFor index document diagnostics (names ++ [name]) := by
  rw [remedyName_eq, remediesFor, remediesFor, List.filterMap_append]
  simp only [reports_append]
  cases hhome : neededHome? index document name with
  | none => simp [hhome]
  | some home =>
    have hneeded : [name].filterMap (neededHome? index document) = [home] := by simp [hhome]
    simp only [hneeded, Option.some.injEq]
    by_cases hold : home ∈ names.filterMap (neededHome? index document)
    · rw [eraseDups_append_of_mem hold,
        addRemedy_of_mem (nodup_eraseDups _) (List.mem_eraseDups.2 hold)]
    · rw [eraseDups_append_of_not_mem hold, addRemedy_of_not_mem, List.map_append]
      · congr 1
        · refine List.map_congr_left fun other hother => ?_
          have hne : home ≠ other := fun h => hold (List.mem_eraseDups.1 (h ▸ hother))
          rw [if_neg hne, List.append_nil]
        · simp [reports_eq_nil index document diagnostics hold]
      · rw [List.map_map]
        simpa [Function.comp_def] using hold

/-- **The remedies are those for the missing names that the index provides.** -/
theorem remedies_eq_remediesFor :
    remedies index document diagnostics =
      remediesFor index document diagnostics
        (indexedNames (diagnostics.map Diagnostic.message) index) := by
  rw [remedies]
  induction indexedNames (diagnostics.map Diagnostic.message) index using append_induction with
  | nil => rfl
  | append names name ih =>
    rw [List.foldl_append, ih, List.foldl_cons, List.foldl_nil, remedyName_remediesFor]

/-! ### What the remedies hold -/

/-- Only an indexed name needs a namespace. -/
theorem neededHome?_eq_none {name : Text} (h : index.contains name = false) :
    neededHome? index document name = none := by
  rw [SymbolIndex.contains, Option.isSome_eq_false_iff, Option.isNone_iff_eq_none] at h
  rw [neededHome?, unseen?, h]
  rfl

/-- The namespaces of the missing names are those of the fixable diagnostics. -/
theorem eraseDups_filterMap_indexedNames :
    ((indexedNames (diagnostics.map Diagnostic.message) index).filterMap
      (neededHome? index document)).eraseDups =
        (diagnostics.filterMap (missingHome? index document)).eraseDups := by
  have hneeded (name : Text) : (if index.contains name then neededHome? index document name else none) =
      neededHome? index document name := by
    cases hcontains : index.contains name with
    | true => rfl
    | false => exact (neededHome?_eq_none index document hcontains).symm
  rw [indexedNames, eraseDups_filterMap_eraseDups, List.filterMap_filter]
  simp only [hneeded]
  rw [List.filterMap_filterMap, List.filterMap_map]
  rfl

/-- A diagnostic is fixable by a namespace if its name is one of those that need it. -/
theorem any_contains_iff_missingHome? {diagnostic : Diagnostic} (h : diagnostic ∈ diagnostics)
    (home : Text) :
    (diagnostic.missingName?.any ((indexedNames (diagnostics.map Diagnostic.message) index).filter
      fun name => neededHome? index document name == some home).contains) =
        (missingHome? index document diagnostic == some home) := by
  rw [missingHome?]
  cases hname : diagnostic.missingName? with
  | none => rfl
  | some name =>
    rw [Option.any_some, Option.bind_some, Bool.eq_iff_iff, List.contains_iff_mem, List.mem_filter]
    refine and_iff_right_of_imp fun hhome => ?_
    -- a name that needs a namespace is an indexed one
    have hcontains : index.contains name = true := by
      cases hcontains : index.contains name with
      | true => rfl
      | false =>
        rw [neededHome?_eq_none index document hcontains] at hhome
        exact absurd (eq_of_beq hhome) nofun
    have hmessage : name ∈ (diagnostics.map Diagnostic.message).filterMap missingName? :=
      List.mem_filterMap.2 ⟨diagnostic.message, List.mem_map_of_mem h, hname⟩
    exact List.mem_eraseDups.2 (List.mem_filter.2 ⟨hmessage, hcontains⟩)

/-- **The reports for a namespace are the diagnostics that its import fixes.** -/
theorem reports_perm (home : Text) :
    (reports index document diagnostics
      (indexedNames (diagnostics.map Diagnostic.message) index) home).Perm
        (diagnostics.filter fun diagnostic => missingHome? index document diagnostic == some home) := by
  have hnodup : (indexedNames (diagnostics.map Diagnostic.message) index).Nodup := nodup_eraseDups _
  have hparts := flatMap_filter_perm Diagnostic.missingName? diagnostics
    (hnodup.sublist (List.filter_sublist (p := fun name => neededHome? index document name == some home)))
  refine hparts.trans (List.Perm.of_eq (List.filter_congr fun diagnostic hmem => ?_))
  exact any_contains_iff_missingHome? index document diagnostics hmem home

/-- **The remedies, one for each namespace that the diagnostics ask for.** -/
theorem remedies_eq_map :
    remedies index document diagnostics =
      (diagnostics.filterMap (missingHome? index document)).eraseDups.map fun home =>
        ⟨home, reports index document diagnostics
          (indexedNames (diagnostics.map Diagnostic.message) index) home⟩ := by
  rw [remedies_eq_remediesFor, remediesFor, eraseDups_filterMap_indexedNames]

/-- There are no remedies where no diagnostic is fixable, and only there. -/
theorem remedies_eq_nil_iff :
    remedies index document diagnostics = [] ↔
      ∀ diagnostic ∈ diagnostics, missingHome? index document diagnostic = none := by
  rw [remedies_eq_map, List.map_eq_nil_iff, ← List.filterMap_eq_nil_iff]
  simp only [List.eq_nil_iff_forall_not_mem, List.mem_eraseDups]

end Remedies

/-- **The fixes take the fixable diagnostics apart by namespace.** There is one fix for each namespace that
fixes a diagnostic when it is imported, in the order in which the diagnostics first ask for them. An editor
may apply it on its own, its one edit imports the namespace, and it has the diagnostics that this import
fixes, as often as they are reported, and no others. Where there are several namespaces one fix more joins
them: it comes last, an editor may not apply it on its own, and it has the edits and the diagnostics of the
others in their order. There are no fixes where no diagnostic is fixable, and only there. -/
theorem quickFixes_partition (index : SymbolIndex) (url : Url) (document : Text)
    (diagnostics : List Diagnostic) :
    let homes := (diagnostics.filterMap (missingHome? index document)).eraseDups
    let fixes := quickFixes index url document diagnostics
    (∃ settled : Text → List Diagnostic,
      (∀ home, (settled home).Perm
        (diagnostics.filter fun diagnostic => missingHome? index document diagnostic == some home)) ∧
      fixes = (homes.map fun home =>
          ⟨importTitle home, url, [insertion document home], settled home, true⟩) ++
        if 1 < homes.length then
          [⟨addAllTitle, url, homes.map (insertion document), homes.flatMap settled, false⟩]
        else []) ∧
    (fixes = [] ↔ ∀ diagnostic ∈ diagnostics, missingHome? index document diagnostic = none) := by
  intro homes fixes
  refine ⟨⟨reports index document diagnostics
    (indexedNames (diagnostics.map Diagnostic.message) index), ?_, ?_⟩, ?_⟩
  · exact reports_perm index document diagnostics
  · simp only [fixes, quickFixes, remedies_eq_map, List.map_map, List.length_map, fixAll,
      List.flatMap_map]
    rfl
  · rw [← remedies_eq_nil_iff]
    simp only [fixes, quickFixes]
    cases remedies index document diagnostics with
    | nil => exact iff_of_true rfl rfl
    | cons remedy rest => exact iff_of_false (List.cons_ne_nil _ _) (List.cons_ne_nil _ _)

end UsingAdvisor.Advice
