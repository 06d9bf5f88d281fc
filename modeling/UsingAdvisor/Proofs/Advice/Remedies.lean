import UsingAdvisor.Advice.QuickFix

/-!
# Remedies of a larger scope

What becomes of the remedies when a document comes to see more. The missing names stay the same, since they
are those of the diagnostics; what changes is which of them need a remedy. A namespace that is seen loses
its remedy, and the others keep theirs, with the same diagnostics and in the same order
(`remedies_of_sees`). Also here: for which namespaces there are remedies (`apt_remedies`).
-/

namespace UsingAdvisor.Advice

/-- The remedies for namespaces that are not shown. -/
def withoutShown (shown : Text → Bool) (remedies : List Remedy) : List Remedy :=
  remedies.filter fun remedy => !shown remedy.home

@[simp]
theorem withoutShown_nil (shown : Text → Bool) : withoutShown shown [] = [] := rfl

theorem withoutShown_cons_of_shown {shown : Text → Bool} {remedy : Remedy} {rest : List Remedy}
    (h : shown remedy.home = true) : withoutShown shown (remedy :: rest) = withoutShown shown rest := by
  refine List.filter_cons_of_neg ?_
  rw [h]
  exact Bool.false_ne_true

theorem withoutShown_cons_of_not_shown {shown : Text → Bool} {remedy : Remedy} {rest : List Remedy}
    (h : shown remedy.home = false) :
    withoutShown shown (remedy :: rest) = remedy :: withoutShown shown rest := by
  refine List.filter_cons_of_pos ?_
  rw [h]
  rfl

/-- Diagnostics for a namespace that is shown leave no trace. -/
theorem withoutShown_addRemedy_of_shown {shown : Text → Bool} {home : Text} (hshown : shown home = true)
    (diagnostics : List Diagnostic) (remedies : List Remedy) :
    withoutShown shown (addRemedy home diagnostics remedies) = withoutShown shown remedies := by
  induction remedies with
  | nil => exact withoutShown_cons_of_shown hshown
  | cons remedy rest ih =>
    rw [addRemedy]
    split
    next heq =>
      have hremedy : shown remedy.home = true := by rw [heq, hshown]
      rw [withoutShown_cons_of_shown hshown, withoutShown_cons_of_shown hremedy]
    next hne =>
      cases hremedy : shown remedy.home with
      | true => rw [withoutShown_cons_of_shown hremedy, withoutShown_cons_of_shown hremedy, ih]
      | false => rw [withoutShown_cons_of_not_shown hremedy, withoutShown_cons_of_not_shown hremedy, ih]

/-- Diagnostics for another namespace are added with or without the remedies for what is shown. -/
theorem withoutShown_addRemedy_of_not_shown {shown : Text → Bool} {home : Text}
    (hshown : shown home = false) (diagnostics : List Diagnostic) (remedies : List Remedy) :
    withoutShown shown (addRemedy home diagnostics remedies) =
      addRemedy home diagnostics (withoutShown shown remedies) := by
  induction remedies with
  | nil => exact withoutShown_cons_of_not_shown hshown
  | cons remedy rest ih =>
    rw [addRemedy]
    split
    next heq =>
      have hremedy : shown remedy.home = false := by rw [heq, hshown]
      rw [withoutShown_cons_of_not_shown hshown, withoutShown_cons_of_not_shown hremedy, addRemedy,
        if_pos heq]
    next hne =>
      cases hremedy : shown remedy.home with
      | true => rw [withoutShown_cons_of_shown hremedy, withoutShown_cons_of_shown hremedy, ih]
      | false =>
        rw [withoutShown_cons_of_not_shown hremedy, withoutShown_cons_of_not_shown hremedy, addRemedy,
          if_neg hne, ih]

/-- One missing name, looked at in a scope that sees the shown namespaces as well. -/
theorem remedyName_withoutShown {shown : Text → Bool} {scope wider : Scope}
    (hsees : ∀ home, wider.sees home = (scope.sees home || shown home)) (index : SymbolIndex)
    (diagnostics : List Diagnostic) (remedies : List Remedy) (name : Text) :
    remedyName index wider diagnostics (withoutShown shown remedies) name =
      withoutShown shown (remedyName index scope diagnostics remedies name) := by
  simp only [remedyName]
  cases index.lookup? name with
  | none => rfl
  | some symbol =>
    simp only [hsees]
    cases scope.sees symbol.home with
    | true => rfl
    | false =>
      cases hshown : shown symbol.home with
      | true => exact (withoutShown_addRemedy_of_shown hshown _ _).symm
      | false => exact (withoutShown_addRemedy_of_not_shown hshown _ _).symm

/-- **A namespace that comes to be seen loses its remedy, and the others keep theirs.** -/
theorem remedies_of_sees {shown : Text → Bool} {document wider : Text}
    (hsees : ∀ home, (Scope.ofText wider).sees home =
      ((Scope.ofText document).sees home || shown home))
    (index : SymbolIndex) (diagnostics : List Diagnostic) :
    remedies index wider diagnostics = withoutShown shown (remedies index document diagnostics) := by
  -- Both folds run over the names of the diagnostics; what is left out relates them step by step.
  have hstep : ∀ acc name,
      remedyName index (Scope.ofText wider) diagnostics (withoutShown shown acc) name =
        withoutShown shown (remedyName index (Scope.ofText document) diagnostics acc name) :=
    remedyName_withoutShown hsees index diagnostics
  rw [remedies, ← withoutShown_nil shown, List.foldl_hom (withoutShown shown) hstep, remedies]

/-! ### The namespaces of the remedies -/

/-- Diagnostics are added to a remedy that is there, or a remedy for a new namespace goes to the end. -/
theorem map_home_addRemedy (home : Text) (diagnostics : List Diagnostic) (remedies : List Remedy) :
    (addRemedy home diagnostics remedies).map Remedy.home =
      if home ∈ remedies.map Remedy.home then remedies.map Remedy.home
      else remedies.map Remedy.home ++ [home] := by
  induction remedies with
  | nil => rfl
  | cons remedy rest ih =>
    rw [addRemedy]
    by_cases heq : remedy.home = home
    · simp [heq]
    · rw [if_neg heq, List.map_cons, List.map_cons, ih]
      have hne : home ≠ remedy.home := Ne.symm heq
      by_cases hmem : home ∈ rest.map Remedy.home
      · rw [if_pos hmem, if_pos (List.mem_cons_of_mem _ hmem)]
      · rw [if_neg hmem, if_neg (List.not_mem_cons_of_ne_of_not_mem hne hmem), List.cons_append]

/-- What holds of a list of remedies: each is for a namespace of the index that the scope does not see, and
no two are for the same. -/
structure Apt (index : SymbolIndex) (scope : Scope) (remedies : List Remedy) : Prop where
  nodup : (remedies.map Remedy.home).Nodup
  indexed : ∀ home ∈ remedies.map Remedy.home, ∃ symbol ∈ index.symbols, symbol.home = home
  unseen : ∀ home ∈ remedies.map Remedy.home, scope.sees home = false

/-- A remedy for a namespace of the index that is not seen may be added. -/
theorem Apt.addRemedy {index : SymbolIndex} {scope : Scope} {remedies : List Remedy}
    (apt : Apt index scope remedies) {symbol : Symbol} (hindexed : symbol ∈ index.symbols)
    (hunseen : scope.sees symbol.home = false) (diagnostics : List Diagnostic) :
    Apt index scope (addRemedy symbol.home diagnostics remedies) := by
  by_cases hmem : symbol.home ∈ remedies.map Remedy.home
  · -- the diagnostics join the remedy that is there
    have hhomes := map_home_addRemedy symbol.home diagnostics remedies
    rw [if_pos hmem] at hhomes
    exact ⟨hhomes ▸ apt.nodup, hhomes ▸ apt.indexed, hhomes ▸ apt.unseen⟩
  · have hhomes := map_home_addRemedy symbol.home diagnostics remedies
    rw [if_neg hmem] at hhomes
    refine ⟨?_, ?_, ?_⟩ <;> rw [hhomes]
    · refine List.nodup_append.2 ⟨apt.nodup, by simp, ?_⟩
      rintro first hfirst second hsecond rfl
      exact hmem (List.mem_singleton.1 hsecond ▸ hfirst)
    · refine List.forall_mem_append.2 ⟨apt.indexed, List.forall_mem_singleton.2 ?_⟩
      exact ⟨symbol, hindexed, rfl⟩
    · exact List.forall_mem_append.2 ⟨apt.unseen, List.forall_mem_singleton.2 hunseen⟩

/-- One missing name leaves the remedies apt. -/
theorem Apt.remedyName {index : SymbolIndex} {scope : Scope} {remedies : List Remedy}
    (apt : Apt index scope remedies) (diagnostics : List Diagnostic) (name : Text) :
    Apt index scope (remedyName index scope diagnostics remedies name) := by
  simp only [Advice.remedyName]
  split
  next => exact apt
  next symbol hlookup =>
    split
    next => exact apt
    next hunseen =>
      have hindexed : symbol ∈ index.symbols := List.mem_of_find?_eq_some hlookup
      exact apt.addRemedy hindexed (Bool.eq_false_iff.2 hunseen) _

/-- **Remedies are for namespaces of the index that the document does not see, each for another.** -/
theorem apt_remedies (index : SymbolIndex) (document : Text) (diagnostics : List Diagnostic) :
    Apt index (Scope.ofText document) (remedies index document diagnostics) := by
  refine List.foldlRecOn (motive := Apt index (Scope.ofText document)) _ _ ?_ ?_
  · exact ⟨List.nodup_nil, fun _ => nofun, fun _ => nofun⟩
  · exact fun acc apt name _ => apt.remedyName diagnostics name

end UsingAdvisor.Advice
