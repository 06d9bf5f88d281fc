import UsingAdvisor.Order

/-!
# Lists in a strict order

Consequences of `StrictOrder` for lists in ascending order. Main statements: `StrictOrder.eq_of_mem_iff` (such
a list is told by its members) and `StrictOrder.getLast?_flatMap_eq_some_iff` (where the last of all that its
members give comes from).
-/

namespace UsingAdvisor.StrictOrder

variable {α : Type} {before : α → α → Bool}

theorem asymm (order : StrictOrder before) {a b : α} (h : before a b = true) : before b a = false := by
  by_cases hba : before b a = true
  · have haa := order.trans h hba
    rw [order.irrefl] at haa
    cases haa
  · exact Bool.eq_false_iff.2 hba

/-- What is before something is before all that is not before that. -/
theorem trans_not (order : StrictOrder before) {a b c : α} (hab : before a b = true)
    (hcb : before c b = false) : before a c = true := by
  by_cases hbc : b = c
  · exact hbc ▸ hab
  · rcases order.total hbc with hbc | hcb'
    · exact order.trans hab hbc
    · rw [hcb] at hcb'; cases hcb'

/-- Not to be before is transitive, too. -/
theorem not_trans (order : StrictOrder before) {a b c : α} (hba : before b a = false)
    (hcb : before c b = false) : before c a = false := by
  by_cases hca : before c a = true
  · rw [order.trans_not hca hba] at hcb; cases hcb
  · exact Bool.eq_false_iff.2 hca

theorem nodup (order : StrictOrder before) {list : List α}
    (h : list.Pairwise fun a b => before a b = true) : list.Nodup := by
  refine h.imp fun {a b} hab heq => ?_
  rw [heq, order.irrefl] at hab
  cases hab

/-- Lists in ascending order with the same members are the same. -/
theorem eq_of_mem_iff (order : StrictOrder before) {first second : List α}
    (hfirst : first.Pairwise fun a b => before a b = true)
    (hsecond : second.Pairwise fun a b => before a b = true)
    (h : ∀ a, a ∈ first ↔ a ∈ second) : first = second := by
  have hperm := (List.perm_ext_iff_of_nodup (order.nodup hfirst) (order.nodup hsecond)).2 h
  refine hperm.eq_of_pairwise (fun a b _ _ hab hba => ?_) hfirst hsecond
  rw [order.asymm hab] at hba
  cases hba

/-- **The last that has any decides.** Where the members of a list in the order of a key give lists, the last
item of all is the last one of the last member that gives any. -/
theorem getLast?_flatMap_eq_some_iff (order : StrictOrder before) {β γ : Type} (key : β → α) {f : β → List γ}
    {list : List β} (h : list.Pairwise fun a b => before (key a) (key b) = true) {x : γ} :
    (list.flatMap f).getLast? = some x ↔
      ∃ a ∈ list, (f a).getLast? = some x ∧ ∀ b ∈ list, before (key a) (key b) = true → f b = [] := by
  induction list with
  | nil => simp
  | cons head rest ih =>
    obtain ⟨hhead, hrest⟩ := List.pairwise_cons.1 h
    rw [List.flatMap_cons, List.getLast?_append, Option.or_eq_some_iff, ih hrest, List.getLast?_eq_none_iff,
      List.flatMap_eq_nil_iff]
    constructor
    · rintro (⟨a, ha, hlast, hlater⟩ | ⟨hnone, hlast⟩)
      · refine ⟨a, List.mem_cons_of_mem _ ha, hlast, List.forall_mem_cons.2 ⟨fun hbefore => ?_, hlater⟩⟩
        rw [order.asymm (hhead a ha)] at hbefore
        cases hbefore
      · refine ⟨head, List.mem_cons_self, hlast,
          List.forall_mem_cons.2 ⟨fun hbefore => ?_, fun b hb _ => hnone b hb⟩⟩
        rw [order.irrefl] at hbefore
        cases hbefore
    · rintro ⟨a, ha, hlast, hlater⟩
      rcases List.mem_cons.1 ha with rfl | ha
      · exact .inr ⟨fun b hb => hlater b (List.mem_cons_of_mem _ hb) (hhead b hb), hlast⟩
      · exact .inl ⟨a, ha, hlast, fun b hb => hlater b (List.mem_cons_of_mem _ hb)⟩

end UsingAdvisor.StrictOrder
