import Mathlib.Data.List.Forall2

/-!
# Lists, runs and repetitions

What a run over a list makes of a part of its state is up to the last item that says anything about it
(`foldl_eq_getLast?`). A list without its repetitions keeps the first of all that is the same. Each further item
is left out if it is there already and goes to the end otherwise (`eraseDups_append_of_mem`,
`eraseDups_append_of_not_mem`), and so does each item of a further list (`eraseDups_append_filter`); what is read
from the items may be read before or after the repetitions are left out (`eraseDups_filterMap_eraseDups`). Also
here: a list taken apart by keys, one part for each key, holds what has one of the keys, as often as before
(`flatMap_filter_perm`), and two lists that are alike item by item give lists that are alike
(`map_eq_of_map_eq`, `forall₂_map_map`).
-/

namespace UsingAdvisor

/-- Induction along a list from its front, with one more item at the end in each step. -/
@[elab_as_elim]
theorem append_induction {α : Type} {motive : List α → Prop} (nil : motive [])
    (append : ∀ items item, motive items → motive (items ++ [item])) (items : List α) :
    motive items := by
  rw [← List.reverse_reverse items]
  induction items.reverse with
  | nil => exact nil
  | cons item rest ih =>
    rw [List.reverse_cons]
    exact append _ _ ih

/-- **The last one decides.** If each item of a run either says what a part of the state becomes or leaves it as
it is, the part is in the end what the last item says that says anything. -/
theorem foldl_eq_getLast? {α β σ : Type} {step : σ → α → σ} (part : σ → β) (value? : α → Option β)
    (h : ∀ state item, part (step state item) = (value? item).getD (part state)) (state : σ)
    (items : List α) :
    part (items.foldl step state) = (items.filterMap value?).getLast?.getD (part state) := by
  induction items using append_induction with
  | nil => rfl
  | append items item ih =>
    rw [List.foldl_append, List.foldl_cons, List.foldl_nil, h, ih, List.filterMap_append]
    cases hvalue : value? item <;> simp [hvalue]

section Repetitions

variable {α β : Type} [BEq α] [LawfulBEq α] [BEq β] [LawfulBEq β]

/-- Nothing is repeated once repetitions are left out. -/
theorem nodup_eraseDups (items : List α) : items.eraseDups.Nodup := by
  cases items with
  | nil => exact List.nodup_nil
  | cons item items =>
    rw [List.eraseDups_cons, List.nodup_cons]
    refine ⟨fun hmem => ?_, nodup_eraseDups _⟩
    simpa using List.mem_eraseDups.1 hmem
termination_by items.length
decreasing_by exact Nat.lt_succ_of_le (List.length_filter_le _ _)

/-- Where nothing is repeated, nothing is left out. -/
theorem eraseDups_of_nodup {items : List α} (h : items.Nodup) : items.eraseDups = items := by
  induction items with
  | nil => rfl
  | cons item items ih =>
    obtain ⟨hitem, hitems⟩ := List.nodup_cons.1 h
    have hkept : items.filter (fun other => !other == item) = items := by
      refine List.filter_eq_self.2 fun other hother => ?_
      have hne : other ≠ item := fun heq => hitem (heq ▸ hother)
      simp [hne]
    rw [List.eraseDups_cons, hkept, ih hitems]

/-- Of two items of a list in which the second one may not come before the first one, the first one does. -/
theorem idxOf_lt_of_pairwise {R : α → α → Prop} {items : List α} (h : items.Pairwise R) {first second : α}
    (hfirst : first ∈ items) (hsecond : second ∈ items) (hne : first ≠ second) (hnot : ¬ R second first) :
    items.idxOf first < items.idxOf second := by
  have hfirst := List.idxOf_lt_length_of_mem hfirst
  have hsecond := List.idxOf_lt_length_of_mem hsecond
  refine Nat.lt_of_not_le fun hle => ?_
  rcases Nat.lt_or_eq_of_le hle with hlt | heq
  · have hrelated := List.pairwise_iff_getElem.1 h _ _ hsecond hfirst hlt
    rw [List.getElem_idxOf, List.getElem_idxOf] at hrelated
    exact hnot hrelated
  · refine hne ?_
    rw [← List.getElem_idxOf hfirst, ← List.getElem_idxOf hsecond]
    simp only [heq]

/-- An item that is there already is left out. -/
theorem eraseDups_append_of_mem {items : List α} {item : α} (h : item ∈ items) :
    (items ++ [item]).eraseDups = items.eraseDups := by
  rw [List.eraseDups_append, List.removeAll]
  simp [h]

/-- A new item goes to the end. -/
theorem eraseDups_append_of_not_mem {items : List α} {item : α} (h : item ∉ items) :
    (items ++ [item]).eraseDups = items.eraseDups ++ [item] := by
  rw [List.eraseDups_append, List.removeAll]
  simp [h, List.eraseDups_cons]

/-- Items that are left out take their repetitions with them. -/
theorem eraseDups_filter (keep : α → Bool) (items : List α) :
    (items.filter keep).eraseDups = items.eraseDups.filter keep := by
  induction items using append_induction with
  | nil => rfl
  | append items item ih =>
    rw [List.filter_append]
    by_cases hkeep : keep item = true
    · rw [List.filter_cons_of_pos hkeep, List.filter_nil]
      by_cases hold : item ∈ items
      · rw [eraseDups_append_of_mem (List.mem_filter.2 ⟨hold, hkeep⟩), eraseDups_append_of_mem hold, ih]
      · have hnew : item ∉ items.filter keep := fun hmem => hold (List.mem_filter.1 hmem).1
        rw [eraseDups_append_of_not_mem hnew, eraseDups_append_of_not_mem hold, ih, List.filter_append,
          List.filter_cons_of_pos hkeep, List.filter_nil]
    · rw [List.filter_cons_of_neg hkeep, List.filter_nil, List.append_nil, ih]
      by_cases hold : item ∈ items
      · rw [eraseDups_append_of_mem hold]
      · rw [eraseDups_append_of_not_mem hold, List.filter_append, List.filter_cons_of_neg hkeep, List.filter_nil,
          List.append_nil]

/-- The items of a second list follow those of the first one, but for those that are there already. -/
theorem eraseDups_append_filter (first second : List α) :
    (first ++ second).eraseDups =
      first.eraseDups ++ second.eraseDups.filter fun item => !first.eraseDups.contains item := by
  rw [List.eraseDups_append, List.removeAll, eraseDups_filter]
  refine congrArg (first.eraseDups ++ ·) (List.filter_congr fun item _ => ?_)
  rw [List.contains_eq_mem, List.elem_eq_mem]
  simp only [List.mem_eraseDups]

/-- What repeated items give is repeated. -/
theorem eraseDups_filterMap_eraseDups (f : α → Option β) (items : List α) :
    (items.eraseDups.filterMap f).eraseDups = (items.filterMap f).eraseDups := by
  induction items using append_induction with
  | nil => rfl
  | append items item ih =>
    by_cases hold : item ∈ items
    · rw [eraseDups_append_of_mem hold, ih, List.filterMap_append]
      cases hresult : f item with
      | none => simp [hresult]
      | some result =>
        have hfound : result ∈ items.filterMap f := List.mem_filterMap.2 ⟨item, hold, hresult⟩
        simp [hresult, eraseDups_append_of_mem hfound]
    · rw [eraseDups_append_of_not_mem hold, List.filterMap_append, List.filterMap_append]
      cases hresult : f item with
      | none => simp [hresult, ih]
      | some result =>
        have hmem : result ∈ items.eraseDups.filterMap f ↔ result ∈ items.filterMap f := by
          simp only [List.mem_filterMap, List.mem_eraseDups]
        by_cases hfound : result ∈ items.filterMap f
        · simp [hresult, eraseDups_append_of_mem hfound, eraseDups_append_of_mem (hmem.2 hfound), ih]
        · simp [hresult, eraseDups_append_of_not_mem hfound,
            eraseDups_append_of_not_mem (mt hmem.1 hfound), ih]

end Repetitions

/-! ### Parts of a list -/

/-- What passes the one of two filters or the other passes one filter for both, as often as before. -/
theorem filter_append_perm_filter {α : Type} {first second : α → Bool}
    (h : ∀ item, first item = true → second item = false) (items : List α) :
    (items.filter first ++ items.filter second).Perm
      (items.filter fun item => first item || second item) := by
  induction items with
  | nil => exact List.Perm.refl []
  | cons item items ih =>
    cases hfirst : first item with
    | true => simpa [hfirst, h item hfirst] using ih
    | false =>
      cases hsecond : second item with
      | true => simpa [hfirst, hsecond] using List.perm_middle.trans (ih.cons item)
      | false => simpa [hfirst, hsecond] using ih

/-- The parts of a list by different keys hold what has one of the keys, as often as the list. -/
theorem flatMap_filter_perm {α β : Type} [BEq β] [LawfulBEq β] (key? : α → Option β) (items : List α)
    {keys : List β} (hnodup : keys.Nodup) :
    (keys.flatMap fun key => items.filter fun item => key? item == some key).Perm
      (items.filter fun item => (key? item).any keys.contains) := by
  induction keys with
  | nil =>
    have hnone : items.filter (fun item => (key? item).any ([] : List β).contains) = [] := by
      refine List.filter_eq_nil_iff.2 fun item _ => ?_
      cases key? item <;> simp
    rw [hnone, List.flatMap_nil]
  | cons key keys ih =>
    obtain ⟨hkey, hnodup⟩ := List.nodup_cons.1 hnodup
    have happart (item : α) (h : (key? item == some key) = true) :
        (key? item).any keys.contains = false := by
      rw [eq_of_beq h]
      simpa using hkey
    rw [List.flatMap_cons]
    refine ((ih hnodup).append_left _).trans ((filter_append_perm_filter happart items).trans ?_)
    refine List.Perm.of_eq (List.filter_congr fun item _ => ?_)
    cases key? item <;> simp

/-! ### Lists that are alike -/

/-- Lists that agree in a key agree in all that the key decides for their members. -/
theorem map_eq_of_map_eq {α β γ : Type} {key : α → β} {f : α → γ} {first second : List α}
    (h : first.map key = second.map key)
    (hf : ∀ a ∈ first, ∀ b ∈ second, key a = key b → f a = f b) : first.map f = second.map f := by
  induction first generalizing second with
  | nil => rw [List.map_eq_nil_iff.1 h.symm]
  | cons a first ih =>
    cases second with
    | nil => cases h
    | cons b second =>
      obtain ⟨hkey, hrest⟩ := List.cons.inj h
      rw [List.map_cons, List.map_cons, hf a List.mem_cons_self b List.mem_cons_self hkey]
      exact congrArg _ (ih hrest fun c hc d hd =>
        hf c (List.mem_cons_of_mem a hc) d (List.mem_cons_of_mem b hd))

/-- Lists that are made from one list are related item by item. -/
theorem forall₂_map_map {α β : Type} {R : β → β → Prop} {f g : α → β} {items : List α}
    (h : ∀ item, R (f item) (g item)) : List.Forall₂ R (items.map f) (items.map g) := by
  rw [List.forall₂_map_left_iff, List.forall₂_map_right_iff, List.forall₂_same]
  exact fun item _ => h item

end UsingAdvisor
