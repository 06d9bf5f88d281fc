/-!
# Strict orders and dictionary order

A strict order given by a test, and the dictionary order that it gives on lists. Names are ordered
by code point and paths by their components, and both orders are dictionary orders. Main statement:
`StrictOrder.dictionary` (the dictionary order of a strict order is a strict order).
-/

namespace UsingAdvisor

/-- A test that orders its type strictly and totally. -/
structure StrictOrder {α : Type} (before : α → α → Bool) : Prop where
  /-- Nothing is before itself. -/
  irrefl : ∀ a, before a a = false
  /-- What is before something is before all that follows it. -/
  trans : ∀ {a b c}, before a b = true → before b c = true → before a c = true
  /-- Of two different elements one is before the other. -/
  total : ∀ {a b}, a ≠ b → before a b = true ∨ before b a = true

/-- Comparing by a numeric key that tells elements apart is a strict order. -/
theorem StrictOrder.ofKey {α : Type} (key : α → Nat) (injective : ∀ a b, key a = key b → a = b) :
    StrictOrder fun a b => decide (key a < key b) where
  irrefl a := by simp
  trans hab hbc := by simp only [decide_eq_true_eq] at *; omega
  total {a b} hne := by
    have : key a ≠ key b := fun h => hne (injective a b h)
    simp only [decide_eq_true_eq]
    omega

/-- Dictionary order: the first difference decides, and a beginning comes before what it begins. -/
def dictionary {α : Type} [DecidableEq α] (before : α → α → Bool) : List α → List α → Bool
  | _, [] => false
  | [], _ :: _ => true
  | a :: s, b :: t => if a = b then dictionary before s t else before a b

/-- The dictionary order of a strict order is a strict order. -/
theorem StrictOrder.dictionary {α : Type} [DecidableEq α] {before : α → α → Bool}
    (order : StrictOrder before) : StrictOrder (dictionary before) where
  irrefl s := by
    induction s with
    | nil => rfl
    | cons a s ih => simpa [UsingAdvisor.dictionary] using ih
  trans {s t u} hst htu := by
    induction s generalizing t u with
    | nil =>
      cases t with
      | nil => simp [UsingAdvisor.dictionary] at hst
      | cons b t => cases u <;> simp_all [UsingAdvisor.dictionary]
    | cons a s ih =>
      cases t with
      | nil => simp [UsingAdvisor.dictionary] at hst
      | cons b t =>
        cases u with
        | nil => simp [UsingAdvisor.dictionary] at htu
        | cons c u =>
          simp only [UsingAdvisor.dictionary] at hst htu ⊢
          by_cases hab : a = b
          · subst hab
            by_cases hac : a = c
            · simp_all
              exact ih hst htu
            · simp_all
          · by_cases hbc : b = c
            · simp_all
            · simp only [hab, hbc, if_false] at hst htu
              have hac := order.trans hst htu
              have hne : a ≠ c := by
                rintro rfl
                simp [order.irrefl] at hac
              simp [hne, hac]
  total {s t} hne := by
    induction s generalizing t with
    | nil => cases t <;> simp_all [UsingAdvisor.dictionary]
    | cons a s ih =>
      cases t with
      | nil => simp [UsingAdvisor.dictionary]
      | cons b t =>
        by_cases hab : a = b
        · subst hab
          simpa [UsingAdvisor.dictionary] using ih fun h => hne (by rw [h])
        · simpa [UsingAdvisor.dictionary, hab, Ne.symm hab] using order.total hab

end UsingAdvisor
