import UsingAdvisor.Proofs.Text.Runs

/-!
# Decimal digits

A number is written with digits alone, at least one of them, and is told by them (`ofNat_injective`), also in front
of anything else that is no digit (`ofNat_append_inj`). No zero stands in front, but for the number zero itself
(`eq_zero_of_head?_ofNat`).
-/

namespace UsingAdvisor.Text

theorem isDigit_of_mem_ofNat {n : Nat} {c : Char} (h : c ∈ ofNat n) : c.isDigit = true :=
  Nat.isDigit_of_mem_toDigits (by decide) (by decide) h

/-- A character that is no digit stands in no number. -/
theorem not_mem_ofNat {c : Char} (h : c.isDigit = false) (n : Nat) : c ∉ ofNat n := by
  intro hmem
  rw [isDigit_of_mem_ofNat hmem] at h
  contradiction

theorem ofNat_ne_nil (n : Nat) : ofNat n ≠ [] :=
  Nat.toDigits_ne_nil

/-- A number is told by its digits. -/
theorem ofNat_injective : Function.Injective ofNat := by
  intro n m h
  rw [← @Nat.ofDigitChars_ten_toDigits n, ← @Nat.ofDigitChars_ten_toDigits m]
  exact congrArg (Nat.ofDigitChars 10 · 0) h

/-- Digits end where something else stands. -/
theorem span_ofNat (n : Nat) {rest : Text} (h : ∀ c ∈ rest.head?, c.isDigit = false) :
    ((ofNat n ++ rest).takeWhile Char.isDigit, (ofNat n ++ rest).dropWhile Char.isDigit) = (ofNat n, rest) :=
  span_eq_iff.2 ⟨rfl, fun _ => isDigit_of_mem_ofNat, h⟩

/-- A number and what stands behind it are told by the text of both. -/
theorem ofNat_append_inj {n m : Nat} {first second : Text} (hfirst : ∀ c ∈ first.head?, c.isDigit = false)
    (hsecond : ∀ c ∈ second.head?, c.isDigit = false) (h : ofNat n ++ first = ofNat m ++ second) :
    n = m ∧ first = second := by
  have hspan := span_ofNat n hfirst
  rw [h, span_ofNat m hsecond] at hspan
  obtain ⟨hdigits, hrest⟩ := Prod.mk.inj hspan
  exact ⟨(ofNat_injective hdigits).symm, hrest.symm⟩

/-- The number that a digit stands for. -/
def digitValue (c : Char) : Nat :=
  c.toNat - '0'.toNat

/-- **Zeros in front are not written.** -/
theorem eq_zero_of_head?_ofNat {n : Nat} (h : ((ofNat n).map digitValue).head? = some 0) : n = 0 := by
  induction n using Nat.strongRecOn with
  | ind n ih =>
    rw [ofNat, Nat.toDigits_eq_if (by decide)] at h
    split at h
    next hlt =>
      rw [List.map_singleton, List.head?_cons, Option.some_inj, digitValue] at h
      rw [← h]
      exact (Nat.toNat_digitChar_sub_48_of_lt_ten hlt).symm
    next hle =>
      -- the first digit is that of the number without its last one
      obtain ⟨first, digits, hfront⟩ := List.exists_cons_of_ne_nil (ofNat_ne_nil (n / 10))
      have hzero : n / 10 = 0 := by
        refine ih (n / 10) (by omega) ?_
        rw [ofNat] at hfront
        rw [ofNat, hfront]
        rwa [hfront] at h
      omega

end UsingAdvisor.Text
