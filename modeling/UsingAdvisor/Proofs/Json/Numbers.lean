import UsingAdvisor.Json.Parser
import UsingAdvisor.Json.Printer
import UsingAdvisor.Proofs.Text.Digits

/-!
# Integers are read back

The digits of a written integer are read as far as they go, if no digit stands behind them, and their number is
put together digit by digit: while the whole is below two to the power 64, so is each part (`absorb_digitValue`).
Without a point and an exponent behind it the number is an integer. Main statement: `readNumber?_ofNat`.
-/

namespace UsingAdvisor.Json

open Text (digitValue)

/-- Neither digits nor a fraction nor an exponent go on in front of the text. -/
def EndsNumber (text : Text) : Prop :=
  ∀ c ∈ text.head?, c.isDigit = false ∧ c ≠ '.' ∧ c ≠ 'e' ∧ c ≠ 'E'

/-- The integer is of 64 bits, signed or unsigned. -/
def IsWord (value : Int) : Prop :=
  -0x8000000000000000 ≤ value ∧ value < 0x10000000000000000

/-- A number does not get smaller by digits at its end. -/
theorem le_ofDigitChars (n : Nat) (digits : Text) : n ≤ Nat.ofDigitChars 10 digits n := by
  rw [Nat.ofDigitChars_eq_ofDigitChars_zero]
  have hpos : 0 < 10 ^ digits.length := Nat.pow_pos (by decide)
  exact Nat.le_add_right_of_le (Nat.le_mul_of_pos_left n hpos)

/-- **Digits are all taken** while the number that they make stays below two to the power 64. -/
theorem absorb_digitValue {n : Nat} {digits : Text} (h : Nat.ofDigitChars 10 digits n < 0x10000000000000000) :
    absorb n (digits.map digitValue) = (Nat.ofDigitChars 10 digits n, 0) := by
  induction digits generalizing n with
  | nil => rfl
  | cons c digits ih =>
    rw [Nat.ofDigitChars_cons] at h ⊢
    have hpart : 10 * n + digitValue c < 0x10000000000000000 := Nat.lt_of_le_of_lt (le_ofDigitChars _ digits) h
    rw [List.map_cons, absorb, if_pos hpart]
    exact ih h

/-- The digits in front of a text are those of the number that is written there. -/
theorem readDigits_ofNat (n : Nat) {rest : Text} (h : EndsNumber rest) :
    readDigits (Text.ofNat n ++ rest) = ((Text.ofNat n).map digitValue, rest) := by
  obtain ⟨htake, hdrop⟩ := Prod.mk.inj (Text.span_ofNat n fun c hc => (h c hc).1)
  rw [readDigits, htake, hdrop]
  rfl

theorem readFraction?_of_endsNumber {rest : Text} (h : EndsNumber rest) : readFraction? rest = some (none, rest) := by
  rw [readFraction?]
  rintro text rfl
  exact (h '.' rfl).2.1 rfl

theorem readExponent?_of_endsNumber {rest : Text} (h : EndsNumber rest) : readExponent? rest = some (none, rest) := by
  obtain _ | ⟨c, rest⟩ := rest
  · rfl
  · obtain ⟨-, -, hsmall, hcapital⟩ := h c rfl
    simp [readExponent?, hsmall, hcapital]

/-- **A number without a point and an exponent is an integer.** -/
theorem readNumber?_ofNat {negative : Bool} {n : Nat} {value : Int} {rest : Text} (hrest : EndsNumber rest)
    (h : integer? negative ((Text.ofNat n).map digitValue) = some value) :
    readNumber? negative (Text.ofNat n ++ rest) = some (.integer value, rest) := by
  have hdigits : ¬ ((Text.ofNat n).map digitValue = [] ∨
      1 < ((Text.ofNat n).map digitValue).length ∧ ((Text.ofNat n).map digitValue).head? = some 0) := by
    rintro (hempty | ⟨hlength, hzero⟩)
    · exact Text.ofNat_ne_nil n (List.map_eq_nil_iff.1 hempty)
    · rw [Text.eq_zero_of_head?_ofNat hzero] at hlength
      exact absurd hlength (by decide)
  rw [readNumber?, readDigits_ofNat n hrest]
  simp only [if_neg hdigits]
  simp [readFraction?_of_endsNumber hrest, readExponent?_of_endsNumber hrest, h]

theorem integer?_ofNat {n : Nat} (h : n < 0x10000000000000000) :
    integer? false ((Text.ofNat n).map digitValue) = some n := by
  have hnumber : Nat.ofDigitChars 10 (Text.ofNat n) 0 = n := Nat.ofDigitChars_ten_toDigits
  rw [integer?, absorb_digitValue (by omega), hnumber]
  rfl

theorem integer?_ofNat_negative {n : Nat} (hpos : n ≠ 0) (h : n ≤ 0x8000000000000000) :
    integer? true ((Text.ofNat n).map digitValue) = some (-(n : Int)) := by
  have hnumber : Nat.ofDigitChars 10 (Text.ofNat n) 0 = n := Nat.ofDigitChars_ten_toDigits
  have hfits : ¬ (n = 0 ∨ 0x8000000000000000 < n) := by omega
  rw [integer?, absorb_digitValue (by omega), hnumber]
  simp only [Bool.not_true, Bool.false_eq_true, if_false, if_neg hfits]

end UsingAdvisor.Json
