/-!
# Doubles

Numbers with 53 binary digits. Every finite one is a whole number of units, the unit being two to the
power −1074, so a double is a natural number of units with a sign, and rounding to a double is rounding
a quotient of naturals. Main statements: `nearest_le` and `le_nearest` (a rounded quotient is within
half of one) and `round_of_lt` (what has 53 digits is kept).

A decimal is read in two steps: its digits are rounded to a double, and that is scaled by a power of
ten, which is a double as well. So the last binary digit may differ from that of the nearest double.
-/

namespace UsingAdvisor

/-- A finite number with 53 binary digits. -/
structure Double where
  negative : Bool
  /-- The size, in units. -/
  units : Nat
  deriving DecidableEq, Repr

namespace Double

/-! ### Rounding -/

/-- How many units make one. -/
def one : Nat :=
  Nat.pow 2 1074

/-- The first number of units that is beyond all finite doubles. -/
def infinite : Nat :=
  Nat.pow 2 2098

/-- The natural number nearest to a quotient. From half way it goes to the even one. -/
def nearest (dividend divisor : Nat) : Nat :=
  let below := dividend / divisor
  let twice := 2 * (dividend % divisor)
  if twice < divisor ∨ (twice = divisor ∧ below % 2 = 0) then below else below + 1

/-- A quotient is rounded up by at most half. -/
theorem nearest_le (dividend divisor : Nat) :
    2 * (divisor * nearest dividend divisor) ≤ 2 * dividend + divisor := by
  have split := Nat.div_add_mod dividend divisor
  simp only [nearest]
  split
  · omega
  · rw [Nat.mul_add]
    omega

/-- A quotient is rounded down by at most half. -/
theorem le_nearest {divisor : Nat} (dividend : Nat) (positive : 0 < divisor) :
    2 * dividend ≤ 2 * (divisor * nearest dividend divisor) + divisor := by
  have split := Nat.div_add_mod dividend divisor
  have small := Nat.mod_lt dividend positive
  simp only [nearest]
  split
  · omega
  · rw [Nat.mul_add]
    omega

/-- The size of a double nearest to a quotient of units, of whatever size. -/
def round (dividend divisor : Nat) : Nat :=
  let grid := Nat.pow 2 (Nat.log2 (dividend / divisor) - 52)
  grid * nearest dividend (divisor * grid)

/-- What has 53 digits is kept. -/
theorem round_of_lt {units : Nat} (small : units < 9007199254740992) : round units 1 = units := by
  have digits : Nat.log2 units - 52 = 0 := by
    rcases Nat.eq_zero_or_pos units with rfl | positive
    · decide
    · have := (Nat.log2_lt (by omega : units ≠ 0)).2
        (Nat.lt_of_lt_of_le small (by decide : 9007199254740992 ≤ Nat.pow 2 53))
      omega
  simp [round, nearest, digits, Nat.mod_one]

/-! ### Reading decimals -/

/-- The size of a power of ten. -/
def powerOfTen (exponent : Nat) : Nat :=
  round (Nat.pow 10 exponent * one) 1

/-- The greatest power of ten that is a finite double, by its exponent. -/
def greatestPower : Nat :=
  308

/-- A size divided by a power of ten, by the greatest power as often as it goes. -/
def divideByTens (units exponent : Nat) : Nat :=
  if units = 0 then 0
  else if exponent ≤ greatestPower then round (units * one) (powerOfTen exponent)
  else divideByTens (round (units * one) (powerOfTen greatestPower)) (exponent - greatestPower)
termination_by exponent
decreasing_by simp only [greatestPower] at *; omega

/-- The double that digits and a power of ten give, unless it is too great. -/
def ofDecimal? (negative : Bool) (digits : Nat) : (scale : Int) → Option Double
  | .ofNat exponent =>
    let units := round (digits * one) 1
    if units = 0 then some ⟨negative, 0⟩
    else if greatestPower < exponent then none
    else
      let units := round (units * powerOfTen exponent) one
      if units < infinite then some ⟨negative, units⟩ else none
  | .negSucc exponent => some ⟨negative, divideByTens (round (digits * one) 1) (exponent + 1)⟩

/-! ### Writing decimals -/

/-- Digits and a power of ten. -/
structure Decimal where
  digits : Nat
  scale : Int
  deriving DecidableEq, Repr

/-- The size of the double nearest to a decimal. -/
def Decimal.round (decimal : Decimal) : Nat :=
  match decimal.scale with
  | .ofNat exponent => Double.round (decimal.digits * Nat.pow 10 exponent * one) 1
  | .negSucc exponent => Double.round (decimal.digits * one) (Nat.pow 10 (exponent + 1))

/-- The multiple of a power of ten that stands for a size: the nearer one of its two neighbours that
rounds to it. -/
def multiple? (units : Nat) (scale : Int) : Option Decimal :=
  let (dividend, divisor) := match scale with
    | .ofNat exponent => (units, one * Nat.pow 10 exponent)
    | .negSucc exponent => (units * Nat.pow 10 (exponent + 1), one)
  let near := nearest dividend divisor
  let below := dividend / divisor
  let far := if near = below then below + 1 else below
  [⟨near, scale⟩, ⟨far, scale⟩].find? fun decimal => decimal.round == units

/-- A decimal that stands for a size rounds to it. -/
theorem round_of_multiple? {units : Nat} {scale : Int} {decimal : Decimal}
    (found : multiple? units scale = some decimal) : decimal.round = units := by
  simpa using List.find?_some found

/-- An exponent of a power of ten that is beyond a size, by at most a few. The factor is the logarithm
of two, with the digits of five places. -/
def exponentAbove (units : Nat) : Int :=
  ((Nat.log2 units : Int) - 1073) * 30103 / 100000 + 1

/-- The decimal with the fewest digits that stands for a double's size. Of several the nearest counts.
The powers of ten tried reach below seventeen digits, which are enough; without a hit the size is
written in full. -/
def shortest (units : Nat) : Decimal :=
  if units = 0 then ⟨0, 0⟩
  else
    ((List.range 20).findSome? fun (lower : Nat) => multiple? units (exponentAbove units - lower)).getD
      ⟨units * Nat.pow 5 1074, -1074⟩

end Double

end UsingAdvisor
