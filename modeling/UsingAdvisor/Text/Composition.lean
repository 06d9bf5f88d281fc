import UsingAdvisor.Text.CompositionTable
import UsingAdvisor.Text.Ranges

/-!
# Composed form

One text may be written in several ways: a letter with marks is one character, or a letter and its
marks one by one, and marks of different classes may stand in either order. The composed form is the
same for all of them: characters are taken apart, marks are brought into the order of their classes,
and a character is put together again with each mark that no other one keeps from it. Main statement:
`orderMarks_perm` (bringing marks into order loses and adds nothing).
-/

namespace UsingAdvisor.Text

/-- The combining class of a character. A character of class zero starts anew and is passed by no
mark. -/
def combiningClass (c : Char) : Nat :=
  rangeValue combiningRanges c.toNat

/-! ### Hangul -/

/-- A syllable of Hangul taken apart: a last consonant is split off, or else the vowel. -/
def syllableParts? (c : Char) : Option (Char × Char) :=
  if 0xAC00 ≤ c.toNat ∧ c.toNat ≤ 0xD7A3 then
    let place := c.toNat - 0xAC00
    if place % 28 = 0 then
      some (Char.ofNat (0x1100 + place / 588), Char.ofNat (0x1161 + place / 28 % 21))
    else some (Char.ofNat (0xAC00 + (place - place % 28)), Char.ofNat (0x11A7 + place % 28))
  else none

/-- The syllable of a first consonant and a vowel, or of a syllable without a last consonant and such a
consonant. -/
def syllable? (first second : Char) : Option Char :=
  let a := first.toNat
  let b := second.toNat
  if 0x1100 ≤ a ∧ a ≤ 0x1112 ∧ 0x1161 ≤ b ∧ b ≤ 0x1175 then
    some (Char.ofNat (0xAC00 + ((a - 0x1100) * 21 + (b - 0x1161)) * 28))
  else if 0xAC00 ≤ a ∧ a ≤ 0xD7A3 ∧ (a - 0xAC00) % 28 = 0 ∧ 0x11A8 ≤ b ∧ b ≤ 0x11C2 then
    some (Char.ofNat (a + (b - 0x11A7)))
  else none

/-! ### Characters -/

namespace Composition

/-- The bases and their composed characters. -/
def pairs (composition : Composition) : List (Char × Char) :=
  composition.bases.toList.zip composition.composed.toList

/-- The base of a composed character. -/
def base? (composition : Composition) (composed : Char) : Option Char :=
  (composition.pairs.find? (·.2 == composed)).map (·.1)

/-- The composed character of a base. -/
def composed? (composition : Composition) (base : Char) : Option Char :=
  (composition.pairs.find? (·.1 == base)).map (·.2)

end Composition

/-- The two characters that a character is composed of. -/
def parts? (c : Char) : Option (Char × Char) :=
  (syllableParts? c).or (compositions.findSome? fun composition =>
    (composition.base? c).map fun base => (base, Char.ofNat composition.mark))

/-- The character that two characters compose. -/
def whole? (first second : Char) : Option Char :=
  (syllable? first second).or (compositions.findSome? fun composition =>
    if composition.mark = second.toNat then composition.composed? first else none)

/-- A character taken apart, at most `steps` times. -/
def takeApart : (steps : Nat) → Char → Text
  | 0, c => [c]
  | steps + 1, c =>
    match parts? c with
    | none => [c]
    | some (first, second) => takeApart steps first ++ [second]

/-! ### Texts -/

/-- Put a character in front, behind the marks that come before it. -/
def placeMark (c : Char) : Text → Text
  | [] => [c]
  | d :: text =>
    if 0 < combiningClass d ∧ combiningClass d < combiningClass c then d :: placeMark c text
    else c :: d :: text

/-- The text with the marks behind each character in the order of their classes. Marks of one class
keep their order. -/
def orderMarks (text : Text) : Text :=
  text.foldr placeMark []

theorem placeMark_perm (c : Char) (text : Text) : (placeMark c text).Perm (c :: text) := by
  induction text with
  | nil => exact .refl _
  | cons d text ih =>
    simp only [placeMark]
    split
    · exact (ih.cons d).trans (.swap c d text)
    · exact .refl _

/-- Bringing marks into order loses and adds nothing. -/
theorem orderMarks_perm (text : Text) : (orderMarks text).Perm text := by
  induction text with
  | nil => exact .refl _
  | cons c text ih => exact (placeMark_perm c _).trans (ih.cons c)

/-- A character put together with what follows it. `kept` holds the marks in between that stay, the
nearest first; they keep a mark away whose class is not above theirs. -/
def composeOnto (base : Char) (kept : Text) : Text → Text
  | [] => base :: kept.reverse
  | c :: text =>
    let near := match kept with
      | [] => true
      | mark :: _ => combiningClass mark < combiningClass c
    match (if near then whole? base c else none) with
    | some whole => composeOnto whole kept text
    | none =>
      if combiningClass c = 0 then base :: (kept.reverse ++ composeOnto c [] text)
      else composeOnto base (c :: kept) text

/-- The text with its characters put together. -/
def compose : Text → Text
  | [] => []
  | c :: text => if combiningClass c = 0 then composeOnto c [] text else c :: compose text

/-- The composed form of a text. No character is composed of more than three. -/
def composedForm (text : Text) : Text :=
  compose (orderMarks (text.flatMap (takeApart 2)))

end UsingAdvisor.Text
