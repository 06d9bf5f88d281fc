import UsingAdvisor.Text.Composition
import UsingAdvisor.Text.Mark
import UsingAdvisor.Url.Domain.JoiningTable

/-!
# Joiners in domain names

A joiner is seen only by what it does to its neighbours: it joins letters that would stand apart, or
keeps apart letters that would be joined. A name may hold one only where it does something, which is
after a sign that takes away a vowel, or for the joiner that keeps letters apart between two letters
that would be joined.
-/

namespace UsingAdvisor.Url.Domain

/-- The joiner that keeps letters apart. -/
def nonJoiner : Char := '\u200C'

/-- The joiner that joins letters. -/
def joiner : Char := '\u200D'

/-- Whether a character is a sign that takes away the vowel of the letter in front of it. -/
def takesVowel (c : Char) : Bool :=
  Text.combiningClass c == 9

/-- Whether letters are joined across a character as if it were not there. -/
def isTransparent (c : Char) : Bool :=
  Text.isNonspacing c || c.toNat == 0x1E94B

/-- Whether a text starts, but for transparent characters, in one of two tables. -/
def startsIn (first second : List (Nat × Nat)) (text : Text) : Bool :=
  match text.dropWhile isTransparent with
  | [] => false
  | c :: _ => Text.inRanges first c.toNat || Text.inRanges second c.toNat

/-- Whether a joiner does something between what is before it, the nearest first, and what is after
it. -/
def joins (before : Text) (c : Char) (after : Text) : Bool :=
  match before with
  | [] => false
  | previous :: _ =>
    takesVowel previous ||
      (c == nonJoiner && startsIn bothJoiningRanges afterJoiningRanges before &&
        startsIn bothJoiningRanges beforeJoiningRanges after)

/-- Whether every joiner of a text does something. `before` is what comes before the text, the nearest
first. -/
def joinersFit (before : Text) : Text → Bool
  | [] => true
  | c :: text =>
    (if c = joiner ∨ c = nonJoiner then joins before c text else true) &&
      joinersFit (c :: before) text

end UsingAdvisor.Url.Domain
