import UsingAdvisor.Text

/-!
# Stretches of a mapping

A mapping of characters, written as a list of stretches. Most stretches have a rule: every character of
it, or every second one, moves by one distance. The others list what their characters become.
-/

namespace UsingAdvisor.Url.Domain

/-- What a stretch of code points becomes. -/
inductive Stretch where
  /-- From `first` to `last` each `step`-th code point becomes the one that lies `distance` further. -/
  | shift (first last step : Nat) (distance : Int)
  /-- The code points from `first` on become the characters of a string, one by one. -/
  | chars (first : Nat) (images : String)
  /-- The code points from `first` on become the strings of a list, one by one. -/
  | texts (first : Nat) (images : List String)

namespace Stretch

/-- The first code point of a stretch. -/
def first : Stretch → Nat
  | shift first _ _ _ => first
  | chars first _ => first
  | texts first _ => first

/-- What a stretch makes of a code point that is not in front of it. -/
def image? (n : Nat) : Stretch → Option Text
  | shift first last step distance =>
    if n ≤ last ∧ (n - first) % step = 0 then some [Char.ofNat (n + distance).toNat] else none
  | chars first images => images.toList[n - first]?.map ([·])
  | texts first images => images[n - first]?.map String.toList

end Stretch

/-- What ascending stretches make of a code point. The search ends at the first stretch that the code
point lies in front of. -/
def imageIn? : List Stretch → Nat → Option Text
  | [], _ => none
  | stretch :: rest, n =>
    if n < stretch.first then none else (stretch.image? n).or (imageIn? rest n)

end UsingAdvisor.Url.Domain
