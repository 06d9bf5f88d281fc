import UsingAdvisor.Text.Mark
import UsingAdvisor.Url.Domain.DirectionTable

/-!
# Writing directions in domain names

A name with letters written from right to left is shown in another order than it is stored in. So that
the order shown tells what the name is, each label of such a name holds letters of one direction only,
starts with one, and ends with one or with a digit; marks at the end do not count. Main statement:
`fits_of_left` (a label of letters written from left to right fits beside any others).
-/

namespace UsingAdvisor.Url.Domain

/-- How a character is written. -/
inductive Direction where
  /-- A letter written from left to right. -/
  | left
  /-- A letter written from right to left. -/
  | right
  /-- A digit that belongs to letters written from right to left. -/
  | arabicNumber
  | europeanNumber
  | mark
  /-- A separator, a sign or a symbol. -/
  | neutral
  deriving DecidableEq, Repr

namespace Direction

/-- How a character is written. -/
def ofChar (c : Char) : Direction :=
  let n := c.toNat
  if Text.isNonspacing c then mark
  else if Text.inRanges rightRanges n then right
  else if Text.inRanges arabicNumberRanges n then arabicNumber
  else if Text.inRanges europeanNumberRanges n then europeanNumber
  else if Text.inRanges neutralRanges n then neutral
  else left

/-- Whether a character makes the name that holds it one that is shown in another order. -/
def reorders : Direction → Bool
  | right => true
  | arabicNumber => true
  | _ => false

/-- Whether a letter can be followed by others to the end of a label. They come in reverse. -/
def fitsAfter (first : Direction) : List Direction → Bool
  | [] => first = left || first = right
  | last :: inner =>
    match first with
    | left => (last = left || last = europeanNumber) && inner.all (!reorders ·)
    | right =>
      (last = right || last = europeanNumber || last = arabicNumber) && !inner.contains left &&
        !((last :: inner).contains europeanNumber && (last :: inner).contains arabicNumber)
    | _ => false

/-- Whether the directions of a label fit together. -/
def fits : List Direction → Bool
  | [] => true
  | first :: rest => fitsAfter first (rest.reverse.dropWhile (· == mark))

/-- Letters written from left to right fit together. -/
theorem fits_of_left (length : Nat) : fits (List.replicate length left) = true := by
  match length with
  | 0 => rfl
  | 1 => rfl
  | n + 2 =>
    have shown : (left == mark) = false := rfl
    rw [List.replicate_succ, fits, List.reverse_replicate, List.replicate_succ]
    simp [fitsAfter, reorders, List.dropWhile, shown]

end Direction

/-- Whether a name is shown in another order than it is stored in. -/
def isReordered (labels : List Text) : Bool :=
  labels.any fun label => label.any fun c => (Direction.ofChar c).reorders

/-- Whether the labels of a name fit together. -/
def directionsFit (labels : List Text) : Bool :=
  !isReordered labels || labels.all fun label => Direction.fits (label.map Direction.ofChar)

end UsingAdvisor.Url.Domain
