import UsingAdvisor.Json

/-!
# Records

A record in JSON is an object, or an array of the same values in an agreed order. This module reads
both: an array is first given its names, and then the fields are read one by one. Names that are not
known are ignored. Main statement: `named?_array` (an array of the right length reads like the object
with its values under the names).
-/

namespace UsingAdvisor.Json

/-- A record as an object. An array holds at least `least` of the values, and none beyond those that
have a name. -/
def named? (names : List String) (least : Nat) : Json → Option Json
  | .object fields => some (.object fields)
  | .array items =>
    if least ≤ items.length ∧ items.length ≤ names.length then
      some (.object ((names.map String.toList).zip items))
    else none
  | _ => none

/-- An object is a record as it stands. -/
@[simp]
theorem named?_object (names : List String) (least : Nat) (fields : List (Text × Json)) :
    named? names least (.object fields) = some (.object fields) :=
  rfl

/-- An array with a value for each name is the object with its values under the names. -/
theorem named?_array {names : List String} {least : Nat} {items : List Json}
    (enough : least ≤ items.length) (known : items.length ≤ names.length) :
    named? names least (.array items) = some (.object ((names.map String.toList).zip items)) := by
  simp [named?, enough, known]

/-- The value of a field, read by `read`. -/
def fieldAs? {α : Type} (read : Json → Option α) (name : String) (value : Json) : Option α :=
  (value.field? name).bind read

/-- The value of a field that may be left out or null. The outer layer is missing where it is given
and not of the agreed form. -/
def givenAs? {α : Type} (read : Json → Option α) (name : String) (value : Json) :
    Option (Option α) :=
  match value.given? name with
  | none => some none
  | some given => (read given).map some

end UsingAdvisor.Json
