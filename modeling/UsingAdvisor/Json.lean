import UsingAdvisor.Double
import UsingAdvisor.Text.Order

/-!
# JSON values

The values that a client and the server exchange. A number is an integer where it is written as one
and fits into 64 bits, signed or unsigned; any other number is a double. An object names each field
once, and where it is read from a text its fields are in the order of names. Main statement:
`ofFields_eq_self` (fields in the order of names are kept as they are).
-/

namespace UsingAdvisor

/-- A JSON value. -/
inductive Json where
  | null
  | bool (value : Bool)
  | integer (value : Int)
  | double (value : Double)
  | string (value : Text)
  | array (items : List Json)
  | object (fields : List (Text × Json))
  deriving Repr

namespace Json

/-- A natural number as a value. -/
def ofNat (n : Nat) : Json :=
  .integer n

/-- A string that is given literally. -/
def literal (value : String) : Json :=
  .string value.toList

/-- An object whose field names are given literally. -/
def record (fields : List (String × Json)) : Json :=
  .object (fields.map fun (name, value) => (name.toList, value))

/-- A field that is left out when it has no value. -/
def optional (name : String) : Option Json → List (String × Json)
  | none => []
  | some value => [(name, value)]

/-- The fields in the order of names with one more among them, in place of the one of its name. -/
def place (field : Text × Json) : List (Text × Json) → List (Text × Json)
  | [] => [field]
  | other :: rest =>
    if field.1 = other.1 then field :: rest
    else if Text.precedes field.1 other.1 then field :: other :: rest
    else other :: place field rest

/-- The fields in the order of names. The last one of a name counts. -/
def ofFields (fields : List (Text × Json)) : List (Text × Json) :=
  fields.foldl (fun placed field => place field placed) []

/-- A field whose name comes after all others is placed last. -/
theorem place_of_last {field : Text × Json} {fields : List (Text × Json)}
    (last : ∀ other ∈ fields, Text.precedes other.1 field.1 = true) :
    place field fields = fields ++ [field] := by
  induction fields with
  | nil => rfl
  | cons other rest ih =>
    have before := last other (by simp)
    have differ : field.1 ≠ other.1 := by
      intro same
      rw [same, Text.precedes_strictOrder.irrefl] at before
      cases before
    have after : Text.precedes field.1 other.1 ≠ true := by
      intro after
      have loop := Text.precedes_strictOrder.trans before after
      rw [Text.precedes_strictOrder.irrefl] at loop
      cases loop
    simp [place, differ, after, ih fun next member => last next (by simp [member])]

/-- Fields in the order of names are kept as they are. -/
theorem ofFields_eq_self {fields : List (Text × Json)}
    (ordered : fields.Pairwise fun a b => Text.precedes a.1 b.1 = true) :
    ofFields fields = fields := by
  have grows (placed : List (Text × Json)) :
      (∀ field ∈ fields, ∀ other ∈ placed, Text.precedes other.1 field.1 = true) →
      fields.foldl (fun placed field => place field placed) placed = placed ++ fields := by
    induction fields generalizing placed with
    | nil => simp
    | cons field rest ih =>
      intro above
      obtain ⟨first, rest⟩ := List.pairwise_cons.1 ordered
      rw [List.foldl_cons, place_of_last (above field (by simp)), ih rest]
      · simp
      · intro next member other placed
        rcases List.mem_append.1 placed with placed | placed
        · exact above next (by simp [member]) other placed
        · simpa [List.mem_singleton.1 placed] using first next member
  simpa [ofFields] using grows [] (by simp)

/-- The value of a field of an object. Other values have no fields. -/
def field? (name : String) : Json → Option Json
  | .object fields => (fields.find? fun field => field.1 == name.toList).map (·.2)
  | _ => none

/-- The value of a field that may be left out: a null counts as left out. -/
def given? (name : String) (value : Json) : Option Json :=
  match value.field? name with
  | some .null => none
  | found => found

/-- The truth value that a JSON value is. -/
def toBool? : Json → Option Bool
  | .bool value => some value
  | _ => none

/-- The integer that a JSON value is. -/
def toInt? : Json → Option Int
  | .integer value => some value
  | _ => none

/-- The natural number that a JSON value is. -/
def toNat? : Json → Option Nat
  | .integer (.ofNat n) => some n
  | _ => none

/-- The string that a JSON value is. -/
def toText? : Json → Option Text
  | .string value => some value
  | _ => none

/-- The items of an array. -/
def toList? : Json → Option (List Json)
  | .array items => some items
  | _ => none

/-- The items of an array, each read by `read`. One item that is not read fails the whole. -/
def toListOf? {α : Type} (read : Json → Option α) (value : Json) : Option (List α) :=
  value.toList?.bind fun items => items.mapM read

end Json

end UsingAdvisor
