import UsingAdvisor.Json.Printer
import UsingAdvisor.SymbolIndex
import UsingAdvisor.Text.Padding

/-!
# Listings of an index

An index is listed as a table for people or as JSON for programs. The table has a line for each
symbol, with its kind, its name and its namespace in columns, and a line with the totals. Columns are
never cut: a field that fills its column is still followed by a space.
-/

namespace UsingAdvisor

/-- The form of a listing. -/
inductive ListingForm where
  | table
  | json
  deriving DecidableEq, Repr

/-- A symbol's line in the table. -/
def Symbol.row (symbol : Symbol) : Text :=
  Text.pad .left 10 symbol.kind.keyword ++ ' ' :: (Text.pad .left 40 symbol.name ++
    ' ' :: symbol.home)

/-- A symbol as a JSON object. -/
def Symbol.toJson (symbol : Symbol) : Json :=
  .record [("kind", .string symbol.kind.keyword), ("name", .string symbol.name),
    ("namespace", .string symbol.home)]

namespace SymbolIndex

/-- The last line of the table. -/
def totals (index : SymbolIndex) : Text :=
  Text.ofNat index.size ++ (" symbols in ".toList ++
    (Text.ofNat index.filesScanned ++ " files".toList))

/-- An index as a JSON object, its fields in alphabetical order. -/
def toJson (index : SymbolIndex) : Json :=
  .record [("files_scanned", .ofNat index.filesScanned),
    ("symbols", .array (index.symbols.map Symbol.toJson))]

/-- The listing of an index. No line break ends it. -/
def listing (index : SymbolIndex) : ListingForm → Text
  | .table => Text.join ['\n'] (index.symbols.map Symbol.row ++ [index.totals])
  | .json => index.toJson.pretty

end SymbolIndex

end UsingAdvisor
