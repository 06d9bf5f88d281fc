import UsingAdvisor.Source.Scan
import UsingAdvisor.Text.Order

/-!
# Symbol indexes

An index maps the name of a type to the symbol last written under it, and counts the source texts
that it was built from. The symbols are kept in ascending order of name, which the type promises, so
that two indexes with the same symbols list them alike. Main statement: `place_ascending` (writing a
symbol keeps the order, so every index that can be built has it).
-/

namespace UsingAdvisor

open Text

/-- Whether one symbol's name comes before another's. -/
def Symbol.Ascends (first second : Symbol) : Prop :=
  precedes first.name second.name = true

namespace SymbolIndex

/-- The ascending list with `symbol` written into it, in place of a symbol of the same name. -/
def place (symbol : Symbol) : List Symbol → List Symbol
  | [] => [symbol]
  | other :: rest =>
    if symbol.name = other.name then symbol :: rest
    else if precedes symbol.name other.name then symbol :: other :: rest
    else other :: place symbol rest

/-- What is written, and what stays, is all there is afterwards. -/
theorem mem_place {symbol found : Symbol} {symbols : List Symbol}
    (h : found ∈ place symbol symbols) : found = symbol ∨ found ∈ symbols := by
  induction symbols with
  | nil => simpa [place] using h
  | cons other rest ih =>
    simp only [place] at h
    split at h
    · rcases List.mem_cons.1 h with h | h <;> simp [h]
    · split at h
      · simpa using h
      · rcases List.mem_cons.1 h with h | h
        · simp [h]
        · rcases ih h with h | h <;> simp [h]

/-- Writing a symbol keeps the order. -/
theorem place_ascending {symbol : Symbol} {symbols : List Symbol}
    (h : symbols.Pairwise Symbol.Ascends) : (place symbol symbols).Pairwise Symbol.Ascends := by
  induction symbols with
  | nil => simp [place]
  | cons other rest ih =>
    obtain ⟨hother, hrest⟩ := List.pairwise_cons.1 h
    simp only [place]
    split
    next heq =>
      refine List.pairwise_cons.2 ⟨fun next hnext => ?_, hrest⟩
      simpa [Symbol.Ascends, heq] using hother next hnext
    next hne =>
      split
      next hbefore =>
        refine List.pairwise_cons.2 ⟨fun next hnext => ?_, h⟩
        rcases List.mem_cons.1 hnext with rfl | hnext
        · exact hbefore
        · exact precedes_strictOrder.trans hbefore (hother next hnext)
      next hafter =>
        refine List.pairwise_cons.2 ⟨fun next hnext => ?_, ih hrest⟩
        rcases mem_place hnext with rfl | hnext
        · exact (precedes_strictOrder.total hne).resolve_left hafter
        · exact hother next hnext

end SymbolIndex

/-- The symbols of a workspace, one for each name. -/
structure SymbolIndex where
  /-- The symbols, in ascending order of name. -/
  symbols : List Symbol
  /-- How many source texts were scanned, those without symbols included. -/
  filesScanned : Nat
  /-- Each name comes before the next. -/
  ascending : symbols.Pairwise Symbol.Ascends

namespace SymbolIndex

/-- The index without symbols. -/
def empty : SymbolIndex :=
  ⟨[], 0, .nil⟩

/-- The symbol of a name. -/
def lookup? (index : SymbolIndex) (name : Text) : Option Symbol :=
  index.symbols.find? fun symbol => symbol.name == name

/-- The namespace of the symbol of a name. -/
def home? (index : SymbolIndex) (name : Text) : Option Text :=
  (index.lookup? name).map Symbol.home

/-- Whether a name is indexed. -/
def contains (index : SymbolIndex) (name : Text) : Bool :=
  (index.lookup? name).isSome

/-- How many names are indexed. -/
def size (index : SymbolIndex) : Nat :=
  index.symbols.length

/-- The index with a symbol written into it, in place of the symbol of the same name. -/
def insert (index : SymbolIndex) (symbol : Symbol) : SymbolIndex :=
  ⟨place symbol index.symbols, index.filesScanned, place_ascending index.ascending⟩

/-- The index with several symbols written into it, one after another. -/
def insertAll (index : SymbolIndex) (symbols : List Symbol) : SymbolIndex :=
  symbols.foldl insert index

/-- The index after scanning one more source text: its symbols are written in source order. -/
def scan (index : SymbolIndex) (text : Text) : SymbolIndex :=
  let scanned := index.insertAll (Source.symbols text)
  { scanned with filesScanned := scanned.filesScanned + 1 }

/-- The index of a list of source texts, scanned in order. -/
def ofSources (texts : List Text) : SymbolIndex :=
  texts.foldl scan empty

end SymbolIndex

end UsingAdvisor
