import UsingAdvisor.Proofs.SymbolIndex.Lookup

/-!
# An index after any operations

Symbols may be written into an index one by one, several at a time, or by scanning source texts, in any order
and as often as one likes. Of all symbols written, those of the scans in source order, the index holds the last
one of each name (`operations_lastWrite`), and each operation tells what it found.
-/

namespace UsingAdvisor.SymbolIndex

/-- The last symbol of a name among all that the operations write. -/
def lastWritten? (operations : List Operation) (name : Text) : Option Symbol :=
  ((operations.flatMap Operation.written).filter fun symbol => symbol.name == name).getLast?

/-- **The last write wins.** Let any operations be performed on an index that is empty at first. Its symbols are
listed in strictly ascending order of name, and they are the last ones written of each name. What is found under a
name, whether the name is indexed, and its namespace agree with that list. There are as many symbols as different
names were written, and as many files were scanned as operations are scans. If one more symbol is written, the one
that was last written under its name is given back, and none if there is none; if one more text is scanned, the
number of its declarations is given back, with repetitions. -/
theorem operations_lastWrite (operations : List Operation) :
    let index := ofOperations operations
    let written := operations.flatMap Operation.written
    (index.symbols.Pairwise Symbol.Ascends ∧
      ∀ symbol, symbol ∈ index.symbols ↔ lastWritten? operations symbol.name = some symbol) ∧
    (∀ name, index.lookup? name = lastWritten? operations name) ∧
    (∀ name, index.contains name = true ↔ ∃ symbol ∈ index.symbols, symbol.name = name) ∧
    (∀ name home, index.home? name = some home ↔
      ∃ symbol ∈ index.symbols, symbol.name = name ∧ symbol.home = home) ∧
    index.size = (written.map Symbol.name).eraseDups.length ∧
    index.filesScanned = operations.countP Operation.isScan ∧
    (∀ symbol, (index.perform (.insert symbol)).2 = .replaced (lastWritten? operations symbol.name)) ∧
    ∀ text, (index.perform (.scan text)).2 = .found (Source.symbols text).length := by
  intro index written
  have hlookup : ∀ name, index.lookup? name = lastWritten? operations name :=
    lookup?_ofOperations operations
  refine ⟨⟨index.ascending, fun symbol => ?_⟩, hlookup, fun name => ?_, fun name home => ?_,
    size_of_lookup? hlookup, filesScanned_ofOperations operations, fun symbol => ?_, fun text => rfl⟩
  · rw [← hlookup, lookup?_eq_some_iff, and_iff_left rfl]
  · rw [contains, ← mem_map_name_iff, List.mem_map]
  · rw [home?, Option.map_eq_some_iff]
    simp only [lookup?_eq_some_iff, and_assoc]
  · rw [perform, replaced?_eq_lookup?, hlookup]

end UsingAdvisor.SymbolIndex
