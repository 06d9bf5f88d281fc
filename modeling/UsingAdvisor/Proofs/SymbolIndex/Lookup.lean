import UsingAdvisor.Proofs.Order
import UsingAdvisor.Proofs.Repetition
import UsingAdvisor.SymbolIndex.Operation

/-!
# What an index holds

The names of an index are all different, so that a name is that of one symbol at most (`filter_name_eq`).
Writing a symbol replaces what was found under its name and nothing else (`lookup?_insert`); hence what is
found after many symbols is the last of them that has the name (`lookup?_insertAll`), and so it is after any
operations (`lookup?_ofOperations`). Main statements: `lookup?_ofSources` and `size_ofSources` (an index of
sources holds the last symbol of each name that they declare).
-/

namespace UsingAdvisor.SymbolIndex

/-- Symbols in ascending order have different names. -/
theorem nodup_map_name {symbols : List Symbol} (h : symbols.Pairwise Symbol.Ascends) :
    (symbols.map Symbol.name).Nodup :=
  Text.precedes_strictOrder.nodup (List.pairwise_map.2 h)

/-- A name is that of the symbol found under it and of no other. -/
theorem filter_name_eq (index : SymbolIndex) (name : Text) :
    index.symbols.filter (fun symbol => symbol.name == name) = (index.lookup? name).toList := by
  have hnodup := nodup_map_name index.ascending
  rw [lookup?]
  generalize index.symbols = symbols at hnodup
  induction symbols with
  | nil => rfl
  | cons symbol rest ih =>
    obtain ⟨hfresh, hrest⟩ := List.nodup_cons.1 hnodup
    rw [List.filter_cons, List.find?_cons]
    cases hname : symbol.name == name with
    | false => exact ih hrest
    | true =>
      have hothers : rest.filter (fun symbol => symbol.name == name) = [] := by
        refine List.filter_eq_nil_iff.2 fun other hother hsame => hfresh ?_
        rw [eq_of_beq hname, ← eq_of_beq hsame]
        exact List.mem_map_of_mem hother
      simp [hothers]

/-! ### Writing symbols -/

/-- A symbol of the index is found under its name. -/
theorem lookup?_of_mem {index : SymbolIndex} {symbol : Symbol} (h : symbol ∈ index.symbols) :
    index.lookup? symbol.name = some symbol := by
  have hfound : symbol ∈ index.symbols.filter fun other => other.name == symbol.name :=
    List.mem_filter.2 ⟨h, beq_self_eq_true _⟩
  rw [filter_name_eq] at hfound
  exact Option.mem_toList.1 hfound

/-- The symbols of the index are those that are found under their names. -/
theorem lookup?_eq_some_iff {index : SymbolIndex} {name : Text} {symbol : Symbol} :
    index.lookup? name = some symbol ↔ symbol ∈ index.symbols ∧ symbol.name = name := by
  constructor
  · intro h
    rw [lookup?] at h
    exact ⟨List.mem_of_find?_eq_some h, by simpa using List.find?_some h⟩
  · rintro ⟨hmem, rfl⟩
    exact lookup?_of_mem hmem

/-- The search for the symbol that is written over misses none: behind the first name that comes later, all
names come later. -/
theorem replaced?_eq_lookup? (index : SymbolIndex) (symbol : Symbol) :
    replaced? symbol index.symbols = index.lookup? symbol.name := by
  have hascending := index.ascending
  rw [lookup?]
  generalize index.symbols = symbols at hascending
  induction symbols with
  | nil => rfl
  | cons other rest ih =>
    obtain ⟨hother, hrest⟩ := List.pairwise_cons.1 hascending
    rw [replaced?, List.find?_cons]
    split
    next hname => simp [hname]
    next hname =>
      have hdiffer : (other.name == symbol.name) = false := beq_false_of_ne (Ne.symm hname)
      split
      next hbefore =>
        have hlater : ∀ later ∈ rest, ¬ (later.name == symbol.name) = true := by
          intro later hlater heq
          have hloop := Text.precedes_strictOrder.trans hbefore (hother later hlater)
          rw [eq_of_beq heq, Text.precedes_strictOrder.irrefl] at hloop
          cases hloop
        rw [hdiffer, List.find?_eq_none.2 hlater]
      next => rw [hdiffer, ih hrest]

/-- A symbol is found under its name, and what was found under other names is found there still. -/
theorem find?_place (symbol : Symbol) (symbols : List Symbol) (name : Text) :
    (place symbol symbols).find? (fun found => found.name == name) =
      if symbol.name = name then some symbol else symbols.find? fun found => found.name == name := by
  induction symbols with
  | nil => by_cases hname : symbol.name = name <;> simp [place, hname]
  | cons other rest ih =>
    rw [place]
    by_cases hother : symbol.name = other.name
    · rw [if_pos hother]
      by_cases hname : symbol.name = name <;> simp [← hother, hname]
    · rw [if_neg hother]
      by_cases hbefore : Text.precedes symbol.name other.name = true
      · rw [if_pos hbefore]
        by_cases hname : symbol.name = name <;> simp [hname]
      · rw [if_neg hbefore]
        by_cases hname : other.name = name
        · have hne : symbol.name ≠ name := hname ▸ hother
          simp [hname, hne]
        · simp [hname, ih]

theorem lookup?_insert (index : SymbolIndex) (symbol : Symbol) (name : Text) :
    (index.insert symbol).lookup? name =
      if symbol.name = name then some symbol else index.lookup? name :=
  find?_place symbol index.symbols name

/-- **The last symbol of a name is found under it.** -/
theorem lookup?_insertAll (index : SymbolIndex) (symbols : List Symbol) (name : Text) :
    (index.insertAll symbols).lookup? name =
      ((symbols.filter fun symbol => symbol.name == name).getLast?).or (index.lookup? name) := by
  rw [insertAll]
  induction symbols using append_induction with
  | nil => rfl
  | append symbols symbol ih =>
    rw [List.foldl_append, List.foldl_cons, List.foldl_nil, lookup?_insert, ih, List.filter_append]
    by_cases hname : symbol.name = name <;> simp [hname]

/-- Writing symbols scans no source. -/
theorem filesScanned_insertAll (index : SymbolIndex) (symbols : List Symbol) :
    (index.insertAll symbols).filesScanned = index.filesScanned := by
  rw [insertAll]
  induction symbols using append_induction with
  | nil => rfl
  | append symbols symbol ih => rw [List.foldl_append, List.foldl_cons, List.foldl_nil, insert, ih]

/-- The names of an index are those under which something is found. -/
theorem mem_map_name_iff {index : SymbolIndex} {name : Text} :
    name ∈ index.symbols.map Symbol.name ↔ (index.lookup? name).isSome = true := by
  rw [lookup?, List.find?_isSome, List.mem_map]
  simp only [beq_iff_eq]

/-- An index that holds the last of each name among the symbols written has one symbol for each name. -/
theorem size_of_lookup? {index : SymbolIndex} {written : List Symbol}
    (h : ∀ name, index.lookup? name = (written.filter fun symbol => symbol.name == name).getLast?) :
    index.size = (written.map Symbol.name).eraseDups.length := by
  rw [size, ← List.length_map (f := Symbol.name)]
  refine List.Perm.length_eq ((List.perm_ext_iff_of_nodup
    (nodup_map_name index.ascending) (nodup_eraseDups _)).2 fun name => ?_)
  rw [mem_map_name_iff, h, List.mem_eraseDups, List.getLast?_isSome, List.mem_map, Ne,
    List.filter_eq_nil_iff]
  simp only [beq_iff_eq, Classical.not_forall, Classical.not_not, exists_prop]

/-! ### Operations -/

/-- The symbols that an operation writes, in order. -/
def Operation.written : Operation → List Symbol
  | .insert symbol => [symbol]
  | .extend symbols => symbols
  | .scan text => Source.symbols text

/-- Whether an operation scans a source text. -/
def Operation.isScan : Operation → Bool
  | .scan _ => true
  | _ => false

/-- An operation writes its symbols, whatever else it does. -/
theorem lookup?_perform (index : SymbolIndex) (operation : Operation) (name : Text) :
    (index.perform operation).1.lookup? name = (index.insertAll operation.written).lookup? name := by
  cases operation <;> rfl

/-- Only a scan is counted. -/
theorem filesScanned_perform (index : SymbolIndex) (operation : Operation) :
    (index.perform operation).1.filesScanned =
      index.filesScanned + if operation.isScan then 1 else 0 := by
  cases operation with
  | insert symbol => rfl
  | extend symbols => exact filesScanned_insertAll index symbols
  | scan text => exact congrArg (· + 1) (filesScanned_insertAll index (Source.symbols text))

/-- One operation more. -/
theorem ofOperations_append (operations : List Operation) (operation : Operation) :
    ofOperations (operations ++ [operation]) = ((ofOperations operations).perform operation).1 := by
  rw [ofOperations, List.foldl_append]
  rfl

/-- **What is found under a name is the last symbol written that has it.** -/
theorem lookup?_ofOperations (operations : List Operation) (name : Text) :
    (ofOperations operations).lookup? name =
      ((operations.flatMap Operation.written).filter fun symbol => symbol.name == name).getLast? := by
  induction operations using append_induction with
  | nil => rfl
  | append operations operation ih =>
    rw [ofOperations_append, lookup?_perform, lookup?_insertAll, ih, List.flatMap_append,
      List.filter_append, List.getLast?_append, List.flatMap_singleton]

/-- All scans are counted, and nothing else. -/
theorem filesScanned_ofOperations (operations : List Operation) :
    (ofOperations operations).filesScanned = operations.countP Operation.isScan := by
  induction operations using append_induction with
  | nil => rfl
  | append operations operation ih =>
    rw [ofOperations_append, filesScanned_perform, ih, List.countP_append, List.countP_singleton]

/-! ### Scanning sources -/

/-- Sources are scanned one after another. -/
theorem ofSources_eq (sources : List Text) :
    ofSources sources = ofOperations (sources.map Operation.scan) := by
  rw [ofOperations, List.foldl_map]
  rfl

/-- **What is found under a name is the last symbol of the sources that has it.** -/
theorem lookup?_ofSources (sources : List Text) (name : Text) :
    (ofSources sources).lookup? name =
      ((sources.flatMap Source.symbols).filter fun symbol => symbol.name == name).getLast? := by
  rw [ofSources_eq, lookup?_ofOperations, List.flatMap_map]
  rfl

/-- All sources are counted, those without symbols included. -/
theorem filesScanned_ofSources (sources : List Text) :
    (ofSources sources).filesScanned = sources.length := by
  rw [ofSources_eq, filesScanned_ofOperations, List.countP_map]
  exact List.countP_eq_length.2 fun _ _ => rfl

/-- **An index of sources has one symbol for each name that they declare.** -/
theorem size_ofSources (sources : List Text) :
    (ofSources sources).size =
      ((sources.flatMap Source.symbols).map Symbol.name).eraseDups.length :=
  size_of_lookup? (lookup?_ofSources sources)

end UsingAdvisor.SymbolIndex
