import UsingAdvisor.Proofs.Source.Occurrences
import UsingAdvisor.Proofs.SymbolIndex.Homes

/-!
# The names of an index

A declaration is read with a capital letter in front of its name and word characters behind it, so every
name in an index that was built by scanning is of that form (`isTypeName_of_mem_ofSources`). In particular
no such name is empty.
-/

namespace UsingAdvisor

namespace Source

/-- The name of a declaration in a text is that of a type. -/
theorem isTypeName_of_mem_declarations {text : Text} {declaration : Declaration}
    (h : declaration ∈ declarations text) : IsTypeName declaration.name := by
  rw [declarations_eq_map_occurrences] at h
  obtain ⟨occurrence, hoccurrence, rfl⟩ := List.mem_map.1 h
  obtain ⟨ahead, -, hheads⟩ := (mem_occurrences_iff.1 hoccurrence).heads
  exact hheads.name

/-- The name of a symbol is that of a type. -/
theorem isTypeName_of_mem_symbols {text : Text} {symbol : Symbol} (h : symbol ∈ symbols text) :
    IsTypeName symbol.name := by
  obtain ⟨block, -, h⟩ := List.mem_flatMap.1 h
  obtain ⟨declaration, hdeclaration, rfl⟩ := List.mem_map.1 h
  exact isTypeName_of_mem_declarations hdeclaration

end Source

/-- **Every name of a scanned index is that of a type.** -/
theorem SymbolIndex.isTypeName_of_mem_ofSources {sources : List Text} {symbol : Symbol}
    (h : symbol ∈ (ofSources sources).symbols) : IsTypeName symbol.name :=
  forall_mem_ofSources (fun _ _ _ hsymbol => Source.isTypeName_of_mem_symbols hsymbol) symbol h

end UsingAdvisor
