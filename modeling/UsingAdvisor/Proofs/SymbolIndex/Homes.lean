import UsingAdvisor.SymbolIndex
import UsingAdvisor.Proofs.Source.Blocks

/-!
# The namespaces of an index

Whatever holds of every symbol of the scanned sources holds of every symbol of their index
(`forall_mem_ofSources`), since an index holds nothing but what was written into it. The namespace of a
symbol is the name of the header of its block (`exists_place_of_mem_symbols`), which is a dotted name; so every
namespace in an index that was built by scanning is a dotted name (`isDotted_of_mem_ofSources`).
-/

namespace UsingAdvisor

open Text (IsDotted)

namespace Source

/-- The namespace of a symbol is the name of a header in its place. -/
theorem exists_place_of_mem_symbols {text : Text} {symbol : Symbol} (h : symbol ∈ symbols text) :
    ∃ place ∈ places (normalize text), symbol.home = place.header.name := by
  obtain ⟨block, hblock, h⟩ := List.mem_flatMap.1 h
  obtain ⟨declaration, -, rfl⟩ := List.mem_map.1 h
  exact exists_place_of_mem_blocks hblock

/-- The namespace of a symbol is a dotted name. -/
theorem isDotted_of_mem_symbols {text : Text} {symbol : Symbol} (h : symbol ∈ symbols text) :
    IsDotted symbol.home := by
  obtain ⟨place, hplace, hhome⟩ := exists_place_of_mem_symbols h
  rw [hhome]
  exact (mem_places_iff.1 hplace).wellFormed.name

end Source

namespace SymbolIndex

/-- What holds of every symbol of a list and of an index holds when the list is written into it. -/
theorem forall_mem_insertAll {P : Symbol → Prop} {index : SymbolIndex} {symbols : List Symbol}
    (hindex : ∀ symbol ∈ index.symbols, P symbol) (hsymbols : ∀ symbol ∈ symbols, P symbol) :
    ∀ symbol ∈ (index.insertAll symbols).symbols, P symbol := by
  refine List.foldlRecOn (motive := fun index => ∀ symbol ∈ index.symbols, P symbol) symbols insert
    hindex fun before hbefore symbol hsymbol found hfound => ?_
  rcases mem_place hfound with rfl | hfound
  · exact hsymbols found hsymbol
  · exact hbefore found hfound

/-- **What holds of every symbol of the sources holds of every symbol of their index.** -/
theorem forall_mem_ofSources {P : Symbol → Prop} {sources : List Text}
    (h : ∀ source ∈ sources, ∀ symbol ∈ Source.symbols source, P symbol) :
    ∀ symbol ∈ (ofSources sources).symbols, P symbol := by
  refine List.foldlRecOn (motive := fun index => ∀ symbol ∈ index.symbols, P symbol) sources scan ?_
    fun before hbefore source hsource => ?_
  · simp [empty]
  · exact forall_mem_insertAll hbefore (h source hsource)

/-- **Every namespace of a scanned index is a dotted name.** -/
theorem isDotted_of_mem_ofSources {sources : List Text} {symbol : Symbol}
    (h : symbol ∈ (ofSources sources).symbols) : IsDotted symbol.home :=
  forall_mem_ofSources (fun _ _ _ hsymbol => Source.isDotted_of_mem_symbols hsymbol) symbol h

end SymbolIndex

end UsingAdvisor
