import UsingAdvisor.Json.Record
import UsingAdvisor.Proofs.Json.RoundTrip
import UsingAdvisor.SymbolIndex.Listing
import UsingAdvisor.SymbolIndex.Operation

/-!
# Listings for programs are read back

A program that reads the JSON listing of an index gets back what the index holds: how many source texts were
scanned, and the symbols one by one, whatever characters their names and namespaces are made of. All that is
written of an index is strings and one count, which is read as an integer if it is of 64 bits (`isExact_toJson`).
Two listings can be compared without reading the count as a number, since a comma ends its digits. Main statement:
`listing_json_readBack`.
-/

namespace UsingAdvisor

open Json (IsExact)

/-- The symbol that a JSON object tells of. -/
def Symbol.ofJson? (value : Json) : Option Symbol := do
  let keyword ← value.fieldAs? Json.toText? "kind"
  let name ← value.fieldAs? Json.toText? "name"
  let home ← value.fieldAs? Json.toText? "namespace"
  let kind ← SymbolKind.ofKeyword? keyword
  return ⟨name, home, kind⟩

theorem Symbol.ofJson?_toJson (symbol : Symbol) : ofJson? symbol.toJson = some symbol := by
  have hkind : symbol.toJson.fieldAs? Json.toText? "kind" = some symbol.kind.keyword := rfl
  have hname : symbol.toJson.fieldAs? Json.toText? "name" = some symbol.name := rfl
  have hhome : symbol.toJson.fieldAs? Json.toText? "namespace" = some symbol.home := rfl
  simp [ofJson?, hkind, hname, hhome]

/-- Fields in the order of names make an object that is read back as it is written. -/
theorem Json.isExact_record {fields : List (String × Json)} (h : ∀ field ∈ fields, IsExact field.2)
    (ordered : (fields.map fun field => field.1.toList).Pairwise fun first second =>
      Text.precedes first second = true) : IsExact (.record fields) := by
  refine IsExact.object (fun field hfield => ?_) ?_
  · obtain ⟨written, hwritten, rfl⟩ := List.mem_map.1 hfield
    exact h written hwritten
  · rw [List.pairwise_map] at ordered ⊢
    exact ordered

theorem Symbol.isExact_toJson (symbol : Symbol) : IsExact symbol.toJson := by
  refine Json.isExact_record (fun field hfield => ?_) ?_
  · simp only [List.mem_cons, List.not_mem_nil, or_false] at hfield
    rcases hfield with rfl | rfl | rfl <;> exact IsExact.string _
  · change ["kind".toList, "name".toList, "namespace".toList].Pairwise _
    decide

namespace SymbolIndex

/-- What a listing tells: how many source texts were scanned, and the symbols in their order. -/
def readListing? (listing : Text) : Option (Nat × List Symbol) := do
  let value ← Json.parse? listing
  let filesScanned ← value.fieldAs? Json.toNat? "files_scanned"
  let symbols ← value.fieldAs? (Json.toListOf? Symbol.ofJson?) "symbols"
  return (filesScanned, symbols)

theorem isExact_symbols (index : SymbolIndex) : IsExact (.array (index.symbols.map Symbol.toJson)) := by
  refine IsExact.array fun item hitem => ?_
  obtain ⟨symbol, -, rfl⟩ := List.mem_map.1 hitem
  exact symbol.isExact_toJson

theorem isExact_toJson {index : SymbolIndex} (h : index.filesScanned < 0x10000000000000000) :
    IsExact index.toJson := by
  refine Json.isExact_record (fun field hfield => ?_) ?_
  · simp only [List.mem_cons, List.not_mem_nil, or_false] at hfield
    rcases hfield with rfl | rfl
    · exact IsExact.integer ⟨by omega, by omega⟩
    · exact index.isExact_symbols
  · change ["files_scanned".toList, "symbols".toList].Pairwise _
    decide

/-- The symbols are read back one by one. -/
theorem mapM_ofJson?_toJson (symbols : List Symbol) :
    (symbols.map Symbol.toJson).mapM Symbol.ofJson? = some symbols := by
  have hread : Symbol.ofJson? ∘ Symbol.toJson = some := funext Symbol.ofJson?_toJson
  rw [List.mapM_map, hread]
  induction symbols with
  | nil => rfl
  | cons symbol symbols ih => rw [List.mapM_cons, ih]; rfl

/-- In a listing a comma stands behind the count of source texts, and the symbols are written behind it. -/
theorem exists_listing_json_eq : ∃ front middle closing : Text, ∀ index : SymbolIndex,
    index.listing .json = front ++ (Text.ofNat index.filesScanned ++ ',' :: (middle ++
      (Json.render (.indented 1) (.array (index.symbols.map Symbol.toJson)) ++ closing))) := by
  let inside : Json.Layout := .indented 1
  refine ⟨'{' :: (inside.lead ++ (Json.quote "files_scanned".toList ++ inside.colon)),
    inside.lead ++ (Json.quote "symbols".toList ++ inside.colon), (Json.Layout.indented 0).lead ++ ['}'],
    fun index => ?_⟩
  rw [listing, toJson, Json.pretty, Json.record, List.map_cons, List.map_singleton, Json.render, Json.renderFields,
    Json.renderFields]
  simp only [List.cons_append, List.append_assoc, List.nil_append]
  rfl

/-- **Two indexes that are listed alike hold the same.** -/
theorem listing_json_eq_iff {first second : SymbolIndex} :
    first.listing .json = second.listing .json ↔
      first.filesScanned = second.filesScanned ∧ first.symbols = second.symbols := by
  constructor
  · intro h
    obtain ⟨front, middle, closing, hlisting⟩ := exists_listing_json_eq
    rw [hlisting, hlisting] at h
    have hcomma (rest : Text) : ∀ c ∈ (',' :: rest).head?, c.isDigit = false := fun c hc => Option.some.inj hc ▸ rfl
    obtain ⟨hfiles, hrest⟩ := Text.ofNat_append_inj (hcomma _) (hcomma _) (List.append_cancel_left h)
    have hrender := List.append_cancel_right (List.append_cancel_left (List.cons.inj hrest).2)
    have hitems := Json.array.inj (first.isExact_symbols.eq_of_render_eq second.isExact_symbols hrender)
    have hread := mapM_ofJson?_toJson first.symbols
    rw [hitems, mapM_ofJson?_toJson] at hread
    exact ⟨hfiles, (Option.some.inj hread).symm⟩
  · rintro ⟨hfiles, hsymbols⟩
    rw [listing, listing, toJson, toJson, hfiles, hsymbols]

/-- **A listing loses nothing of what an index holds**, however it was filled. Read as JSON, it tells the count of
source texts and the symbols in their order; a count is of 64 bits, and a reader takes a larger number for no integer.
So two indexes have the same listing exactly if they hold the same, which needs no bound. -/
theorem listing_json_readBack (index : SymbolIndex) :
    (index.filesScanned < 0x10000000000000000 →
      Json.parse? (index.listing .json) = some index.toJson ∧
      readListing? (index.listing .json) = some (index.filesScanned, index.symbols)) ∧
    ∀ other : SymbolIndex, other.listing .json = index.listing .json ↔
      other.filesScanned = index.filesScanned ∧ other.symbols = index.symbols := by
  refine ⟨fun h => ?_, fun other => listing_json_eq_iff⟩
  have hparse : Json.parse? (index.listing .json) = some index.toJson :=
    Json.parse?_render (isExact_toJson h) (.indented 0)
  have hfiles : index.toJson.fieldAs? Json.toNat? "files_scanned" = some index.filesScanned := rfl
  have hsymbols : index.toJson.fieldAs? (Json.toListOf? Symbol.ofJson?) "symbols" = some index.symbols :=
    mapM_ofJson?_toJson index.symbols
  refine ⟨hparse, ?_⟩
  simp [readListing?, hparse, hfiles, hsymbols]

/-- A name with marks, a backslash and control characters in it, and one beyond the first plane in an empty
namespace. -/
theorem listing_json_readBack_escapes :
    let marked : Symbol := ⟨"\"\\\n\x01\x1F\x7F".toList, "A.\r\n\"\x7d".toList, .enumType⟩
    let astral : Symbol := ⟨"😀".toList, [], .structType⟩
    let index := ofOperations [.extend [astral], .scan "namespace N;\n".toList, .insert marked]
    index.filesScanned < 0x10000000000000000 ∧ Json.parse? (index.listing .json) = some index.toJson ∧
      readListing? (index.listing .json) = some (1, [marked, astral]) := by
  intro marked astral index
  have hsmall : index.filesScanned < 0x10000000000000000 := by decide +kernel
  have hcount : index.filesScanned = 1 := by decide +kernel
  have hsymbols : index.symbols = [marked, astral] := by decide +kernel
  obtain ⟨hparse, hread⟩ := (listing_json_readBack index).1 hsmall
  rw [hcount, hsymbols] at hread
  exact ⟨hsmall, hparse, hread⟩

end SymbolIndex

end UsingAdvisor
