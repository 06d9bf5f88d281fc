import UsingAdvisor.Proofs.SymbolIndex.Names
import UsingAdvisor.Proofs.Text.Digits
import UsingAdvisor.Proofs.Text.Fields
import UsingAdvisor.SymbolIndex.Listing

/-!
# Listings for people are read back

The table has no marks around its fields, so whether it can be read back is up to what stands in them. In an index
that was built by scanning, names and namespaces are made of word characters and dots: they hold neither spaces nor
line feeds, and none of them is empty. Each line of the table then has three fields, however wide they are
(`Symbol.IsScanned.fields_row`). Main statement: `listing_table_readBack`.
-/

namespace UsingAdvisor

open Text (EndsName IsDotted)

/-- The symbol is named as the scanner names symbols. -/
structure Symbol.IsScanned (symbol : Symbol) : Prop where
  name : IsTypeName symbol.name
  home : IsDotted symbol.home

namespace Symbol

variable {symbol : Symbol}

/-- No separator stands in a name or a namespace. -/
theorem IsScanned.not_mem (h : symbol.IsScanned) {c : Char} (hc : EndsName c) :
    c ∉ symbol.name ∧ c ∉ symbol.home := by
  refine ⟨fun hname => ?_, h.home.not_mem_of_endsName hc⟩
  have hword := h.name.isWord c hname
  rw [hc.isWord] at hword
  contradiction

/-- No separator stands in a keyword. -/
theorem not_mem_keyword {c : Char} (h : EndsName c) (kind : SymbolKind) : c ∉ kind.keyword := by
  have hkeyword : kind.keyword.all Text.isWord = true := by
    cases kind <;> decide +kernel
  intro hmem
  have hword := List.all_eq_true.1 hkeyword c hmem
  rw [h.isWord] at hword
  contradiction

theorem endsName_space : EndsName ' ' :=
  ⟨by decide, by decide⟩

/-- What a line of the table tells of a symbol. -/
def columns (symbol : Symbol) : List Text :=
  [symbol.kind.keyword, symbol.name, symbol.home]

/-- **A line of the table has three fields**: the keyword of the kind, the name and the namespace. -/
theorem IsScanned.fields_row (h : symbol.IsScanned) :
    Text.fields symbol.row = symbol.columns := by
  obtain ⟨hname, hhome⟩ := h.not_mem endsName_space
  have hhomeHead : symbol.home.head? ≠ some ' ' := fun hhead => hhome (List.mem_of_head? hhead)
  have hnameHead : (Text.pad .left 40 symbol.name ++ ' ' :: symbol.home).head? ≠ some ' ' := by
    obtain ⟨first, rest, heq, -, -⟩ := h.name
    rw [heq] at hname ⊢
    exact fun hhead => hname (List.mem_cons.2 (.inl (Option.some.inj hhead).symm))
  rw [row, Text.fields_pad 10 (not_mem_keyword endsName_space symbol.kind) hnameHead,
    Text.fields_pad 40 hname hhomeHead, Text.fields_of_not_mem hhome, columns]

/-- Padding is no line feed. -/
theorem lineFeed_not_mem_pad {text : Text} (h : '\n' ∉ text) (width : Nat) : '\n' ∉ Text.pad .left width text := by
  rw [Text.pad, List.mem_append, not_or]
  exact ⟨h, fun hpad => absurd (List.eq_of_mem_replicate hpad) (by decide)⟩

theorem IsScanned.lineFeed_not_mem_row (h : symbol.IsScanned) : '\n' ∉ symbol.row := by
  have hfeed : EndsName '\n' := Text.stops_lineFeed.toEndsName
  obtain ⟨hname, hhome⟩ := h.not_mem hfeed
  have hkeyword := lineFeed_not_mem_pad (not_mem_keyword hfeed symbol.kind) 10
  have hpadded := lineFeed_not_mem_pad hname 40
  rw [row]
  simp [hkeyword, hpadded, hhome]

/-- A symbol is told by its columns. -/
theorem eq_of_columns_eq (first second : Symbol) (h : first.columns = second.columns) : first = second := by
  obtain ⟨name, home, kind⟩ := first
  obtain ⟨otherName, otherHome, otherKind⟩ := second
  simp only [columns, List.cons.injEq, and_true] at h
  obtain ⟨hkeyword, rfl, rfl⟩ := h
  have hkind := SymbolKind.ofKeyword?_keyword kind
  rw [hkeyword, SymbolKind.ofKeyword?_keyword, Option.some_inj] at hkind
  rw [hkind]

end Symbol

namespace SymbolIndex

theorem isScanned_of_mem_ofSources {sources : List Text} {symbol : Symbol}
    (h : symbol ∈ (ofSources sources).symbols) : symbol.IsScanned :=
  ⟨isTypeName_of_mem_ofSources h, isDotted_of_mem_ofSources h⟩

theorem lineFeed_not_mem_totals (index : SymbolIndex) : '\n' ∉ index.totals := by
  have hsize := Text.not_mem_ofNat (c := '\n') (by decide) index.size
  have hfiles := Text.not_mem_ofNat (c := '\n') (by decide) index.filesScanned
  rw [totals]
  simp [hsize, hfiles]

/-- The lines of a table are those of the symbols, and then the totals. -/
theorem lines_listing_table {index : SymbolIndex} (h : ∀ symbol ∈ index.symbols, symbol.IsScanned) :
    Text.lines (index.listing .table) = index.symbols.map Symbol.row ++ [index.totals] := by
  refine Text.lines_join (List.append_ne_nil_of_right_ne_nil _ (List.cons_ne_nil _ _)) fun line hline => ?_
  rcases List.mem_append.1 hline with hrow | htotals
  · obtain ⟨symbol, hsymbol, rfl⟩ := List.mem_map.1 hrow
    exact (h symbol hsymbol).lineFeed_not_mem_row
  · rw [List.mem_singleton.1 htotals]
    exact index.lineFeed_not_mem_totals

/-- Split at their runs of spaces, the lines of symbols are their columns. -/
theorem map_fields_row {symbols : List Symbol} (h : ∀ symbol ∈ symbols, symbol.IsScanned) :
    (symbols.map Symbol.row).map Text.fields = symbols.map Symbol.columns := by
  rw [List.map_map]
  exact List.map_congr_left fun symbol hsymbol => (h symbol hsymbol).fields_row

/-- The totals tell both numbers. -/
theorem totals_inj {first second : SymbolIndex} (h : first.totals = second.totals) :
    first.size = second.size ∧ first.filesScanned = second.filesScanned := by
  rw [totals, totals] at h
  have hspace (rest : Text) : ∀ c ∈ (" symbols in ".toList ++ rest).head?, c.isDigit = false := by
    rintro c ⟨⟩
    rfl
  have hfiles : ∀ c ∈ " files".toList.head?, c.isDigit = false := by
    rintro c ⟨⟩
    rfl
  obtain ⟨hsize, hrest⟩ := Text.ofNat_append_inj (hspace _) (hspace _) h
  exact ⟨hsize, (Text.ofNat_append_inj hfiles hfiles (List.append_cancel_left hrest)).1⟩

/-- Two tables of symbols that are named as the scanner names them are alike where they tell of the same. -/
theorem listing_table_eq_iff {first second : SymbolIndex} (hfirst : ∀ symbol ∈ first.symbols, symbol.IsScanned)
    (hsecond : ∀ symbol ∈ second.symbols, symbol.IsScanned) :
    first.listing .table = second.listing .table ↔
      first.filesScanned = second.filesScanned ∧ first.symbols = second.symbols := by
  constructor
  · intro h
    have hlines := congrArg Text.lines h
    rw [lines_listing_table hfirst, lines_listing_table hsecond] at hlines
    obtain ⟨hrows, htotals⟩ := List.append_inj' hlines rfl
    have hcolumns := congrArg (List.map Text.fields) hrows
    rw [map_fields_row hfirst, map_fields_row hsecond] at hcolumns
    exact ⟨(totals_inj (List.cons.inj htotals).1).2, (List.map_inj_right Symbol.eq_of_columns_eq).1 hcolumns⟩
  · rintro ⟨hfiles, hsymbols⟩
    simp only [listing, totals, size, hfiles, hsymbols]

/-- **The table of a scanned index is read back.** It has a line for each symbol and one more. Split at its runs of
spaces, the line of a symbol is the keyword of its kind, its name and its namespace, however long these are, and
the lines come in the order of the symbols. The last line tells how many symbols there are and how many source
texts were scanned. So two such indexes have the same table exactly if they hold the same. -/
theorem listing_table_readBack (sources : List Text) :
    let index := ofSources sources
    let lines := Text.lines (index.listing .table)
    lines.length = index.size + 1 ∧
    (lines.take index.size).map Text.fields =
      index.symbols.map (fun symbol => [symbol.kind.keyword, symbol.name, symbol.home]) ∧
    lines.getLast? = some (Text.ofNat index.size ++ (" symbols in ".toList ++
      (Text.ofNat index.filesScanned ++ " files".toList))) ∧
    ∀ others, (ofSources others).listing .table = index.listing .table ↔
      (ofSources others).filesScanned = index.filesScanned ∧ (ofSources others).symbols = index.symbols := by
  intro index lines
  have hscanned : ∀ symbol ∈ index.symbols, symbol.IsScanned := fun symbol => isScanned_of_mem_ofSources
  have hlines : lines = index.symbols.map Symbol.row ++ [index.totals] := lines_listing_table hscanned
  refine ⟨?_, ?_, ?_, fun others => ?_⟩
  · rw [hlines, List.length_append, List.length_map, List.length_singleton, size]
  · have hrows : lines.take index.size = index.symbols.map Symbol.row := by
      rw [hlines]
      exact List.take_left' (List.length_map Symbol.row)
    rw [hrows, map_fields_row hscanned]
    rfl
  · rw [hlines, List.getLast?_concat, totals]
  · exact listing_table_eq_iff (fun symbol => isScanned_of_mem_ofSources) hscanned

end SymbolIndex

end UsingAdvisor
