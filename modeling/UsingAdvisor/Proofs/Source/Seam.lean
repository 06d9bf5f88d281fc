import Mathlib.Data.List.Chain
import UsingAdvisor.Proofs.Source.Joined
import UsingAdvisor.Proofs.Text.Returns
import UsingAdvisor.SymbolIndex

/-!
# Texts cut in front of a namespace

A text may be cut in front of any namespace keyword at the start of a line. Nothing in front of the cut reaches
over it: a header ends in front of the keyword or is none, the reach of the last header stops at the keyword as it
stops at the end of a text, and no closing brace stands right in front of the cut, where it would matter whether
the text goes on. So the blocks of the whole text are those of the parts (`blocks_append`), and so are the symbols
(`symbols_append`), in spite of the mark, which is dropped in front of the whole text only. Main statement:
`scan_pieces`.
-/

namespace UsingAdvisor

namespace Source

open Text (EndsLine breakAt stripMark)

/-- Two texts meet at the start of a line, where a namespace keyword stands. -/
structure Seam (front back : Text) : Prop where
  ends : EndsLine front
  keyword : Header.keyword <+: back

instance (front back : Text) : Decidable (Seam front back) :=
  decidable_of_iff (EndsLine front ∧ Header.keyword <+: back)
    ⟨fun ⟨ends, keyword⟩ => ⟨ends, keyword⟩, fun ⟨ends, keyword⟩ => ⟨ends, keyword⟩⟩

/-- More text behind a seam leaves it a seam. -/
theorem Seam.append {front back : Text} (seam : Seam front back) (more : Text) : Seam front (back ++ more) :=
  ⟨seam.ends, seam.keyword.trans (List.prefix_append back more)⟩

/-- A keyword is apart from the headers in front of it. -/
theorem Seam.apart {front back : Text} (seam : Seam front back) : Header.Apart back := by
  obtain ⟨rest, rfl⟩ := seam.keyword
  exact ⟨'n', _, rfl, by decide, by decide, by decide⟩

/-! ### The reach of a header in front of a seam -/

/-- A keyword at the front is the first one. -/
theorem breakAt_keyword {back : Text} (h : Header.keyword <+: back) : breakAt Header.keyword back = ([], back) := by
  have hlength : (breakAt Header.keyword ([] ++ back)).1.length ≤ 0 := length_breakAt_le h
  have hnil : (breakAt Header.keyword back).1 = [] := List.eq_nil_of_length_eq_zero (Nat.le_zero.1 hlength)
  have happend := Text.breakAt_append Header.keyword back
  rw [hnil, List.nil_append] at happend
  exact Prod.ext hnil happend

/-- **A reach stops at a seam as it stops at the end of a text.** -/
theorem Seam.breakAt_append {rest back : Text} (seam : Seam rest back) :
    breakAt Header.keyword (rest ++ back) =
      ((breakAt Header.keyword rest).1, (breakAt Header.keyword rest).2 ++ back) := by
  by_cases hne : rest = []
  · rw [hne]
    exact breakAt_keyword seam.keyword
  · obtain ⟨line, rfl⟩ := seam.ends.exists_eq_append hne
    have hfeed : '\n' ∉ Header.keyword := by decide
    have hkeyword : Header.keyword ≠ [] := by decide
    have hnil : breakAt Header.keyword [] = ([], []) := rfl
    -- the keyword is looked for in front of the line feed, and then behind it, where it comes at once
    rw [List.append_assoc, List.singleton_append, breakAt_stop hfeed hkeyword line back,
      breakAt_stop hfeed hkeyword line [], breakAt_keyword seam.keyword, hnil]
    split
    · rfl
    · rw [List.append_assoc, List.singleton_append]

/-- Behind a line feed it does not matter whether the text is over. -/
theorem Block.throughLastClosing?_of_endsLine {reach : Text} (ends : EndsLine reach) (closed closed' fresh : Bool) :
    throughLastClosing? closed fresh reach = throughLastClosing? closed' fresh reach := by
  by_cases hne : reach = []
  · rw [hne]
    rfl
  · obtain ⟨line, rfl⟩ := ends.exists_eq_append hne
    rw [throughLastClosing?_append_lineFeed, throughLastClosing?_append_lineFeed]
    rfl

/-- **A header in front of a seam has the block that it has where the text ends there.** -/
theorem Place.block?_inFrontOf {place : Place} {back : Text} (seam : Seam place.rest back) :
    (place.inFrontOf back).block? = place.block? := by
  simp only [block?, Block.ofHeader, after, inFrontOf, seam.breakAt_append]
  cases place.header.opener with
  | semicolon => rfl
  | brace =>
    simp only
    -- either a keyword follows the reach in both texts, or the reach is all of the text in front of the seam
    cases hbeyond : (breakAt Header.keyword place.rest).2 with
    | cons c beyond =>
      rw [List.cons_append, List.isEmpty_cons, List.isEmpty_cons]
      split <;> rfl
    | nil =>
      have hreach : (breakAt Header.keyword place.rest).1 = place.rest := by
        have happend := Text.breakAt_append Header.keyword place.rest
        rwa [hbeyond, List.append_nil] at happend
      rw [hreach, Block.throughLastClosing?_of_endsLine seam.ends _ ([] : Text).isEmpty]
      split <;> rfl

/-! ### Blocks and symbols -/

/-- The text behind a header goes on to the seam. -/
theorem Seam.of_mem_places {front back : Text} (seam : Seam front back) {place : Place} (h : place ∈ places front) :
    Seam place.rest back := by
  have hends := seam.ends
  rw [(mem_places_iff.1 h).text_eq, ← List.append_assoc] at hends
  exact ⟨hends.of_append, seam.keyword⟩

/-- **The blocks of two texts that meet at a seam.** -/
theorem blocks_append {front back : Text} (seam : Seam front back) :
    blocks (front ++ back) = blocks front ++ blocks back := by
  rw [blocks_eq, places_append seam.ends seam.apart, List.filterMap_append, List.filterMap_map,
    List.filterMap_map, blocks_eq, blocks_eq]
  refine congrArg₂ _ (List.filterMap_congr fun place hplace => ?_) (congrArg₂ _ (funext fun place => ?_) rfl)
  · exact Place.block?_inFrontOf (seam.of_mem_places hplace)
  · exact Place.block?_behind front place

/-- A normalized text ends its last line if the text does. -/
theorem endsLine_normalize {text : Text} (ends : EndsLine text) : EndsLine (normalize text) := by
  have hstrip : EndsLine (stripMark text) := by
    cases text with
    | nil => exact ends
    | cons c text =>
      rw [stripMark]
      split
      · exact ends.tail
      · exact ends
  by_cases hne : stripMark text = []
  · rw [normalize, hne]
    exact Text.endsLine_nil
  · obtain ⟨line, hline⟩ := hstrip.exists_eq_append hne
    have hfeed : [('\n' : Char)].filter (· != '\r') = ['\n'] := by decide
    rw [normalize, hline, List.filter_append, hfeed]
    simp [EndsLine]

/-- **The normal forms of two texts that meet at a seam** meet at one, and they are the normal form of the whole. -/
theorem Seam.normalize {front back : Text} (seam : Seam front back) :
    Seam (normalize front) (normalize back) ∧ normalize (front ++ back) = normalize front ++ normalize back := by
  obtain ⟨rest, rfl⟩ := seam.keyword
  -- no mark stands behind the seam, and no carriage return stands in the keyword
  have hback : stripMark (Header.keyword ++ rest) = Header.keyword ++ rest :=
    Text.stripMark_of_head?_ne (by simp [Header.keyword, Text.byteOrderMark])
  have hkeyword : Header.keyword.filter (· != '\r') = Header.keyword := by decide
  refine ⟨⟨endsLine_normalize seam.ends, ?_⟩, ?_⟩
  · rw [Source.normalize, hback, List.filter_append, hkeyword]
    exact List.prefix_append ..
  · by_cases hne : front = []
    · rw [hne]
      rfl
    · rw [Source.normalize, Text.stripMark_append hne, List.filter_append, Source.normalize, Source.normalize,
        hback]

/-- **The symbols of two texts that meet at a seam.** -/
theorem symbols_append {front back : Text} (seam : Seam front back) :
    symbols (front ++ back) = symbols front ++ symbols back := by
  obtain ⟨hseam, hnormal⟩ := seam.normalize
  rw [symbols, hnormal, blocks_append hseam, List.flatMap_append, symbols, symbols]

/-- The symbols of a text in pieces. -/
theorem symbols_flatten {pieces : List Text} (seams : pieces.IsChain Seam) :
    symbols pieces.flatten = pieces.flatMap symbols := by
  induction pieces with
  | nil =>
    rw [symbols, blocks_eq]
    rfl
  | cons front pieces ih =>
    cases pieces with
    | nil => rw [List.flatten_singleton, List.flatMap_singleton]
    | cons back pieces =>
      obtain ⟨hseam, hseams⟩ := List.isChain_cons_cons.1 seams
      rw [List.flatten_cons, List.flatMap_cons, ← ih hseams, List.flatten_cons]
      exact symbols_append (hseam.append pieces.flatten)

end Source

namespace SymbolIndex

/-- What an index holds after symbols are written depends on what it held before, and on the symbols. -/
theorem symbols_insertAll (index : SymbolIndex) (written : List Symbol) :
    (index.insertAll written).symbols =
      written.foldl (fun held symbol => place symbol held) index.symbols := by
  induction written generalizing index with
  | nil => rfl
  | cons symbol written ih => exact ih (index.insert symbol)

/-- Texts that are scanned one after another have all their symbols written, in order. -/
theorem symbols_foldl_scan (index : SymbolIndex) (texts : List Text) :
    (texts.foldl scan index).symbols = (index.insertAll (texts.flatMap Source.symbols)).symbols := by
  rw [symbols_insertAll]
  induction texts generalizing index with
  | nil => rfl
  | cons text texts ih =>
    have hfirst : (index.scan text).symbols = (index.insertAll (Source.symbols text)).symbols := rfl
    rw [List.foldl_cons, ih, hfirst, symbols_insertAll, List.flatMap_cons, List.foldl_append]

end SymbolIndex

namespace Source

/-- **A text may be cut in front of any namespace at the start of a line.** Two texts that meet there have together
the blocks of the one and the blocks of the other, and the symbols of the one and the symbols of the other. A source
that is cut at any number of such places and scanned piece by piece leaves in an index the symbols that the source
leaves there when it is scanned as a whole. -/
theorem scan_pieces :
    (∀ front back, Seam front back →
      blocks (front ++ back) = blocks front ++ blocks back ∧
      symbols (front ++ back) = symbols front ++ symbols back) ∧
    ∀ (index : SymbolIndex) (pieces : List Text), pieces.IsChain Seam →
      (pieces.foldl SymbolIndex.scan index).symbols = (index.scan pieces.flatten).symbols := by
  refine ⟨fun front back seam => ⟨blocks_append seam, symbols_append seam⟩, fun index pieces seams => ?_⟩
  have hwhole : (index.scan pieces.flatten).symbols =
      (index.insertAll (symbols pieces.flatten)).symbols := rfl
  rw [SymbolIndex.symbols_foldl_scan, hwhole, symbols_flatten seams]

/-- A block that is never closed, a header without an opener, and a namespace for the rest of its file. -/
theorem scan_pieces_unclosed :
    let unclosed := "\uFEFFnamespace Shop\r\n\x7b\r\n  class Cart\r\n".toList
    let unopened := "namespace Shop.Web\r\n".toList
    let wholeFile := "namespace Shop.Api;\r\nenum Verb\r\n".toList
    let index := SymbolIndex.ofSources ["namespace Old;\nclass Verb\nclass Page\n".toList]
    (Seam unclosed unopened ∧ [unclosed, unopened, wholeFile].IsChain Seam) ∧
      symbols (unclosed ++ unopened) = symbols unclosed ++ symbols unopened ∧
      ([unclosed, unopened, wholeFile].foldl SymbolIndex.scan index).symbols =
        (index.scan [unclosed, unopened, wholeFile].flatten).symbols := by
  intro unclosed unopened wholeFile index
  have seam : Seam unclosed unopened := by decide +kernel
  have seams : [unclosed, unopened, wholeFile].IsChain Seam := by decide +kernel
  exact ⟨⟨seam, seams⟩, (scan_pieces.1 unclosed unopened seam).2,
    scan_pieces.2 index [unclosed, unopened, wholeFile] seams⟩

end Source

end UsingAdvisor
