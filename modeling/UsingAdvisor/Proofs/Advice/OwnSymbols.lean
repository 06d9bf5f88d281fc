import UsingAdvisor.Proofs.Advice.Insertion
import UsingAdvisor.Proofs.Scope
import UsingAdvisor.Proofs.Source.InertLine

/-!
# The symbols of a document after insertions

A document that is scanned again after directives were inserted declares what it declared before. A written
directive is an inert line of the scanned text (`inert_write`), unless its namespace has the keyword in it, which
would end the reach of the header above it. The lines in front of the cut of the document end with a directive at
the margin, which the search for headers passes, and so they do once the document is normalized. Main statement:
`symbols_apply_insertion`.
-/

namespace UsingAdvisor.Advice

open Directive (CutAt HasTopLevel LastEnded isTopLevel usingWord write writtenLine)
open Source (Inert normalize)
open Text (IsDotted ReturnsPaired byteOrderMark endLines lines stripMark withoutReturns)

/-! ### Written directives -/

/-- A written directive declares nothing: `using` starts with no letter of a keyword, and behind the blank there is
no other one. -/
theorem declarations_write {target : Text} (h : IsDotted target) : Source.declarations (write target []) = [] := by
  have hfirst (rest : Text) : Source.Declaration.readUnless? false ('u' :: rest) = none := rfl
  have hblank (rest : Text) : Source.Declaration.readUnless? true (' ' :: rest) = none := rfl
  have hsplit : write target [] = 'u' :: (['s', 'i', 'n', 'g'] ++ ' ' :: (target ++ [';'])) := rfl
  have hnone : ∀ c ∈ target ++ [';'], Text.isBlank c = false := by
    intro c hc
    rcases List.mem_append.1 hc with hc | hc
    · by_contra hblank
      obtain ⟨hword, hdot⟩ := Text.isWord_of_isBlank (by simpa using hblank)
      exact h.not_mem hword hdot hc
    · rw [List.mem_singleton.1 hc]
      decide
  have hu : Text.isWord 'u' = true := by decide
  have hspace : Text.isWord ' ' = false := by decide
  rw [Source.declarations, hsplit, Source.Declaration.listFrom_of_none (hfirst _), hu,
    Source.Declaration.listFrom_word (by decide), Source.Declaration.listFrom_of_none (hblank _), hspace,
    Source.Declaration.listFrom_of_not_blank hnone]

/-- **A written directive is an inert line**, if the keyword does not occur in the namespace. -/
theorem inert_write {target : Text} (h : IsDotted target) (plain : ¬ Source.Header.keyword <:+: target) :
    Inert (write target []) where
  passed := by
    have hfeed : '\n' ∉ write target [] := Directive.not_mem_writtenLine h .lineFeed
    exact Directive.passed_of_isTopLevel hfeed (Directive.isTopLevel_write h [])
  keyword := by
    intro hinfix
    -- the blank and the semicolon are not in the keyword, and it is longer than `using`
    rcases Text.infix_stop (by decide) hinfix with husing | htarget
    · exact absurd husing.length_le (by decide)
    · rcases Text.infix_stop (by decide) htarget with htarget | hrest
      · exact plain htarget
      · exact absurd hrest.length_le (by decide)
  brace := by
    have htarget : '}' ∉ target := h.not_mem (by decide) (by decide)
    simp [write, usingWord, htarget]
  declarations := declarations_write h

/-- Written lines differ in their carriage returns only. -/
theorem withoutReturns_writtenLine {target : Text} (h : IsDotted target) (ending : Text.LineEnding) :
    withoutReturns (writtenLine ending target) = write target [] := by
  have hline : '\r' ∉ write target [] := by
    have htarget : '\r' ∉ target := h.not_mem (by decide) (by decide)
    simp [write, usingWord, htarget]
  have hsplit : writtenLine ending target = write target [] ++ ending.text.dropLast := by
    simp [writtenLine, write]
  rw [hsplit, Text.withoutReturns_append, Text.withoutReturns_of_not_mem hline]
  cases ending <;> simp [Text.LineEnding.text]

/-! ### Normalized documents -/

/-- The normal form of a document, cut where the document is. -/
theorem normalize_of_cutAt {text front back : Text} {above : List Text} (cut : CutAt text front above back) :
    normalize text = endLines (above.map withoutReturns) ++ withoutReturns back := by
  have hnormal : normalize text = withoutReturns (stripMark text) := rfl
  rw [hnormal, cut.stripMark_eq, Text.withoutReturns_append, Text.withoutReturns_endLines]

/-- The search for headers passes the last line in front of the cut, in the normal form as well. -/
theorem passed_of_cutAt {text front back : Text} {above : List Text} (cut : CutAt text front above back)
    (paired : ReturnsPaired text) : ∀ line ∈ (above.map withoutReturns).getLast?, Source.Passed line := by
  intro line hline
  rw [List.getLast?_map] at hline
  obtain ⟨last, hlast, rfl⟩ := Option.map_eq_some_iff.1 hline
  have hmem : last ∈ lines (stripMark text) := by
    rw [cut.stripMark_eq, Text.lines_endLines_append cut.no_lineFeed]
    exact List.mem_append_left _ (List.mem_of_getLast? hlast)
  have hfeed : '\n' ∉ withoutReturns last := fun hin =>
    Text.not_mem_of_mem_lines hmem (List.mem_of_mem_filter hin)
  have hread : ∀ line, isTopLevel (line ++ ['\r']) = isTopLevel line :=
    Directive.isTopLevel_append_of_not_mem (by decide)
  refine Directive.passed_of_isTopLevel hfeed ?_
  rw [paired.stripMark.read_withoutReturns hread hmem, cut.last last hlast]

/-- **Inserted directives leave the symbols of a document as they are.** -/
theorem symbols_insertAll {document : Text} {targets : List Text} (paired : ReturnsPaired document)
    (marked : document.head? = some byteOrderMark → HasTopLevel document) (ended : LastEnded document)
    (dotted : ∀ target ∈ targets, IsDotted target)
    (plain : ∀ target ∈ targets, ¬ Source.Header.keyword <:+: target) :
    Source.symbols (insertAll document targets) = Source.symbols document := by
  obtain ⟨front, above, back, cut⟩ := Directive.exists_cutAt marked ended
  have hwritten : (targets.map (writtenLine (Text.lineEnding document))).map withoutReturns =
      targets.map (write · []) := by
    rw [List.map_map]
    exact List.map_congr_left fun target htarget => withoutReturns_writtenLine (dotted target htarget) _
  have hinert : ∀ line ∈ targets.map (write · []), Inert line :=
    List.forall_mem_map.2 fun target htarget => inert_write (dotted target htarget) (plain target htarget)
  rw [Source.symbols, Source.symbols, normalize_of_cutAt (cutAt_insertAll cut paired dotted),
    normalize_of_cutAt cut, List.map_append, hwritten]
  exact Source.flatMap_symbols_insertLines (passed_of_cutAt cut paired) hinert _

/-- **Importing an indexed namespace leaves the symbols of the document as they are.** The document is one
without lone carriage returns, which has no mark in front unless it has a directive at the margin, and whose last
such directive is ended. The keyword does not occur in the namespace. Wherever the new directive is put, be it
inside a block, behind one, or at the top, the document declares the same types in the same namespaces, in the
same order, as before. -/
theorem symbols_apply_insertion (sources : List Text) {document target : Text}
    (paired : ReturnsPaired document)
    (marked : document.head? = some byteOrderMark → HasTopLevel document) (ended : LastEnded document)
    (indexed : ∃ symbol ∈ (SymbolIndex.ofSources sources).symbols, symbol.home = target)
    (plain : ¬ Source.Header.keyword <:+: target) :
    Source.symbols ((insertion document target).apply document) = Source.symbols document := by
  obtain ⟨symbol, hsymbol, rfl⟩ := indexed
  have dotted : ∀ target ∈ [symbol.home], IsDotted target :=
    List.forall_mem_singleton.2 (SymbolIndex.isDotted_of_mem_ofSources hsymbol)
  rw [← Document.applyTogether_singleton]
  exact symbols_insertAll paired marked ended dotted (List.forall_mem_singleton.2 plain)

/-- A directive inside a block, between two types of the block, with another namespace below it. -/
theorem symbols_apply_insertion_inside :
    let sources := ["namespace Acme.Io;\nclass Buffer\n".toList]
    let document := endLines ["\uFEFFnamespace Web\r".toList, "\x7b\r".toList, "  class Page ;\r".toList,
      "using System;\r".toList, "  enum Mode ;\r".toList, "\x7d\r".toList, "namespace Web.Api;\r".toList,
      "struct Call\r".toList]
    let target := "Acme.Io".toList
    (ReturnsPaired document ∧ (document.head? = some byteOrderMark → HasTopLevel document) ∧
      LastEnded document ∧
      (∃ symbol ∈ (SymbolIndex.ofSources sources).symbols, symbol.home = target) ∧
      ¬ Source.Header.keyword <:+: target) ∧
    (Source.symbols document).map Symbol.name = ["Page".toList, "Mode".toList, "Call".toList] ∧
    Source.symbols ((insertion document target).apply document) = Source.symbols document := by
  intro sources document target
  have paired : ReturnsPaired document := by decide +kernel
  have marked : document.head? = some byteOrderMark → HasTopLevel document := by decide +kernel
  have ended : LastEnded document := by decide +kernel
  have indexed : ∃ symbol ∈ (SymbolIndex.ofSources sources).symbols, symbol.home = target := by
    decide +kernel
  have plain : ¬ Source.Header.keyword <:+: target := by decide +kernel
  have names : (Source.symbols document).map Symbol.name =
      ["Page".toList, "Mode".toList, "Call".toList] := by decide +kernel
  exact ⟨⟨paired, marked, ended, indexed, plain⟩, names,
    symbols_apply_insertion sources paired marked ended indexed plain⟩

end UsingAdvisor.Advice
