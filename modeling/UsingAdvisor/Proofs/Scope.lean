import Mathlib.Data.List.Basic
import UsingAdvisor.Scope
import UsingAdvisor.Proofs.Directive.Line
import UsingAdvisor.Proofs.SymbolIndex.Homes
import UsingAdvisor.Proofs.Source.Returns

/-!
# What is read from a document

The scanner reads a source without its mark and without its carriage returns; the readers of directives and of
enclosing namespaces leave the carriage returns where they are. On a text in which none of them stands without
its line feed this makes no difference: whatever is read from such a text is read from its normal form
(`imports_eq_normalize`, `insertionLine_eq_normalize`, `enclosing_eq_normalize`). In particular the scanner and
the reader of enclosing namespaces see the same headers, so that a symbol which is declared in a document has
its namespace among those that enclose it (`mem_enclosing_of_mem_symbols`).
-/

namespace UsingAdvisor

open Text (ReturnsPaired byteOrderMark lines stripMark withoutReturns)

/-! ### Normal forms -/

namespace Source

theorem normalize_of_head?_ne {text : Text} (h : text.head? ≠ some byteOrderMark) :
    normalize text = withoutReturns text :=
  congrArg withoutReturns (Text.stripMark_of_head?_ne h)

theorem normalize_mark (text : Text) : normalize (byteOrderMark :: text) = withoutReturns text := rfl

/-- The lines of a normal form are those of the text, without their carriage returns. -/
theorem lines_normalize (text : Text) :
    lines (normalize text) = (lines (stripMark text)).map withoutReturns :=
  Text.lines_withoutReturns _

/-- **The headers of a normal form are those of the text, but for the white space in them.** -/
theorem headers_normalize {text : Text} (paired : ReturnsPaired text) :
    headers (normalize text) = (headers (stripMark text)).map Header.withoutReturns :=
  headers_withoutReturns paired.stripMark

end Source

namespace Directive

variable {text : Text} (paired : ReturnsPaired text)
include paired

/-- **The imports of a text are those of the lines of its normal form.** -/
theorem imports_eq_normalize : imports text = (lines (Source.normalize text)).filterMap imported? := by
  rw [imports, Source.lines_normalize, List.filterMap_map]
  have hread : ∀ line, imported? (line ++ ['\r']) = imported? line := imported?_append_of_not_mem (by decide)
  exact List.filterMap_congr fun line hline => (paired.stripMark.read_withoutReturns hread hline).symm

/-- **The insertion line of a text is told by the lines of its normal form.** -/
theorem insertionLine_eq_normalize :
    insertionLine text = Text.countThroughLast isTopLevel (lines (Source.normalize text)) := by
  rw [insertionLine, Source.lines_normalize]
  have hread : ∀ line, isTopLevel (line ++ ['\r']) = isTopLevel line :=
    isTopLevel_append_of_not_mem (by decide)
  exact (Text.countThroughLast_map fun line hline => paired.stripMark.read_withoutReturns hread hline).symm

end Directive

/-- **The namespaces that enclose a text are read from its normal form.** -/
theorem enclosing_eq_normalize {text : Text} (paired : ReturnsPaired text) :
    enclosing text =
      ((Source.headers (Source.normalize text)).flatMap fun header => lineage header.name).eraseDups := by
  rw [Source.headers_normalize paired, List.flatMap_map]
  rfl

/-! ### Declared namespaces -/

/-- The proper ancestors of a name are the texts in front of its dots. -/
theorem mem_ancestors_iff {name home : Text} : home ∈ ancestors name ↔ ∃ rest, name = home ++ '.' :: rest := by
  induction name generalizing home with
  | nil => simp [ancestors]
  | cons c name ih =>
    cases home with
    | nil => by_cases hdot : c = '.' <;> simp [ancestors, hdot]
    | cons d home =>
      have hcons : d :: home ∈ ancestors (c :: name) ↔ home ∈ ancestors name ∧ c = d := by
        by_cases hdot : c = '.' <;> simp [ancestors, hdot]
      rw [hcons, ih, and_comm]
      simp

/-- The namespace `home` is `name` or an ancestor of it: the whole of `name`, or what stands in front of one of
its dots. -/
def Encloses (home name : Text) : Prop :=
  home = name ∨ ∃ rest, name = home ++ '.' :: rest

theorem mem_lineage_iff {name home : Text} : home ∈ lineage name ↔ Encloses home name := by
  rw [lineage, List.mem_cons, List.mem_reverse, mem_ancestors_iff, Encloses]

/-- **The namespaces that enclose a text are those of its headers and their ancestors.** -/
theorem mem_enclosing_iff {text home : Text} :
    home ∈ enclosing text ↔
      ∃ header ∈ Source.headers (stripMark text), Encloses home header.name := by
  rw [enclosing, List.mem_eraseDups, List.mem_flatMap]
  exact exists_congr fun header => and_congr_right fun _ => mem_lineage_iff

/-- The namespace of a declared symbol is that of a header of the text. -/
theorem Source.exists_header_of_mem_symbols {text : Text} (paired : ReturnsPaired text) {symbol : Symbol}
    (h : symbol ∈ symbols text) : ∃ header ∈ headers (stripMark text), symbol.home = header.name := by
  obtain ⟨place, hplace, hhome⟩ := exists_place_of_mem_symbols h
  have hheader : place.header ∈ headers (normalize text) :=
    headers_eq_map_places _ ▸ List.mem_map_of_mem hplace
  rw [headers_normalize paired] at hheader
  obtain ⟨header, hheader, heq⟩ := List.mem_map.1 hheader
  refine ⟨header, hheader, ?_⟩
  rw [hhome, ← heq, Header.withoutReturns]

/-- **A document that declares a symbol is enclosed by its namespace, and by the ancestors of that.** -/
theorem mem_enclosing_of_mem_symbols {text : Text} (paired : ReturnsPaired text) {symbol : Symbol}
    (h : symbol ∈ Source.symbols text) {home : Text} (hhome : Encloses home symbol.home) :
    home ∈ enclosing text := by
  obtain ⟨header, hheader, heq⟩ := Source.exists_header_of_mem_symbols paired h
  exact mem_enclosing_iff.2 ⟨header, hheader, heq ▸ hhome⟩

end UsingAdvisor
