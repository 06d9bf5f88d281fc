import UsingAdvisor.Advice.Completion
import UsingAdvisor.Advice.QuickFix
import UsingAdvisor.Proofs.Repetition
import UsingAdvisor.Proofs.Scope

/-!
# Line endings and marks

Two texts without lone carriage returns that have one normal form are read alike
(`readsAlike_of_normalize_eq`). What is offered for a document depends on nothing else that is read from it, but
for the ending of the directives that are inserted (`completions_alike`, `quickFixes_alike`). Main statement:
`lineEndings_alike`, for a document with line feeds alone and the same document with a mark, with pairs of a
carriage return and a line feed, or with both.
-/

namespace UsingAdvisor.Advice

open Text (ReturnsPaired byteOrderMark lineEnding withReturns)

/-! ### Texts that are read alike -/

/-- The texts declare the same symbols, import the same namespaces, are enclosed by the same ones and have the
same line for the next directive. -/
structure ReadsAlike (first second : Text) : Prop where
  symbols_eq : Source.symbols first = Source.symbols second
  imports_eq : Directive.imports first = Directive.imports second
  enclosing_eq : enclosing first = enclosing second
  insertionLine_eq : Directive.insertionLine first = Directive.insertionLine second

/-- **Texts with one normal form are read alike.** -/
theorem readsAlike_of_normalize_eq {first second : Text} (hfirst : ReturnsPaired first)
    (hsecond : ReturnsPaired second) (h : Source.normalize first = Source.normalize second) :
    ReadsAlike first second where
  symbols_eq := by rw [Source.symbols, h, Source.symbols]
  imports_eq := by
    rw [Directive.imports_eq_normalize hfirst, h, Directive.imports_eq_normalize hsecond]
  enclosing_eq := by rw [enclosing_eq_normalize hfirst, h, enclosing_eq_normalize hsecond]
  insertionLine_eq := by
    rw [Directive.insertionLine_eq_normalize hfirst, h, Directive.insertionLine_eq_normalize hsecond]

/-- Texts that are read alike see the same namespaces. -/
theorem ReadsAlike.scope_eq {first second : Text} (h : ReadsAlike first second) :
    Scope.ofText first = Scope.ofText second := by
  rw [Scope.ofText, h.imports_eq, h.enclosing_eq, Scope.ofText]

/-! ### Advice that is alike -/

section Alike

variable (first second : Text)

/-- The edits put the same directive at the same place, each ended as its own document ends its lines. -/
structure EditAlike (edit edit' : Document.Edit) : Prop where
  range_eq : edit.range = edit'.range
  directive : ∃ target, edit.newText = Directive.write target (lineEnding first).text ∧
    edit'.newText = Directive.write target (lineEnding second).text

/-- The completions are the same but for the endings of the directives in their edits. -/
structure CompletionAlike (item item' : Completion) : Prop where
  label_eq : item.label = item'.label
  kind_eq : item.kind = item'.kind
  detail_eq : item.detail = item'.detail
  edits : Option.Rel (List.Forall₂ (EditAlike first second)) item.edits item'.edits

/-- The fixes are the same but for the endings of the directives in their edits. -/
structure QuickFixAlike (fix fix' : QuickFix) : Prop where
  title_eq : fix.title = fix'.title
  url_eq : fix.url = fix'.url
  edits : List.Forall₂ (EditAlike first second) fix.edits fix'.edits
  diagnostics_eq : fix.diagnostics = fix'.diagnostics
  preferred_eq : fix.preferred = fix'.preferred

end Alike

section ReadsAlike

variable {first second : Text} (alike : ReadsAlike first second)
include alike

/-- Directives for one namespace are inserted alike. -/
theorem insertion_alike (target : Text) :
    EditAlike first second (insertion first target) (insertion second target) where
  range_eq := by rw [insertion, alike.insertionLine_eq, insertion, insertAtLine, insertAtLine]
  directive := ⟨target, rfl, rfl⟩

/-- **Texts that are read alike get the same completions**, but for the endings of new directives. -/
theorem completions_alike (index : SymbolIndex) (line : Text) (addUsing : Bool) :
    List.Forall₂ (CompletionAlike first second) (completions index first line addUsing)
      (completions index second line addUsing) := by
  rw [completions, completions, alike.scope_eq]
  split
  next => exact .nil
  next =>
    refine forall₂_map_map fun symbol => ⟨rfl, rfl, rfl, ?_⟩
    cases addUsing with
    | true => exact .some (.cons (insertion_alike alike symbol.home) .nil)
    | false => exact .none

/-- Texts that are read alike need the same remedies. -/
theorem remedies_alike (index : SymbolIndex) (diagnostics : List Diagnostic) :
    remedies index first diagnostics = remedies index second diagnostics := by
  rw [remedies, alike.scope_eq, remedies]

/-- **Texts that are read alike get the same fixes**, but for the endings of new directives. -/
theorem quickFixes_alike (index : SymbolIndex) (url : Url) (diagnostics : List Diagnostic) :
    List.Forall₂ (QuickFixAlike first second) (quickFixes index url first diagnostics)
      (quickFixes index url second diagnostics) := by
  rw [quickFixes, quickFixes, remedies_alike alike]
  refine List.rel_append (forall₂_map_map fun remedy => ?_) ?_
  · exact ⟨rfl, rfl, .cons (insertion_alike alike remedy.home) .nil, rfl, rfl⟩
  · split
    next => exact .cons ⟨rfl, rfl, forall₂_map_map fun _ => insertion_alike alike _, rfl, rfl⟩ .nil
    next => exact .nil

end ReadsAlike

/-! ### Variants of a text -/

/-- The text with a mark, with carriage returns, and with both, is read as the text is. -/
theorem readsAlike_of_mem {text other : Text} (hreturn : '\r' ∉ text)
    (hmark : text.head? ≠ some byteOrderMark)
    (h : other ∈ [withReturns text, byteOrderMark :: text, byteOrderMark :: withReturns text]) :
    ReadsAlike text other := by
  have hmarked : byteOrderMark ≠ '\r' := by decide
  have htext : ReturnsPaired text := Text.returnsPaired_of_not_mem hreturn
  have hreturns : ReturnsPaired (withReturns text) := Text.returnsPaired_withReturns hreturn
  simp only [List.mem_cons, List.not_mem_nil, or_false] at h
  rcases h with rfl | rfl | rfl
  · refine readsAlike_of_normalize_eq htext hreturns ?_
    rw [Source.normalize_of_head?_ne hmark, Source.normalize_of_head?_ne (Text.head?_withReturns_ne hmark),
      Text.withoutReturns_withReturns]
  · refine readsAlike_of_normalize_eq htext (htext.cons_of_ne hmarked) ?_
    rw [Source.normalize_of_head?_ne hmark, Source.normalize_mark]
  · refine readsAlike_of_normalize_eq htext (hreturns.cons_of_ne hmarked) ?_
    rw [Source.normalize_of_head?_ne hmark, Source.normalize_mark, Text.withoutReturns_withReturns]

/-- **Line endings and marks change nothing but the endings of new directives.** Take a text without carriage
returns and without a mark, and the text with a carriage return in front of each line feed, with a mark in
front, or with both. The two declare the same symbols, import the same namespaces, are enclosed by the same
ones, and have the same line for the next directive. For any index they get the same completions and the same
fixes, but that each inserted directive is ended as the lines of its own text are. -/
theorem lineEndings_alike {text other : Text} (hreturn : '\r' ∉ text)
    (hmark : text.head? ≠ some byteOrderMark)
    (h : other ∈ [withReturns text, byteOrderMark :: text, byteOrderMark :: withReturns text]) :
    Source.symbols text = Source.symbols other ∧
    Directive.imports text = Directive.imports other ∧
    enclosing text = enclosing other ∧
    Directive.insertionLine text = Directive.insertionLine other ∧
    ∀ index : SymbolIndex,
      (∀ line addUsing, List.Forall₂ (CompletionAlike text other) (completions index text line addUsing)
        (completions index other line addUsing)) ∧
      ∀ url diagnostics, List.Forall₂ (QuickFixAlike text other) (quickFixes index url text diagnostics)
        (quickFixes index url other diagnostics) := by
  have alike : ReadsAlike text other := readsAlike_of_mem hreturn hmark h
  refine ⟨alike.symbols_eq, alike.imports_eq, alike.enclosing_eq, alike.insertionLine_eq, fun index => ?_⟩
  exact ⟨completions_alike alike index, quickFixes_alike alike index⟩

/-- A text with line feeds alone, and the same text with a mark and carriage returns. -/
theorem lineEndings_alike_marked :
    let text := "using System;\n\nnamespace Acme.Web\n\x7b\n  class Page ;\n\x7d\n".toList
    let other := "\uFEFFusing System;\r\n\r\nnamespace Acme.Web\r\n\x7b\r\n  class Page ;\r\n\x7d\r\n".toList
    ('\r' ∉ text ∧ text.head? ≠ some byteOrderMark ∧
      other ∈ [withReturns text, byteOrderMark :: text, byteOrderMark :: withReturns text]) ∧
    Source.symbols text = Source.symbols other ∧
    Directive.imports text = Directive.imports other ∧
    enclosing text = enclosing other ∧
    Directive.insertionLine text = Directive.insertionLine other ∧
    ∀ index : SymbolIndex,
      (∀ line addUsing, List.Forall₂ (CompletionAlike text other) (completions index text line addUsing)
        (completions index other line addUsing)) ∧
      ∀ url diagnostics, List.Forall₂ (QuickFixAlike text other) (quickFixes index url text diagnostics)
        (quickFixes index url other diagnostics) := by
  intro text other
  have hreturn : '\r' ∉ text := by decide +kernel
  have hmark : text.head? ≠ some byteOrderMark := by decide +kernel
  have hother : other ∈ [withReturns text, byteOrderMark :: text, byteOrderMark :: withReturns text] := by
    decide +kernel
  exact ⟨⟨hreturn, hmark, hother⟩, lineEndings_alike hreturn hmark hother⟩

end UsingAdvisor.Advice
