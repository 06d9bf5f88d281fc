import UsingAdvisor.Proofs.Directive.Cut
import UsingAdvisor.Proofs.SymbolIndex.Homes

/-!
# Documents after insertions

What a document is like once directives have been inserted into it. The edits all insert at the document's
cut, so that the result is the document with a block of written directives at its cut
(`insertAll_eq`), and the cut of the result lies below that block (`cutAt_insertAll`). Main statement:
`insertAll_effect`.
-/

namespace UsingAdvisor.Advice

open Directive (CutAt HasTopLevel LastEnded writtenLine)
open Text (IsDotted ReturnsPaired byteOrderMark endLines lineEnding)

/-- The document after the insertion of several directives. -/
def insertAll (document : Text) (targets : List Text) : Text :=
  Document.applyTogether (targets.map (insertion document)) document

/-- All insertions are at one place, the start of the insertion line, and put a block of written directives
there. -/
theorem insertAll_eq_splice (document : Text) (targets : List Text) :
    let place := Document.offset document ⟨Directive.insertionLine document, 0⟩
    insertAll document targets = Document.splice document place place
      (endLines (targets.map (writtenLine (lineEnding document)))) := by
  -- the edits differ in their texts only
  have hedits : targets.map (insertion document) =
      (targets.map fun target => Directive.write target (lineEnding document).text).map
        fun newText => ⟨⟨⟨Directive.insertionLine document, 0⟩,
          ⟨Directive.insertionLine document, 0⟩⟩, newText⟩ := by
    rw [List.map_map]
    rfl
  rw [insertAll, hedits, Document.applyTogether_of_place, Directive.endLines_writtenLine,
    ← List.flatMap_def]

/-- **Insertions put a block of written directives at the cut.** -/
theorem insertAll_eq {document front back : Text} {above : List Text}
    (cut : CutAt document front above back) (paired : ReturnsPaired document) (targets : List Text) :
    insertAll document targets =
      front ++ (endLines (targets.map (writtenLine (lineEnding document))) ++ back) := by
  rw [insertAll_eq_splice, cut.offset_eq paired, Document.splice]
  rw [cut.text_eq, List.take_left, List.drop_left]

/-- **The cut of a document with inserted directives lies below them.** -/
theorem cutAt_insertAll {document front back : Text} {above : List Text}
    (cut : CutAt document front above back) (paired : ReturnsPaired document) {targets : List Text}
    (dotted : ∀ target ∈ targets, IsDotted target) :
    CutAt (insertAll document targets)
      (front ++ endLines (targets.map (writtenLine (lineEnding document))))
      (above ++ targets.map (writtenLine (lineEnding document))) back := by
  rw [insertAll_eq cut paired]
  exact cut.insert dotted _

/-! ### What is read from the document -/

/-- Written lines import their targets. -/
theorem filterMap_imported?_writtenLine {targets : List Text}
    (dotted : ∀ target ∈ targets, IsDotted target) (ending : Text.LineEnding) :
    (targets.map (writtenLine ending)).filterMap Directive.imported? = targets := by
  induction targets with
  | nil => rfl
  | cons target targets ih =>
    obtain ⟨htarget, hrest⟩ := List.forall_mem_cons.1 dotted
    have himport : Directive.imported? (writtenLine ending target) = some target :=
      Directive.imported?_write htarget _
    rw [List.map_cons, List.filterMap_cons_some himport, ih hrest]

section Effect

variable {document : Text} {targets : List Text} (paired : ReturnsPaired document)
  (marked : document.head? = some byteOrderMark → HasTopLevel document)
  (ended : LastEnded document) (dotted : ∀ target ∈ targets, IsDotted target)

include paired marked ended dotted

/-- Inserted directives import their targets, and the imports of the document stay. -/
theorem mem_imports_insertAll {home : Text} :
    home ∈ Directive.imports (insertAll document targets) ↔
      home ∈ Directive.imports document ∨ home ∈ targets := by
  obtain ⟨front, above, back, cut⟩ := Directive.exists_cutAt marked ended
  have hwritten := filterMap_imported?_writtenLine dotted (lineEnding document)
  rw [(cutAt_insertAll cut paired dotted).imports_eq, cut.imports_eq, List.filterMap_append, hwritten]
  simp only [List.mem_append]
  exact or_right_comm

/-- Inserted directives enclose nothing and let nothing out. -/
theorem enclosing_insertAll : enclosing (insertAll document targets) = enclosing document := by
  obtain ⟨front, above, back, cut⟩ := Directive.exists_cutAt marked ended
  have hpassed : ∀ line ∈ targets.map (writtenLine (lineEnding document)), Source.Passed line :=
    List.forall_mem_map.2 fun target htarget =>
      Directive.passed_of_isTopLevel (Directive.not_mem_writtenLine (dotted target htarget) _)
        (Directive.isTopLevel_write (dotted target htarget) _)
  rw [enclosing, (cutAt_insertAll cut paired dotted).stripMark_eq, cut.headers_insert hpassed, enclosing]

/-- Inserted directives end their lines as the document does. -/
theorem lineEnding_insertAll : lineEnding (insertAll document targets) = lineEnding document := by
  obtain ⟨front, above, back, cut⟩ := Directive.exists_cutAt marked ended
  rw [insertAll_eq cut paired, cut.lineEnding_insert dotted]

/-- A further directive belongs below the inserted ones. -/
theorem insertionLine_insertAll :
    Directive.insertionLine (insertAll document targets) =
      Directive.insertionLine document + targets.length := by
  obtain ⟨front, above, back, cut⟩ := Directive.exists_cutAt marked ended
  rw [(cutAt_insertAll cut paired dotted).insertionLine_eq, cut.insertionLine_eq, List.length_append,
    List.length_map]

end Effect

/-- **Inserting directives for indexed namespaces changes what a document imports and nothing else that is
read from it.** The document is one without lone carriage returns, which has no mark in front unless it has
a directive at the margin, and whose last such directive is ended. Afterwards it imports what it imported
and the new targets, its namespaces enclose it as before, it ends its lines as before, and the line for the
next directive lies as many lines lower as directives were inserted. -/
theorem insertAll_effect (sources : List Text) {document : Text} {targets : List Text}
    (paired : ReturnsPaired document)
    (marked : document.head? = some byteOrderMark → HasTopLevel document)
    (ended : LastEnded document)
    (indexed : ∀ target ∈ targets,
      ∃ symbol ∈ (SymbolIndex.ofSources sources).symbols, symbol.home = target) :
    (∀ home, home ∈ Directive.imports (insertAll document targets) ↔
      home ∈ Directive.imports document ∨ home ∈ targets) ∧
    enclosing (insertAll document targets) = enclosing document ∧
    lineEnding (insertAll document targets) = lineEnding document ∧
    Directive.insertionLine (insertAll document targets) =
      Directive.insertionLine document + targets.length := by
  have dotted : ∀ target ∈ targets, IsDotted target := by
    intro target htarget
    obtain ⟨symbol, hsymbol, rfl⟩ := indexed target htarget
    exact SymbolIndex.isDotted_of_mem_ofSources hsymbol
  exact ⟨fun _ => mem_imports_insertAll paired marked ended dotted,
    enclosing_insertAll paired marked ended dotted, lineEnding_insertAll paired marked ended dotted,
    insertionLine_insertAll paired marked ended dotted⟩

/-- Two namespaces of one source, inserted into a document with a mark, paired carriage returns and a
directive. -/
theorem insertAll_effect_marked :
    let sources := ["namespace Acme.Io;\nclass Buffer\nnamespace Acme;\nenum Mode\n".toList]
    let document := "\uFEFFusing System;\r\n\r\nnamespace Acme.Web\r\n;\r\n".toList
    let targets := ["Acme.Io".toList, "Acme".toList]
    (ReturnsPaired document ∧ (document.head? = some byteOrderMark → HasTopLevel document) ∧
      LastEnded document ∧ ∀ target ∈ targets,
        ∃ symbol ∈ (SymbolIndex.ofSources sources).symbols, symbol.home = target) ∧
    (∀ home, home ∈ Directive.imports (insertAll document targets) ↔
      home ∈ Directive.imports document ∨ home ∈ targets) ∧
    enclosing (insertAll document targets) = enclosing document ∧
    lineEnding (insertAll document targets) = lineEnding document ∧
    Directive.insertionLine (insertAll document targets) =
      Directive.insertionLine document + targets.length := by
  intro sources document targets
  have paired : ReturnsPaired document := by decide +kernel
  have marked : document.head? = some byteOrderMark → HasTopLevel document := by decide +kernel
  have ended : LastEnded document := by decide +kernel
  have indexed : ∀ target ∈ targets,
      ∃ symbol ∈ (SymbolIndex.ofSources sources).symbols, symbol.home = target := by decide +kernel
  exact ⟨⟨paired, marked, ended, indexed⟩, insertAll_effect sources paired marked ended indexed⟩

end UsingAdvisor.Advice
