import UsingAdvisor.Proofs.Directive.Cut
import UsingAdvisor.Proofs.MissingName
import UsingAdvisor.Proofs.Source.Places
import UsingAdvisor.Proofs.SymbolIndex.Names
import UsingAdvisor.Proofs.Text.Dotted

/-!
# Indexed names are read back

The scanner, the readers of directives and of headers, and the reader of messages each have a grammar of their
own. They fit together: what the scanner puts into an index is a name that is read back from the messages about
it (`missingName?_of_mem`), and a namespace that is read back from a directive that is written for it
(`imports_write`, `insertionLine_write`) and from a header that declares it (`enclosing_text`). The words that
directives and headers are made of may themselves be names: a namespace may be called `static.global`. Main
statement: `readBack_of_mem_ofSources`.
-/

namespace UsingAdvisor

open Text (IsDotted IsRun LineEnding byteOrderMark)

namespace Directive

/-- A written directive is a text that is cut below its one line. -/
theorem cutAt_write {target : Text} (h : IsDotted target) (ending : LineEnding) :
    CutAt (write target ending.text) (write target ending.text) [writtenLine ending target] [] := by
  have hempty : CutAt [] [] [] [] :=
    ⟨rfl, rfl, rfl, Text.endsLine_nil, by simp, by simp, List.forall_mem_singleton.2 rfl⟩
  have hlines : Text.endLines ([target].map (writtenLine ending)) = write target ending.text := by
    rw [endLines_writtenLine, List.flatMap_singleton]
  have hcut := hempty.insert (List.forall_mem_singleton.2 h) ending
  rwa [hlines, List.append_nil, List.nil_append] at hcut

/-- **A written directive imports its target, and nothing else.** -/
theorem imports_write {target : Text} (h : IsDotted target) (ending : LineEnding) :
    imports (write target ending.text) = [target] := by
  have himport : imported? (writtenLine ending target) = some target := imported?_write h _
  rw [(cutAt_write h ending).imports_eq, List.filterMap_cons_some himport]
  rfl

/-- **A further directive belongs below a written one.** -/
theorem insertionLine_write {target : Text} (h : IsDotted target) (ending : LineEnding) :
    insertionLine (write target ending.text) = 1 :=
  (cutAt_write h ending).insertionLine_eq

end Directive

/-- A header alone is the only one of its text. -/
theorem Source.headers_text {header : Source.Header} (h : header.WellFormed) :
    Source.headers header.text = [header] := by
  have hread : Header.read? header.text = some (header, []) :=
    Header.read?_eq_some_iff.2 ⟨(List.append_nil header.text).symm, h⟩
  refine (Header.listFrom_of_read? rfl hread).trans ?_
  rw [Header.listFrom_nil]

/-- **A text that is a header alone is enclosed by its namespace first.** -/
theorem head?_enclosing_text {header : Source.Header} (h : header.WellFormed) :
    (enclosing header.text).head? = some header.name := by
  have hmark : Text.stripMark header.text = header.text := rfl
  rw [enclosing, hmark, Source.headers_text h, List.flatMap_singleton, lineage, List.eraseDups_cons]
  rfl

/-- **What the scanner finds, the other readers accept.** The name of a symbol in an index that was built by
scanning is a capital letter with word characters behind it, and its namespace is runs of word characters with
dots between them. However lines are ended, the directive that is written for the namespace imports it and
nothing else, and a further directive belongs on the line below. A text that declares the namespace is enclosed
by it first. From each message about the name, the name is read back. -/
theorem SymbolIndex.readBack_of_mem_ofSources {sources : List Text} {symbol : Symbol}
    (h : symbol ∈ (ofSources sources).symbols) :
    IsTypeName symbol.name ∧
    (∃ parts, parts ≠ [] ∧ (∀ part ∈ parts, IsRun part) ∧ symbol.home = Text.join ['.'] parts) ∧
    (∀ ending : LineEnding,
      Directive.imports (Directive.write symbol.home ending.text) = [symbol.home] ∧
      Directive.insertionLine (Directive.write symbol.home ending.text) = 1) ∧
    (enclosing ("namespace ".toList ++ symbol.home ++ [';'])).head? = some symbol.home ∧
    ∀ message ∈ messagesFor symbol.name, missingName? message = some symbol.name := by
  have hname := isTypeName_of_mem_ofSources h
  have hhome := isDotted_of_mem_ofSources h
  have hheader : Source.Header.WellFormed ⟨symbol.home, [], .semicolon⟩ := ⟨hhome, by simp⟩
  have htext : "namespace ".toList ++ symbol.home ++ [';'] =
      Source.Header.text ⟨symbol.home, [], .semicolon⟩ := by
    have hword : "namespace ".toList = Source.Header.keyword ++ [' '] := by decide
    simp [Source.Header.text, Source.Opener.char, hword]
  refine ⟨hname, Text.isDotted_iff_exists_parts.1 hhome, fun ending => ?_, ?_, fun message hmessage => ?_⟩
  · exact ⟨Directive.imports_write hhome ending, Directive.insertionLine_write hhome ending⟩
  · rw [htext, head?_enclosing_text hheader]
  · exact missingName?_of_mem hname.isWord hname.ne_nil hmessage

/-- A namespace that is made of the words of directives and headers, and a name with a letter beyond ASCII. -/
theorem SymbolIndex.readBack_of_mem_ofSources_keywords :
    let sources := ["namespace static.global.using.namespace;\nclass Größe {}\n".toList]
    let symbol : Symbol := ⟨"Größe".toList, "static.global.using.namespace".toList, .classType⟩
    symbol ∈ (ofSources sources).symbols ∧
    IsTypeName symbol.name ∧
    (∃ parts, parts ≠ [] ∧ (∀ part ∈ parts, IsRun part) ∧ symbol.home = Text.join ['.'] parts) ∧
    (∀ ending : LineEnding,
      Directive.imports (Directive.write symbol.home ending.text) = [symbol.home] ∧
      Directive.insertionLine (Directive.write symbol.home ending.text) = 1) ∧
    (enclosing ("namespace ".toList ++ symbol.home ++ [';'])).head? = some symbol.home ∧
    ∀ message ∈ messagesFor symbol.name, missingName? message = some symbol.name := by
  intro sources symbol
  have hmem : symbol ∈ (ofSources sources).symbols := by decide +kernel
  exact ⟨hmem, readBack_of_mem_ofSources hmem⟩

end UsingAdvisor
