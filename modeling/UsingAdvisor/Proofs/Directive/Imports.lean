import UsingAdvisor.Proofs.Directive.Line

/-!
# What a text imports

A text imports what its lines start with directives for. No directive reaches over an equals sign or a bracket
(`StartsImport.semicolon_mem_of_stops`), so that one in front of the first semicolon of a line keeps it from
importing anything. One of these stands in every other use of the word `using` (`OtherUse.not_startsImport`): in
alias directives, in statements that hold a resource in brackets, and in declarations of variables that hold one.
Main statement: `imports_exact`.
-/

namespace UsingAdvisor.Directive

open Text

/-! ### Other uses of the word -/

/-- A line on which the word `using` does not open a directive that imports a namespace. -/
inductive OtherUse : Text → Prop
  /-- A directive that gives another name to what stands behind the equals sign. -/
  | aliasDirective {indent opening static given : Text} (hindent : IsGap indent) (hopening : IsOpening opening)
      (hstatic : MaySpace staticWord static) (hgiven : IsAlias given) (rest : Text) :
      OtherUse (indent ++ (opening ++ (static ++ (given ++ rest))))
  /-- A statement with its resource in brackets. -/
  | statement {before gap : Text} (hbefore : ';' ∉ before) (hgap : IsGap gap) (rest : Text) :
      OtherUse (before ++ (usingWord ++ (gap ++ '(' :: rest)))
  /-- A declaration of a variable, with any text as its type. -/
  | declaration {before spaced type variableName gap : Text} (hbefore : ';' ∉ before)
      (hspaced : IsSpaced usingWord spaced) (htype : ';' ∉ type) (hname : IsRun variableName) (hgap : IsGap gap)
      (rest : Text) : OtherUse (before ++ (spaced ++ (type ++ (variableName ++ (gap ++ '=' :: rest)))))
  /-- Whatever goes on below its line. -/
  | unended {line : Text} (h : ';' ∉ line) : OtherUse line

/-- **No other use of the word imports anything.** An equals sign or a bracket stands in front of the first
semicolon, or there is no semicolon. -/
theorem OtherUse.not_startsImport {line : Text} (h : OtherUse line) (target : Text) :
    ¬ StartsImport line target := by
  have hequals : Stops '=' := ⟨⟨by decide, by decide⟩, by decide⟩
  have hbracket : Stops '(' := ⟨⟨by decide, by decide⟩, by decide⟩
  have hgap {gap : Text} (h : IsGap gap) : ';' ∉ gap := unstopped_of_isGap h ';' stops_semicolon
  have hrun {name : Text} (h : IsRun name) : ';' ∉ name := unstopped_of_isWord h.word ';' stops_semicolon
  intro himport
  cases h with
  | @aliasDirective indent opening static given hindent hopening hstatic hgiven rest =>
    obtain ⟨name, gap, further, hname, hspace, -, rfl⟩ := hgiven
    have hfront : ';' ∉ indent ++ (opening ++ (static ++ (name ++ gap))) := by
      simp [hgap hindent, unstopped_of_isOpening hopening ';' stops_semicolon,
        unstopped_of_maySpace hstatic (by decide) ';' stops_semicolon, hrun hname, hgap hspace]
    have hline :
        StartsImport ((indent ++ (opening ++ (static ++ (name ++ gap)))) ++ '=' :: (further ++ rest)) target := by
      simpa using himport
    exact hfront (hline.semicolon_mem_of_stops hequals (by decide))
  | @statement before gap hbefore hspace rest =>
    have hfront : ';' ∉ before ++ (usingWord ++ gap) := by
      simp [hbefore, usingWord, hgap hspace]
    have hline : StartsImport ((before ++ (usingWord ++ gap)) ++ '(' :: rest) target := by
      simpa using himport
    exact hfront (hline.semicolon_mem_of_stops hbracket (by decide))
  | @declaration before spaced type name gap hbefore hspaced htype hname hspace rest =>
    have hfront : ';' ∉ before ++ (spaced ++ (type ++ (name ++ gap))) := by
      simp [hbefore, htype, unstopped_of_isSpaced hspaced (by decide) ';' stops_semicolon, hrun hname,
        hgap hspace]
    have hline : StartsImport ((before ++ (spaced ++ (type ++ (name ++ gap)))) ++ '=' :: rest) target := by
      simpa using himport
    exact hfront (hline.semicolon_mem_of_stops hequals (by decide))
  | unended h => exact h himport.semicolon_mem

/-! ### All lines of a text -/

/-- **The imports of two texts with a line feed between them** are those of the one and those of the other, if the
second one has no mark in front, which is dropped in front of a whole text only. -/
theorem imports_append_lineFeed {back : Text} (h : back.head? ≠ some byteOrderMark) (front : Text) :
    imports (front ++ '\n' :: back) = imports front ++ imports back := by
  have hstrip : stripMark (front ++ '\n' :: back) = stripMark front ++ '\n' :: back := by
    cases front with
    | nil => rfl
    | cons c front => exact stripMark_append (List.cons_ne_nil c front) _
  rw [imports, hstrip, lines_append_lineFeed, List.filterMap_append, imports, imports, stripMark_of_head?_ne h]

theorem mem_imports_iff {text target : Text} :
    target ∈ imports text ↔ ∃ line ∈ lines (stripMark text), StartsImport line target := by
  simp only [imports, List.mem_filterMap, imported?_eq_some_iff]

/-- **A text imports what its lines start with directives for, and nothing else.** A line imports at most one
namespace; alias directives, and statements and declarations that use a resource, import none. The imports of two
texts with a line feed between them are those of the one and those of the other, if no mark stands in front of the
second one. -/
theorem imports_exact (text : Text) :
    (∀ target, target ∈ imports text ↔ ∃ line ∈ lines (stripMark text), StartsImport line target) ∧
    (∀ line first second, StartsImport line first → StartsImport line second → first = second) ∧
    (∀ line, OtherUse line → ∀ target, ¬ StartsImport line target) ∧
    ∀ back : Text, back.head? ≠ some byteOrderMark →
      ∀ target, target ∈ imports (text ++ '\n' :: back) ↔ target ∈ imports text ∨ target ∈ imports back := by
  refine ⟨fun target => mem_imports_iff, fun line first second hfirst hsecond => hfirst.unique hsecond,
    fun line hother => hother.not_startsImport, fun back hback target => ?_⟩
  rw [imports_append_lineFeed hback, List.mem_append]

/-- Words of directives as names, an alias, a statement and a declaration. -/
example :
    imports ("using static ;\n\tglobal using static static.global;\nusing J = N.J;\n".toList ++
      "using (var s = Open()) {}\nusing var t = Begin();\nusing A .B;".toList) =
        ["static".toList, "static.global".toList] := by
  decide +kernel

end UsingAdvisor.Directive
