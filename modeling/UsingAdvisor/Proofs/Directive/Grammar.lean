import UsingAdvisor.Directive
import UsingAdvisor.Proofs.Text.Dotted
import UsingAdvisor.Proofs.Text.Runs

/-!
# The grammar of directives

A directive is its opening, with or without the word `static`, a name and a semicolon, with gaps between them; at the
margin an alias may stand in front of the name. Any of these words may itself be a name, or the first part of one,
so that `static` in front of a semicolon is what is imported. The readers of directives accept exactly this grammar:
`imported?_eq_some_iff` for the namespace that a line imports, `isTopLevel_iff` for directives at the margin. It is
one grammar but for the alias and the indentation, so that an import which is not indented is a directive at the
margin (`StartsImport.startsTopLevel`).
-/

namespace UsingAdvisor.Directive

open Text

/-! ### The parts of a directive -/

/-- Nothing, or the word with a gap behind it. -/
def MaySpace (word part : Text) : Prop :=
  part = [] ∨ IsSpaced word part

/-- `using` with a gap behind it, and in front of it nothing, or `global` with a gap behind it. -/
def IsOpening (opening : Text) : Prop :=
  ∃ first second, MaySpace globalWord first ∧ IsSpaced usingWord second ∧ opening = first ++ second

/-- Runs of word characters, at least one, with dots between them. -/
def IsName (name : Text) : Prop :=
  ∃ parts, parts ≠ [] ∧ (∀ part ∈ parts, IsRun part) ∧ name = join ['.'] parts

/-- A run of word characters and an equals sign, with or without gaps behind them. -/
def IsAlias (given : Text) : Prop :=
  ∃ name gap further, IsRun name ∧ IsGap gap ∧ IsGap further ∧ given = name ++ (gap ++ '=' :: further)

/-- The name stands in front of the text, with or without a gap behind it, and a semicolon ends the directive. -/
def StartsTarget (text name : Text) : Prop :=
  ∃ gap rest, IsName name ∧ IsGap gap ∧ text = name ++ (gap ++ ';' :: rest)

/-- The line starts with a directive that imports the target. -/
def StartsImport (line target : Text) : Prop :=
  ∃ indent opening static text, IsGap indent ∧ IsOpening opening ∧ MaySpace staticWord static ∧
    StartsTarget text target ∧ line = indent ++ (opening ++ (static ++ text))

/-- The line starts with a directive, which may be an alias directive. -/
def StartsTopLevel (line : Text) : Prop :=
  ∃ opening static given text target, IsOpening opening ∧ MaySpace staticWord static ∧
    (given = [] ∨ IsAlias given) ∧ StartsTarget text target ∧ line = opening ++ (static ++ (given ++ text))

/-! ### Words -/

/-- A word that is asked for is found where it stands with a gap behind it. -/
theorem dropWord?_append {word spaced : Text} (h : IsSpaced word spaced) (rest : Text) :
    dropWord? word (spaced ++ rest) = some (dropBlanks rest) := by
  obtain ⟨gap, hne, hgap, rfl⟩ := h
  have hword : dropFront? word (word ++ gap ++ rest) = some (gap ++ rest) :=
    dropFront?_eq_some_iff.2 (List.append_assoc ..)
  rw [dropWord?, hword, Option.bind_some, hgap.dropBlanks?_append hne]

/-- What is found is the word with a gap behind it, and all of the gap. -/
theorem exists_of_dropWord? {word text rest : Text} (h : dropWord? word text = some rest) :
    ∃ spaced, IsSpaced word spaced ∧ text = spaced ++ rest ∧ Unindented rest := by
  obtain ⟨after, hafter, hrest⟩ := Option.bind_eq_some_iff.1 h
  obtain ⟨gap, hne, hgap, rfl, hunindented⟩ := exists_of_dropBlanks? hrest
  refine ⟨word ++ gap, ⟨gap, hne, hgap, rfl⟩, ?_, hunindented⟩
  rw [dropFront?_eq_some_iff.1 hafter, List.append_assoc]

theorem MaySpace.unindented_append {c : Char} {word part rest : Text} (h : MaySpace (c :: word) part)
    (hc : isWord c = true) (hrest : Unindented rest) : Unindented (part ++ rest) := by
  rcases h with rfl | h
  · exact hrest
  · exact h.unindented_append hc rest

/-! ### Openings -/

theorem IsOpening.unindented_append {opening : Text} (h : IsOpening opening) (rest : Text) :
    Unindented (opening ++ rest) := by
  obtain ⟨first, second, hfirst, hsecond, rfl⟩ := h
  rw [List.append_assoc]
  exact hfirst.unindented_append (by decide) (hsecond.unindented_append (by decide) rest)

/-- An opening is dropped with its gap. -/
theorem IsOpening.dropOpening?_append {opening : Text} (h : IsOpening opening) (rest : Text) :
    dropOpening? (opening ++ rest) = some (dropBlanks rest) := by
  obtain ⟨first, second, hfirst, hsecond, rfl⟩ := h
  rcases hfirst with rfl | hfirst
  · have hglobal : dropWord? globalWord (second ++ rest) = none := by
      obtain ⟨gap, -, -, rfl⟩ := hsecond
      rfl
    rw [dropOpening?, List.nil_append, hglobal, Option.getD_none, dropWord?_append hsecond]
  · have husing : Unindented (second ++ rest) := hsecond.unindented_append (by decide) rest
    rw [dropOpening?, List.append_assoc, dropWord?_append hfirst, Option.getD_some, husing.dropBlanks_eq,
      dropWord?_append hsecond]

/-- What is dropped is an opening. -/
theorem exists_of_dropOpening? {line rest : Text} (h : dropOpening? line = some rest) :
    ∃ opening, IsOpening opening ∧ line = opening ++ rest := by
  rw [dropOpening?] at h
  cases hglobal : dropWord? globalWord line with
  | none =>
    rw [hglobal, Option.getD_none] at h
    obtain ⟨second, hsecond, rfl, -⟩ := exists_of_dropWord? h
    exact ⟨second, ⟨[], second, .inl rfl, hsecond, rfl⟩, rfl⟩
  | some after =>
    rw [hglobal, Option.getD_some] at h
    obtain ⟨first, hfirst, rfl, -⟩ := exists_of_dropWord? hglobal
    obtain ⟨second, hsecond, rfl, -⟩ := exists_of_dropWord? h
    exact ⟨first ++ second, ⟨first, second, .inr hfirst, hsecond, rfl⟩, (List.append_assoc ..).symm⟩

/-! ### Targets -/

theorem isName_iff_isDotted {name : Text} : IsName name ↔ IsDotted name :=
  isDotted_iff_exists_parts.symm

/-- A directive ends at a semicolon, with or without a gap in front of it. -/
theorem endsHere_iff {text : Text} :
    endsHere text = true ↔ ∃ gap rest, IsGap gap ∧ text = gap ++ ';' :: rest := by
  have hfront (rest : Text) : startsWith [';'] rest = true ↔ ∃ after, rest = ';' :: after := by
    simp [startsWith, Option.isSome_iff_exists, dropFront?_eq_some_iff]
  rw [endsHere, hfront]
  constructor
  · rintro ⟨after, hafter⟩
    obtain ⟨gap, hgap, rfl, -⟩ := dropBlanks_eq_iff.1 hafter
    exact ⟨gap, after, hgap, rfl⟩
  · rintro ⟨gap, after, hgap, rfl⟩
    exact ⟨after, by rw [hgap.dropBlanks_append]; rfl⟩

/-- **A target is read where one stands.** -/
theorem readTarget?_eq_some_iff {text name : Text} : readTarget? text = some name ↔ StartsTarget text name := by
  constructor
  · intro h
    rw [readTarget?] at h
    split at h
    next => cases h
    next read rest hname =>
      obtain ⟨hends, hsome⟩ := Option.ite_none_right_eq_some.1 h
      obtain rfl := Option.some.inj hsome
      obtain ⟨gap, after, hgap, rfl⟩ := endsHere_iff.1 hends
      exact ⟨gap, after, isName_iff_isDotted.2 (isDotted_of_dottedName? hname), hgap,
        (dottedName?_append hname).symm⟩
  · rintro ⟨gap, rest, hname, hgap, rfl⟩
    obtain ⟨d, back, hback, hd⟩ := hgap.exists_endsName stops_semicolon.toEndsName rest
    have hends : endsHere (d :: back) = true := hback ▸ endsHere_iff.2 ⟨gap, rest, hgap, rfl⟩
    rw [readTarget?, hback, (isName_iff_isDotted.1 hname).dottedName?_append hd]
    simp only [hends, if_true]

theorem StartsTarget.unindented {text name : Text} (h : StartsTarget text name) : Unindented text := by
  obtain ⟨gap, rest, hname, -, rfl⟩ := h
  obtain ⟨c, more, rfl, hc⟩ := (isName_iff_isDotted.1 hname).exists_eq_cons
  exact unindented_of_isWord hc _

/-! ### Imports -/

/-- Where the word `static` with a gap behind it is a target, no target stands behind the gap. -/
theorem readTarget?_of_dropWord?_static {text rest name : Text} (h : StartsTarget text name)
    (hstatic : dropWord? staticWord text = some rest) : readTarget? rest = none := by
  obtain ⟨gap, after, hname, hgap, rfl⟩ := h
  obtain ⟨spaced, ⟨space, hne, hspace, rfl⟩, htext, hrest⟩ := exists_of_dropWord? hstatic
  -- one name is read in front of the text, and both gaps are what follows it
  obtain ⟨d, back, hback, hd⟩ := hgap.exists_endsName stops_semicolon.toEndsName after
  obtain ⟨e, space, rfl⟩ := List.exists_cons_of_ne_nil hne
  obtain ⟨hword, hdot⟩ := isWord_of_isBlank (hspace e List.mem_cons_self)
  have hread := (isName_iff_isDotted.1 hname).dottedName?_append hd back
  have hdotted : IsDotted staticWord := rfl
  have hword : dottedName? (staticWord ++ e :: space ++ rest) = some (staticWord, e :: (space ++ rest)) := by
    rw [List.append_assoc]
    exact hdotted.dottedName?_append ⟨hword, hdot⟩ (space ++ rest)
  rw [← hback, htext, hword] at hread
  obtain ⟨-, hgaps⟩ := Prod.mk.inj (Option.some.inj hread)
  have hsemicolon : Unindented (';' :: after) := by simp [Unindented, isBlank]
  have hsame := congrArg dropBlanks hgaps
  rw [← List.cons_append, hspace.dropBlanks_append, hrest.dropBlanks_eq, hgap.dropBlanks_append,
    hsemicolon.dropBlanks_eq] at hsame
  rw [hsame]
  rfl

/-- **What follows an opening imports a target** if this stands there, with or without `static` in front. -/
theorem readImport?_eq_some_iff {text target : Text} :
    readImport? text = some target ↔
      ∃ static named, MaySpace staticWord static ∧ StartsTarget named target ∧ text = static ++ named := by
  rw [readImport?, Option.or_eq_some_iff]
  constructor
  · rintro (hstatic | ⟨-, hplain⟩)
    · obtain ⟨named, hnamed, htarget⟩ := Option.bind_eq_some_iff.1 hstatic
      obtain ⟨static, hspaced, rfl, -⟩ := exists_of_dropWord? hnamed
      exact ⟨static, named, .inr hspaced, readTarget?_eq_some_iff.1 htarget, rfl⟩
    · exact ⟨[], text, .inl rfl, readTarget?_eq_some_iff.1 hplain, rfl⟩
  · rintro ⟨static, named, hstatic, htarget, rfl⟩
    rcases hstatic with rfl | hspaced
    · rw [List.nil_append]
      refine .inr ⟨?_, readTarget?_eq_some_iff.2 htarget⟩
      cases hstatic : dropWord? staticWord named with
      | none => rfl
      | some rest => exact readTarget?_of_dropWord?_static htarget hstatic
    · refine .inl ?_
      rw [dropWord?_append hspaced, htarget.unindented.dropBlanks_eq, Option.bind_some,
        readTarget?_eq_some_iff.2 htarget]

/-- **A line imports what it starts with a directive for.** -/
theorem imported?_eq_some_iff {line target : Text} : imported? line = some target ↔ StartsImport line target := by
  constructor
  · intro h
    obtain ⟨rest, hrest, himport⟩ := Option.bind_eq_some_iff.1 h
    obtain ⟨opening, hopening, hline⟩ := exists_of_dropOpening? hrest
    obtain ⟨static, named, hstatic, htarget, rfl⟩ := readImport?_eq_some_iff.1 himport
    obtain ⟨indent, hindent, rfl, -⟩ := dropBlanks_eq_iff.1 hline
    exact ⟨indent, opening, static, named, hindent, hopening, hstatic, htarget, rfl⟩
  · rintro ⟨indent, opening, static, named, hindent, hopening, hstatic, htarget, rfl⟩
    have hnamed : Unindented (static ++ named) := hstatic.unindented_append (by decide) htarget.unindented
    rw [imported?, hindent.dropBlanks_append, (hopening.unindented_append _).dropBlanks_eq,
      hopening.dropOpening?_append, hnamed.dropBlanks_eq, Option.bind_some]
    exact readImport?_eq_some_iff.2 ⟨static, named, hstatic, htarget, rfl⟩

/-- **No line imports two namespaces.** -/
theorem StartsImport.unique {line first second : Text} (hfirst : StartsImport line first)
    (hsecond : StartsImport line second) : first = second :=
  Option.some.inj ((imported?_eq_some_iff.2 hfirst).symm.trans (imported?_eq_some_iff.2 hsecond))

/-! ### Directives at the margin -/

/-- An alias is dropped with its equals sign. -/
theorem IsAlias.dropAlias?_append {given : Text} (h : IsAlias given) (rest : Text) :
    dropAlias? (given ++ rest) = some (dropBlanks rest) := by
  obtain ⟨name, gap, further, hname, hgap, hfurther, rfl⟩ := h
  have hequals : EndsName '=' := ⟨by decide, by decide⟩
  have hrun : wordRun (name ++ (gap ++ '=' :: further) ++ rest) = (name, gap ++ '=' :: (further ++ rest)) := by
    refine wordRun_eq_iff.2 ⟨by simp, hname.word, fun d hd => ?_⟩
    obtain ⟨e, back, hback, he⟩ := hgap.exists_endsName hequals (further ++ rest)
    rw [hback] at hd
    exact Option.some.inj hd ▸ he.isWord
  have hdrop : dropFront? ['='] ('=' :: (further ++ rest)) = some (further ++ rest) := rfl
  have hunindented : Unindented ('=' :: (further ++ rest)) := by simp [Unindented, isBlank]
  obtain ⟨c, run, rfl⟩ := List.exists_cons_of_ne_nil hname.ne_nil
  simp only [dropAlias?, hrun, hgap.dropBlanks_append, hunindented.dropBlanks_eq, hdrop, Option.map_some,
    hfurther.dropBlanks_append]

/-- What is dropped is an alias. -/
theorem exists_of_dropAlias? {text rest : Text} (h : dropAlias? text = some rest) :
    ∃ given, IsAlias given ∧ text = given ++ rest := by
  rw [dropAlias?] at h
  split at h
  next => cases h
  next c run after hrun =>
    obtain ⟨rfl, hword, -⟩ := wordRun_eq_iff.1 hrun
    obtain ⟨behind, hbehind, rfl⟩ := Option.map_eq_some_iff.1 h
    obtain ⟨gap, hgap, hafter, -⟩ := dropBlanks_eq_iff.1 (dropFront?_eq_some_iff.1 hbehind)
    obtain ⟨further, hfurther, hrest, -⟩ := dropBlanks_eq_iff.1 (rfl : dropBlanks behind = dropBlanks behind)
    refine ⟨c :: run ++ (gap ++ '=' :: further),
      ⟨c :: run, gap, further, ⟨List.cons_ne_nil c run, hword⟩, hgap, hfurther, rfl⟩, ?_⟩
    rw [hafter]
    simpa using hrest

/-- A target may start in front of the text or behind `static`, and there behind an alias as well. -/
theorem mem_targetPlaces_iff {text place : Text} :
    place ∈ targetPlaces text ↔ ∃ start, (start = text ∨ dropWord? staticWord text = some start) ∧
      (place = start ∨ dropAlias? start = some place) := by
  simp only [targetPlaces, List.mem_append, List.mem_cons, Option.mem_toList, List.mem_filterMap]
  grind

theorem IsAlias.unindented_append {given : Text} (h : IsAlias given) (rest : Text) : Unindented (given ++ rest) := by
  obtain ⟨name, gap, further, ⟨hne, hword⟩, -, -, rfl⟩ := h
  obtain ⟨c, run, rfl⟩ := List.exists_cons_of_ne_nil hne
  exact unindented_of_isWord (hword c List.mem_cons_self) _

/-- **A directive stands at the margin of a line that starts with one.** -/
theorem isTopLevel_iff {line : Text} : isTopLevel line = true ↔ StartsTopLevel line := by
  have hany {rest : Text} (hrest : dropOpening? line = some rest) :
      isTopLevel line = true ↔ ∃ place ∈ targetPlaces rest, ∃ target, StartsTarget place target := by
    simp only [isTopLevel, hrest, List.any_eq_true, Option.isSome_iff_exists, readTarget?_eq_some_iff]
  constructor
  · intro h
    cases hrest : dropOpening? line with
    | none => simp [isTopLevel, hrest] at h
    | some rest =>
      obtain ⟨place, hplace, target, htarget⟩ := (hany hrest).1 h
      obtain ⟨opening, hopening, rfl⟩ := exists_of_dropOpening? hrest
      obtain ⟨start, hstart, hplace⟩ := mem_targetPlaces_iff.1 hplace
      have hstatic : ∃ static, MaySpace staticWord static ∧ rest = static ++ start := by
        rcases hstart with rfl | hstart
        · exact ⟨[], .inl rfl, rfl⟩
        · obtain ⟨static, hspaced, rfl, -⟩ := exists_of_dropWord? hstart
          exact ⟨static, .inr hspaced, rfl⟩
      have hgiven : ∃ given, (given = [] ∨ IsAlias given) ∧ start = given ++ place := by
        rcases hplace with rfl | hplace
        · exact ⟨[], .inl rfl, rfl⟩
        · obtain ⟨given, halias, rfl⟩ := exists_of_dropAlias? hplace
          exact ⟨given, .inr halias, rfl⟩
      obtain ⟨static, hstatic, rfl⟩ := hstatic
      obtain ⟨given, hgiven, rfl⟩ := hgiven
      exact ⟨opening, static, given, place, target, hopening, hstatic, hgiven, htarget, rfl⟩
  · rintro ⟨opening, static, given, text, target, hopening, hstatic, hgiven, htarget, rfl⟩
    have hstart : Unindented (given ++ text) := by
      rcases hgiven with rfl | halias
      · exact htarget.unindented
      · exact halias.unindented_append text
    have hrest : Unindented (static ++ (given ++ text)) := hstatic.unindented_append (by decide) hstart
    refine (hany (hopening.dropOpening?_append _)).2 ⟨text, ?_, target, htarget⟩
    rw [hrest.dropBlanks_eq, mem_targetPlaces_iff]
    refine ⟨given ++ text, ?_, ?_⟩
    · rcases hstatic with rfl | hspaced
      · exact .inl rfl
      · exact .inr (by rw [dropWord?_append hspaced, hstart.dropBlanks_eq])
    · rcases hgiven with rfl | halias
      · exact .inl rfl
      · exact .inr (by rw [halias.dropAlias?_append, htarget.unindented.dropBlanks_eq])

/-- **An import that is not indented is a directive at the margin.** -/
theorem StartsImport.startsTopLevel {line target : Text} (h : StartsImport line target)
    (hmargin : Unindented line) : StartsTopLevel line := by
  obtain ⟨indent, opening, static, text, hindent, hopening, hstatic, htarget, rfl⟩ := h
  obtain rfl : indent = [] := by
    cases indent with
    | nil => rfl
    | cons c indent =>
      have hc : isBlank c = false := hmargin c rfl
      rw [hindent c List.mem_cons_self] at hc
      cases hc
  exact ⟨opening, static, [], text, target, hopening, hstatic, .inl rfl, htarget, rfl⟩

end UsingAdvisor.Directive
