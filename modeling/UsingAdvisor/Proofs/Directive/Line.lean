import UsingAdvisor.Proofs.Directive.Grammar
import UsingAdvisor.Proofs.Source.Headers

/-!
# Lines with directives

Up to its semicolon a directive is made of word characters, dots, spaces and tabs, and at the margin of the equals
sign of an alias (`StartsImport.exists_body`, `StartsTopLevel.exists_body`). No directive reaches over another
character (`isTopLevel_stop`), and nothing behind the first semicolon of a line has a say in what the line imports
or in whether it holds a directive at the margin (`imported?_semicolon`, `isTopLevel_semicolon`). Text behind a
line therefore changes neither if the line has a semicolon, as one with a directive at the margin has
(`imported?_append`), or if the text has none (`imported?_append_of_not_mem`, `isTopLevel_append_of_not_mem`). A
directive at the margin starts with the `u` of `using` or the `g` of `global`, and is therefore passed by the search
for headers (`passed_of_isTopLevel`).

The directive that is written for a dotted name is read back: it imports that name and stands at the margin
(`imported?_write`, `isTopLevel_write`).
-/

namespace UsingAdvisor.Directive

open Text
open Source (Passed)

/-! ### Up to the semicolon -/

/-- No character that stops readers stands in the text. -/
def Unstopped (text : Text) : Prop :=
  ∀ c, Stops c → c ∉ text

theorem Unstopped.append {front back : Text} (hfront : Unstopped front) (hback : Unstopped back) :
    Unstopped (front ++ back) :=
  fun c hc hmem => (List.mem_append.1 hmem).elim (hfront c hc) (hback c hc)

theorem unstopped_of_isWord {word : Text} (h : ∀ c ∈ word, isWord c = true) : Unstopped word := by
  intro c hc hmem
  have hword := h c hmem
  rw [hc.isWord] at hword
  cases hword

theorem unstopped_of_isGap {gap : Text} (h : IsGap gap) : Unstopped gap := by
  intro c hc hmem
  have hblank := h c hmem
  rw [hc.isBlank] at hblank
  cases hblank

theorem unstopped_of_isSpaced {word spaced : Text} (h : IsSpaced word spaced) (hword : word.all isWord = true) :
    Unstopped spaced := by
  obtain ⟨gap, -, hgap, rfl⟩ := h
  exact (unstopped_of_isWord (List.all_eq_true.1 hword)).append (unstopped_of_isGap hgap)

theorem unstopped_of_maySpace {word part : Text} (h : MaySpace word part) (hword : word.all isWord = true) :
    Unstopped part := by
  rcases h with rfl | h
  · exact fun c _ => List.not_mem_nil
  · exact unstopped_of_isSpaced h hword

theorem unstopped_of_isOpening {opening : Text} (h : IsOpening opening) : Unstopped opening := by
  obtain ⟨first, second, hfirst, hsecond, rfl⟩ := h
  exact (unstopped_of_maySpace hfirst (by decide)).append (unstopped_of_isSpaced hsecond (by decide))

theorem unstopped_of_isName {name : Text} (h : IsName name) : Unstopped name :=
  fun _ hc => (isName_iff_isDotted.1 h).not_mem_of_endsName hc.toEndsName

/-- An alias is stopped by its equals sign only. -/
theorem IsAlias.not_mem {given : Text} (h : IsAlias given) {c : Char} (hstop : Stops c) (hequals : c ≠ '=') :
    c ∉ given := by
  obtain ⟨name, gap, further, hname, hgap, hfurther, rfl⟩ := h
  simp [unstopped_of_isWord hname.word c hstop, unstopped_of_isGap hgap c hstop,
    unstopped_of_isGap hfurther c hstop, hequals]

/-- **A directive that imports something is told by the text through its semicolon**, and nothing in front of that
stops readers. -/
theorem StartsImport.exists_body {line target : Text} (h : StartsImport line target) :
    ∃ body rest, line = body ++ ';' :: rest ∧ Unstopped body ∧
      ∀ other, StartsImport (body ++ ';' :: other) target := by
  obtain ⟨indent, opening, static, text, hindent, hopening, hstatic, ⟨gap, rest, hname, hgap, rfl⟩, rfl⟩ := h
  refine ⟨indent ++ (opening ++ (static ++ (target ++ gap))), rest, by simp, ?_, fun other => ?_⟩
  · exact (unstopped_of_isGap hindent).append ((unstopped_of_isOpening hopening).append
      ((unstopped_of_maySpace hstatic (by decide)).append
        ((unstopped_of_isName hname).append (unstopped_of_isGap hgap))))
  · exact ⟨indent, opening, static, target ++ (gap ++ ';' :: other), hindent, hopening, hstatic,
      ⟨gap, other, hname, hgap, rfl⟩, by simp⟩

/-- **A directive at the margin is told by the text through its semicolon**, and nothing in front of that stops
readers except for the equals sign of an alias. -/
theorem StartsTopLevel.exists_body {line : Text} (h : StartsTopLevel line) :
    ∃ body rest, line = body ++ ';' :: rest ∧ (∀ c, Stops c → c ≠ '=' → c ∉ body) ∧
      ∀ other, StartsTopLevel (body ++ ';' :: other) := by
  obtain ⟨opening, static, given, text, target, hopening, hstatic, hgiven, htarget, rfl⟩ := h
  obtain ⟨gap, rest, hname, hgap, rfl⟩ := htarget
  refine ⟨opening ++ (static ++ (given ++ (target ++ gap))), rest, by simp, fun c hstop hequals => ?_,
    fun other => ?_⟩
  · have hc : c ∉ given := by
      rcases hgiven with rfl | halias
      · exact List.not_mem_nil
      · exact halias.not_mem hstop hequals
    simp [unstopped_of_isOpening hopening c hstop, unstopped_of_maySpace hstatic (by decide) c hstop, hc,
      unstopped_of_isName hname c hstop, unstopped_of_isGap hgap c hstop]
  · exact ⟨opening, static, given, target ++ (gap ++ ';' :: other), target, hopening, hstatic, hgiven,
      ⟨gap, other, hname, hgap, rfl⟩, by simp⟩

/-- A character that does not stand in front of another one is that one, or stands behind it. -/
theorem eq_or_exists_of_append_eq {body rest front back : Text} {c d : Char}
    (h : body ++ d :: rest = front ++ c :: back) (hc : c ∉ body) :
    (front = body ∧ c = d) ∨ ∃ more, front = body ++ d :: more := by
  rcases List.append_eq_append_iff.1 h with ⟨more, hfront, hmore⟩ | ⟨more, hbody, hmore⟩
  · cases more with
    | nil => exact .inl ⟨by rw [hfront, List.append_nil], (List.cons.inj hmore).1.symm⟩
    | cons e more =>
      obtain ⟨rfl, -⟩ := List.cons.inj hmore
      exact .inr ⟨more, hfront⟩
  · cases more with
    | nil => exact .inl ⟨by rw [hbody, List.append_nil], (List.cons.inj hmore).1⟩
    | cons e more =>
      obtain ⟨rfl, -⟩ := List.cons.inj hmore
      exact absurd (hbody ▸ List.mem_append_right front List.mem_cons_self) hc

/-- **No directive reaches over a character that stops readers.** -/
theorem StartsImport.semicolon_mem_of_stops {front back target : Text} {c : Char}
    (h : StartsImport (front ++ c :: back) target) (hstop : Stops c) (hsemicolon : c ≠ ';') : ';' ∈ front := by
  obtain ⟨body, rest, hline, hbody, -⟩ := h.exists_body
  rcases eq_or_exists_of_append_eq hline.symm (hbody c hstop) with ⟨-, heq⟩ | ⟨more, rfl⟩
  · exact absurd heq hsemicolon
  · simp

/-- **No directive at the margin reaches over the character**, the equals sign of an alias apart. -/
theorem isTopLevel_stop {c : Char} (hstop : Stops c) (hequals : c ≠ '=') (hsemicolon : c ≠ ';')
    (front back : Text) : isTopLevel (front ++ c :: back) = isTopLevel front := by
  rw [Bool.eq_iff_iff, isTopLevel_iff, isTopLevel_iff]
  constructor
  · intro h
    obtain ⟨body, rest, hline, hbody, hall⟩ := h.exists_body
    rcases eq_or_exists_of_append_eq hline.symm (hbody c hstop hequals) with ⟨-, heq⟩ | ⟨more, rfl⟩
    · exact absurd heq hsemicolon
    · exact hall more
  · intro h
    obtain ⟨body, rest, rfl, -, hall⟩ := h.exists_body
    rw [List.append_assoc, List.cons_append]
    exact hall (rest ++ c :: back)

/-! ### The first semicolon of a line -/

/-- What is told by a text through its first semicolon does not depend on what stands behind a semicolon. -/
theorem exists_of_semicolon {body rest front back : Text} (h : front ++ ';' :: back = body ++ ';' :: rest)
    (hbody : ';' ∉ body) (other : Text) : ∃ more, front ++ ';' :: other = body ++ ';' :: more := by
  rcases eq_or_exists_of_append_eq h.symm hbody with ⟨rfl, -⟩ | ⟨more, rfl⟩
  · exact ⟨other, rfl⟩
  · exact ⟨more ++ ';' :: other, by simp⟩

/-- **What a line imports is read from the text through its first semicolon.** -/
theorem imported?_semicolon (front back other : Text) :
    imported? (front ++ ';' :: back) = imported? (front ++ ';' :: other) := by
  have hother {back target : Text} (h : StartsImport (front ++ ';' :: back) target) (other : Text) :
      StartsImport (front ++ ';' :: other) target := by
    obtain ⟨body, rest, hline, hbody, hall⟩ := h.exists_body
    obtain ⟨more, hmore⟩ := exists_of_semicolon hline (hbody ';' stops_semicolon) other
    exact hmore ▸ hall more
  refine Option.ext fun target => ?_
  rw [imported?_eq_some_iff, imported?_eq_some_iff]
  exact ⟨fun h => hother h other, fun h => hother h back⟩

/-- **Whether a line holds a directive at the margin is read from the text through its first
semicolon.** -/
theorem isTopLevel_semicolon (front back other : Text) :
    isTopLevel (front ++ ';' :: back) = isTopLevel (front ++ ';' :: other) := by
  have hother {back : Text} (h : StartsTopLevel (front ++ ';' :: back)) (other : Text) :
      StartsTopLevel (front ++ ';' :: other) := by
    obtain ⟨body, rest, hline, hbody, hall⟩ := h.exists_body
    obtain ⟨more, hmore⟩ := exists_of_semicolon hline (hbody ';' stops_semicolon (by decide)) other
    exact hmore ▸ hall more
  rw [Bool.eq_iff_iff, isTopLevel_iff, isTopLevel_iff]
  exact ⟨fun h => hother h other, fun h => hother h back⟩

/-! ### Directives have a semicolon -/

/-- A directive at the margin has a semicolon. -/
theorem semicolon_mem_of_isTopLevel {line : Text} (h : isTopLevel line = true) : ';' ∈ line := by
  obtain ⟨body, rest, rfl, -⟩ := (isTopLevel_iff.1 h).exists_body
  simp

/-- A directive at the margin, through its semicolon, has no character in it that it cannot reach over. -/
theorem not_mem_of_isTopLevel {body : Text} (h : isTopLevel (body ++ [';']) = true) (hbody : ';' ∉ body) {c : Char}
    (hstop : Stops c) (hequals : c ≠ '=') (hsemicolon : c ≠ ';') : c ∉ body ++ [';'] := by
  rw [List.mem_append, List.mem_singleton, not_or]
  refine ⟨fun hmem => ?_, hsemicolon⟩
  obtain ⟨front, back, rfl⟩ := List.append_of_mem hmem
  rw [List.append_assoc, List.cons_append, isTopLevel_stop hstop hequals hsemicolon] at h
  exact hbody (List.mem_append_left _ (semicolon_mem_of_isTopLevel h))

/-- A directive that imports something has a semicolon. -/
theorem StartsImport.semicolon_mem {line target : Text} (h : StartsImport line target) : ';' ∈ line := by
  obtain ⟨body, rest, rfl, -⟩ := h.exists_body
  simp

/-- Text behind a line with a semicolon does not change what the line imports. -/
theorem imported?_append_of_mem {line : Text} (h : ';' ∈ line) (behind : Text) :
    imported? (line ++ behind) = imported? line := by
  obtain ⟨front, back, rfl⟩ := List.append_of_mem h
  rw [List.append_assoc, List.cons_append]
  exact imported?_semicolon front (back ++ behind) back

/-- Text behind a line with a semicolon makes it no directive at the margin, and leaves it one. -/
theorem isTopLevel_append_of_mem {line : Text} (h : ';' ∈ line) (behind : Text) :
    isTopLevel (line ++ behind) = isTopLevel line := by
  obtain ⟨front, back, rfl⟩ := List.append_of_mem h
  rw [List.append_assoc, List.cons_append]
  exact isTopLevel_semicolon front (back ++ behind) back

/-- **Text behind a directive at the margin does not change what the line imports.** -/
theorem imported?_append {line : Text} (h : isTopLevel line = true) (behind : Text) :
    imported? (line ++ behind) = imported? line :=
  imported?_append_of_mem (semicolon_mem_of_isTopLevel h) behind

/-- Text without a semicolon does not change what the line in front of it imports. -/
theorem imported?_append_of_not_mem {behind : Text} (h : ';' ∉ behind) (line : Text) :
    imported? (line ++ behind) = imported? line := by
  by_cases hmem : ';' ∈ line
  · exact imported?_append_of_mem hmem behind
  · have hnone {text : Text} (htext : ';' ∉ text) : imported? text = none :=
      Option.eq_none_iff_forall_ne_some.2 fun _ hsome => htext (imported?_eq_some_iff.1 hsome).semicolon_mem
    rw [hnone hmem, hnone (by simp [hmem, h])]

/-- Text without a semicolon makes the line in front of it no directive at the margin, and leaves it one. -/
theorem isTopLevel_append_of_not_mem {behind : Text} (h : ';' ∉ behind) (line : Text) :
    isTopLevel (line ++ behind) = isTopLevel line := by
  by_cases hmem : ';' ∈ line
  · exact isTopLevel_append_of_mem hmem behind
  · have hfalse {text : Text} (htext : ';' ∉ text) : isTopLevel text = false :=
      Bool.eq_false_iff.2 fun htop => htext (semicolon_mem_of_isTopLevel htop)
    rw [hfalse hmem, hfalse (by simp [hmem, h])]

/-- A directive is opened by `using` or by `global`. -/
theorem IsOpening.head?_append {opening : Text} (h : IsOpening opening) (rest : Text) :
    (opening ++ rest).head? = some 'u' ∨ (opening ++ rest).head? = some 'g' := by
  obtain ⟨first, second, hfirst, ⟨gap, -, -, rfl⟩, rfl⟩ := h
  rcases hfirst with rfl | ⟨space, -, -, rfl⟩
  · exact .inl rfl
  · exact .inr rfl

/-- A directive at the margin starts with `using` or with `global`. -/
theorem head?_of_isTopLevel {line : Text} (h : isTopLevel line = true) :
    line.head? = some 'u' ∨ line.head? = some 'g' := by
  obtain ⟨opening, static, given, text, target, hopening, -, -, -, rfl⟩ := isTopLevel_iff.1 h
  exact hopening.head?_append _

/-- A mark hides the directive behind it. -/
theorem imported?_mark (line : Text) : imported? (byteOrderMark :: line) = none := by
  have hblanks : dropBlanks (byteOrderMark :: line) = byteOrderMark :: line := rfl
  rw [imported?, hblanks]
  cases hrest : dropOpening? (byteOrderMark :: line) with
  | none => rfl
  | some rest =>
    obtain ⟨opening, hopening, hline⟩ := exists_of_dropOpening? hrest
    rcases hopening.head?_append rest with hhead | hhead <;> rw [← hline] at hhead <;> cases hhead

/-- The search for headers passes a directive at the margin. -/
theorem passed_of_isTopLevel {line : Text} (hfeed : '\n' ∉ line) (h : isTopLevel line = true) :
    Passed line := by
  -- neither letter is white space or an opener, and neither starts the keyword
  obtain hhead | hhead := head?_of_isTopLevel h <;>
    obtain ⟨rest, rfl⟩ := List.head?_eq_some_iff.1 hhead
  · exact ⟨hfeed, ⟨'u', rest, rfl, by decide, by decide, by decide⟩, by simp⟩
  · exact ⟨hfeed, ⟨'g', rest, rfl, by decide, by decide, by decide⟩, by simp⟩

/-! ### Written directives -/

/-- A written directive is `using`, a space, the name and a semicolon. -/
theorem startsImport_write {target : Text} (h : IsDotted target) (ending : Text) :
    StartsImport (write target ending) target := by
  have hspace : IsSpaced usingWord (usingWord ++ [' ']) :=
    ⟨[' '], List.cons_ne_nil _ _, List.forall_mem_singleton.2 rfl, rfl⟩
  have htarget : StartsTarget (target ++ ';' :: ending) target :=
    ⟨[], ending, isName_iff_isDotted.2 h, isGap_nil, rfl⟩
  exact ⟨[], _, [], _, isGap_nil, ⟨[], _, .inl rfl, hspace, rfl⟩, .inl rfl, htarget, rfl⟩

/-- **A written directive imports its target.** -/
theorem imported?_write {target : Text} (h : IsDotted target) (ending : Text) :
    imported? (write target ending) = some target :=
  imported?_eq_some_iff.2 (startsImport_write h ending)

/-- **A written directive stands at the margin.** -/
theorem isTopLevel_write {target : Text} (h : IsDotted target) (ending : Text) :
    isTopLevel (write target ending) = true :=
  isTopLevel_iff.2 ((startsImport_write h ending).startsTopLevel (unindented_of_isWord (by decide) _))

/-- The line of a written directive, its line feed apart. -/
def writtenLine (ending : LineEnding) (target : Text) : Text :=
  write target ending.text.dropLast

/-- Written directives are a block of lines. -/
theorem endLines_writtenLine (ending : LineEnding) (targets : List Text) :
    endLines (targets.map (writtenLine ending)) =
      targets.flatMap fun target => write target ending.text := by
  rw [endLines, List.flatMap_map]
  refine congrArg (List.flatMap · targets) (funext fun target => ?_)
  cases ending <;> simp [writtenLine, write, LineEnding.text]

/-- A written line has no line feed in it. -/
theorem not_mem_writtenLine {target : Text} (h : IsDotted target) (ending : LineEnding) :
    '\n' ∉ writtenLine ending target := by
  have htarget : '\n' ∉ target := h.not_mem_of_endsName stops_lineFeed.toEndsName
  cases ending <;> simp [writtenLine, write, usingWord, LineEnding.text, htarget]

end UsingAdvisor.Directive
