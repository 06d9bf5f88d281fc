import UsingAdvisor.Text.Word

/-!
# Where readers stop

The readers of names, of blanks and of fixed words look no further than the first character that belongs to
none of them. Around such a character (`Stops`) each of them commutes with what stands behind it: the
reader gives on `front ++ c :: back` what it gives on `front`, with `c :: back` left over. A semicolon stops
the readers of directives and a line feed stops the readers of headers; the facts about both are instances
of the lemmas here. White space of any kind ends names (`endsName_of_isSpace`).

The second part is about dotted names. `IsDotted` says that a text is a dotted name from end to end; every
name that is read is one (`isDotted_of_dottedName?`), and is read back in front of whatever ends it
(`IsDotted.dottedName?_append`).
-/

namespace UsingAdvisor.Text

/-- A character that ends names. -/
structure EndsName (c : Char) : Prop where
  isWord : isWord c = false
  ne_dot : c ≠ '.'

/-- A character that ends names and runs of blanks. -/
structure Stops (c : Char) : Prop extends EndsName c where
  isBlank : isBlank c = false

theorem stops_lineFeed : Stops '\n' := ⟨⟨by decide, by decide⟩, by decide⟩

theorem stops_carriageReturn : Stops '\r' := ⟨⟨by decide, by decide⟩, by decide⟩

theorem stops_semicolon : Stops ';' := ⟨⟨by decide, by decide⟩, by decide⟩

variable {c : Char}

/-- The code points in ranges, one by one. -/
def codePoints (ranges : List (Nat × Nat)) : List Nat :=
  ranges.flatMap fun range => List.range' range.1 (range.2 + 1 - range.1)

theorem mem_codePoints_of_inRanges {ranges : List (Nat × Nat)} {n : Nat} (h : inRanges ranges n = true) :
    n ∈ codePoints ranges := by
  induction ranges with
  | nil => cases h
  | cons range ranges ih =>
    obtain ⟨first, last⟩ := range
    rw [inRanges] at h
    rw [codePoints, List.flatMap_cons, List.mem_append]
    split at h
    next => cases h
    next hfirst =>
      split at h
      next hlast => exact .inl (List.mem_range'_1.2 (by omega))
      next => exact .inr (ih h)

/-- White space ends names. -/
theorem endsName_of_isSpace (h : isSpace c = true) : EndsName c := by
  have hends : ∀ n ∈ codePoints spaceRanges, isWord (Char.ofNat n) = false ∧ Char.ofNat n ≠ '.' := by
    decide +kernel
  have hc := hends c.toNat (mem_codePoints_of_inRanges h)
  rw [Char.ofNat_toNat] at hc
  exact ⟨hc.1, hc.2⟩

/-- A blank is neither a word character nor a dot. -/
theorem isWord_of_isBlank {d : Char} (h : isBlank d = true) : isWord d = false ∧ d ≠ '.' := by
  simp only [isBlank, Bool.or_eq_true, beq_iff_eq] at h
  rcases h with rfl | rfl <;> decide

/-- A fixed word without the character is looked for in front of it only. -/
theorem dropFront?_stop {word : Text} (h : c ∉ word) (front back : Text) :
    dropFront? word (front ++ c :: back) = (dropFront? word front).map (· ++ c :: back) := by
  induction word generalizing front with
  | nil => rfl
  | cons w word ih =>
    simp only [List.mem_cons, not_or] at h
    cases front with
    | nil =>
      -- the word goes on where the character stands, and has it nowhere
      simp [dropFront?, Ne.symm h.1]
    | cons d front =>
      simp only [List.cons_append, dropFront?]
      split
      · exact ih h.2 front
      · rfl

/-- A word without the character occurs in front of it or behind it, where it occurs at all. -/
theorem infix_stop {word front back : Text} (h : c ∉ word) (hword : word <:+: front ++ c :: back) :
    word <:+: front ∨ word <:+: back := by
  obtain ⟨before, after, heq⟩ := hword
  rcases List.append_eq_append_iff.1 heq with ⟨more, hfront, -⟩ | ⟨more, hbefore, hback⟩
  · exact .inl ⟨before, more, hfront.symm⟩
  · cases more with
    | nil => exact .inl ⟨before, [], by rw [hbefore, List.append_nil, List.append_nil]⟩
    | cons d more =>
      obtain ⟨hd, hmore⟩ := List.cons.inj hback
      -- the character is not in the word, so it stands in front of it
      rcases List.append_eq_append_iff.1 hbefore with ⟨gap, -, hgap⟩ | ⟨gap, -, hgap⟩
      · have hmem : d ∈ word := hgap ▸ List.mem_append_right gap List.mem_cons_self
        exact absurd (hd ▸ hmem) h
      · cases gap with
        | nil =>
          have hmem : d ∈ word := (List.nil_append word ▸ hgap) ▸ List.mem_cons_self
          exact absurd (hd ▸ hmem) h
        | cons e gap =>
          obtain ⟨-, rfl⟩ := List.cons.inj hgap
          exact .inr ⟨gap, after, hmore.symm⟩

/-- Blanks are dropped in front of the character only. -/
theorem dropBlanks_stop (h : Stops c) (front back : Text) :
    dropBlanks (front ++ c :: back) = dropBlanks front ++ c :: back := by
  induction front with
  | nil => simp [dropBlanks, h.isBlank]
  | cons d front ih =>
    simp only [dropBlanks, List.cons_append, List.dropWhile_cons] at ih ⊢
    split
    · exact ih
    · rfl

theorem dropBlanks?_stop (h : Stops c) (front back : Text) :
    dropBlanks? (front ++ c :: back) = (dropBlanks? front).map (· ++ c :: back) := by
  cases front with
  | nil => simp [dropBlanks?, h.isBlank]
  | cons d front =>
    simp only [List.cons_append, dropBlanks?]
    split
    · rw [dropBlanks_stop h, Option.map_some]
    · rfl

/-- A run of word characters ends in front of the character. -/
theorem wordRun_stop (h : Stops c) (front back : Text) :
    wordRun (front ++ c :: back) = ((wordRun front).1, (wordRun front).2 ++ c :: back) := by
  induction front with
  | nil => simp [wordRun, h.isWord]
  | cons d front ih =>
    simp only [wordRun, Prod.mk.injEq, List.cons_append, List.takeWhile_cons,
      List.dropWhile_cons] at ih ⊢
    split
    · exact ⟨by rw [ih.1], ih.2⟩
    · exact ⟨rfl, rfl⟩

/-- A character other than a dot continues a name if it is a word character. -/
theorem nameTail_cons_of_ne_dot {d : Char} (hd : d ≠ '.') (text : Text) :
    nameTail (d :: text) =
      if isWord d then (d :: (nameTail text).1, (nameTail text).2) else ([], d :: text) :=
  nameTail.eq_3 d text fun _ _ heq => absurd heq hd

/-- The continuation of a name ends in front of the character. -/
theorem nameTail_stop (h : EndsName c) (front back : Text) :
    nameTail (front ++ c :: back) = ((nameTail front).1, (nameTail front).2 ++ c :: back) := by
  fun_induction nameTail front with
  | case1 => simp [nameTail_cons_of_ne_dot h.ne_dot, h.isWord]
  | case2 d front hd ih => simp [nameTail, hd, ih]
  | case3 d front hd => simp [nameTail, hd]
  | case4 d front hdot hd ih =>
    have hne : d ≠ '.' := by rintro rfl; exact absurd hd (by decide)
    simp [nameTail_cons_of_ne_dot hne, hd, ih]
  | case5 d front hdot hd =>
    by_cases hne : d = '.'
    · -- a dot at the very end, so that the character itself is what stands behind the dot
      subst hne
      cases front with
      | nil => simp [nameTail, h.isWord]
      | cons e front => exact absurd rfl (hdot e front rfl)
    · simp [nameTail_cons_of_ne_dot hne, hd]

/-- A dotted name ends in front of the character. -/
theorem dottedName?_stop (h : EndsName c) (front back : Text) :
    dottedName? (front ++ c :: back) =
      (dottedName? front).map fun read => (read.1, read.2 ++ c :: back) := by
  cases front with
  | nil => simp [dottedName?, h.isWord]
  | cons d front =>
    simp only [List.cons_append, dottedName?, nameTail_stop h]
    split <;> rfl

/-! ### Dotted names -/

/-- The text is a dotted name: non-empty runs of word characters with single dots between them. -/
def IsDotted (name : Text) : Prop :=
  dottedName? name = some (name, [])

/-- A continuation that was read is read to its end. -/
theorem nameTail_nameTail (text : Text) :
    nameTail (nameTail text).1 = ((nameTail text).1, []) := by
  fun_induction nameTail text with
  | case1 => rfl
  | case2 d text hd ih => simp [nameTail, hd, ih]
  | case3 d text hd => rfl
  | case4 d text hdot hd ih =>
    have hne : d ≠ '.' := by rintro rfl; exact absurd hd (by decide)
    simp [nameTail_cons_of_ne_dot hne, hd, ih]
  | case5 d text hdot hd => rfl

/-- A continuation consists of word characters and dots. -/
theorem isWord_or_eq_dot_of_mem_nameTail {text : Text} {d : Char} (h : d ∈ (nameTail text).1) :
    isWord d = true ∨ d = '.' := by
  fun_induction nameTail text with
  | case1 => simp at h
  | case2 e text he ih =>
    rcases List.mem_cons.1 h with rfl | h
    · exact .inr rfl
    · rcases List.mem_cons.1 h with rfl | h
      · exact .inl he
      · exact ih h
  | case3 e text he => simp at h
  | case4 e text hdot he ih =>
    rcases List.mem_cons.1 h with rfl | h
    · exact .inl he
    · exact ih h
  | case5 e text hdot he => simp at h

/-- **What is read as a dotted name is one.** -/
theorem isDotted_of_dottedName? {text name rest : Text}
    (h : dottedName? text = some (name, rest)) : IsDotted name := by
  cases text with
  | nil => simp [dottedName?] at h
  | cons d text =>
    simp only [dottedName?, Option.ite_none_right_eq_some, Option.some.injEq, Prod.mk.injEq] at h
    obtain ⟨hd, rfl, -⟩ := h
    rw [IsDotted, dottedName?, if_pos hd, nameTail_nameTail]

/-- A dotted name is read in front of any character that ends names. -/
theorem IsDotted.dottedName?_append {name : Text} (h : IsDotted name) (hc : EndsName c) (back : Text) :
    dottedName? (name ++ c :: back) = some (name, c :: back) := by
  rw [dottedName?_stop hc, h]
  rfl

/-- A dotted name starts with a word character. -/
theorem IsDotted.exists_eq_cons {name : Text} (h : IsDotted name) :
    ∃ d rest, name = d :: rest ∧ isWord d = true := by
  cases name with
  | nil => simp [IsDotted, dottedName?] at h
  | cons d rest =>
    simp only [IsDotted, dottedName?, Option.ite_none_right_eq_some] at h
    exact ⟨d, rest, rfl, h.1⟩

/-- A dotted name consists of word characters and dots. -/
theorem IsDotted.not_mem {name : Text} (h : IsDotted name) {d : Char} (hword : isWord d = false)
    (hdot : d ≠ '.') : d ∉ name := by
  intro hmem
  cases name with
  | nil => simp at hmem
  | cons e name =>
    simp only [IsDotted, dottedName?, Option.ite_none_right_eq_some, Option.some.injEq,
      Prod.mk.injEq, List.cons.injEq, true_and] at h
    obtain ⟨he, htail, -⟩ := h
    -- a word character in front, and behind it a continuation that is read to its end
    rcases List.mem_cons.1 hmem with rfl | hmem
    · simp [hword] at he
    · rw [← htail] at hmem
      rcases isWord_or_eq_dot_of_mem_nameTail hmem with hw | hw
      · simp [hword] at hw
      · exact hdot hw

theorem IsDotted.not_mem_of_endsName {name : Text} (h : IsDotted name) (hc : EndsName c) : c ∉ name :=
  h.not_mem hc.isWord hc.ne_dot

end UsingAdvisor.Text
