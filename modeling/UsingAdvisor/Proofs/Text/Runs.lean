import UsingAdvisor.Proofs.Text.Stop

/-!
# Runs and gaps

Words are runs of word characters, and the words of a line have gaps of spaces and tabs between them. Both are read
as far as they go (`span_eq_iff`). So a reader that drops a gap takes all of it, and what is left starts with
another character (`dropBlanks_eq_iff`); a reader that asks for a gap finds one exactly where one stands
(`IsGap.dropBlanks?_append`, `exists_of_dropBlanks?`).
-/

namespace UsingAdvisor.Text

/-- **A run in front of a text ends where no character of its kind follows.** -/
theorem span_eq_iff {kind : Char → Bool} {text run rest : Text} :
    (text.takeWhile kind, text.dropWhile kind) = (run, rest) ↔
      text = run ++ rest ∧ (∀ c ∈ run, kind c = true) ∧ ∀ c ∈ rest.head?, kind c = false := by
  constructor
  · intro h
    obtain ⟨rfl, rfl⟩ := Prod.mk.inj h
    refine ⟨(List.takeWhile_append_dropWhile ..).symm, List.all_eq_true.1 List.all_takeWhile, fun c hc => ?_⟩
    have hhead := List.head?_dropWhile_not kind text
    rw [Option.mem_def.1 hc] at hhead
    simpa using hhead
  · rintro ⟨rfl, hrun, hrest⟩
    rw [List.takeWhile_append_of_pos hrun, List.dropWhile_append_of_pos hrun]
    cases rest with
    | nil => simp
    | cons c rest =>
      have hc : ¬ kind c = true := by simp [hrest c rfl]
      rw [List.takeWhile_cons_of_neg hc, List.dropWhile_cons_of_neg hc, List.append_nil]

/-- A word that is read goes on as far as word characters do. -/
theorem wordRun_eq_iff {text run rest : Text} :
    wordRun text = (run, rest) ↔
      text = run ++ rest ∧ (∀ c ∈ run, isWord c = true) ∧ ∀ c ∈ rest.head?, isWord c = false :=
  span_eq_iff

/-! ### Gaps -/

/-- Spaces and tabs, and nothing else. -/
def IsGap (gap : Text) : Prop :=
  ∀ c ∈ gap, isBlank c = true

/-- A word with at least one space or tab behind it. -/
def IsSpaced (word spaced : Text) : Prop :=
  ∃ gap, gap ≠ [] ∧ IsGap gap ∧ spaced = word ++ gap

/-- No space or tab stands in front of the text. -/
def Unindented (text : Text) : Prop :=
  ∀ c ∈ text.head?, isBlank c = false

theorem isGap_nil : IsGap [] := by
  simp [IsGap]

/-- What starts with a word character is not indented. -/
theorem unindented_of_isWord {c : Char} (h : isWord c = true) (text : Text) : Unindented (c :: text) := by
  intro d hd
  obtain rfl : c = d := Option.some.inj hd
  refine Bool.eq_false_iff.2 fun hblank => ?_
  rw [(isWord_of_isBlank hblank).1] at h
  cases h

theorem IsSpaced.unindented_append {c : Char} {word spaced : Text} (h : IsSpaced (c :: word) spaced)
    (hc : isWord c = true) (rest : Text) : Unindented (spaced ++ rest) := by
  obtain ⟨gap, -, -, rfl⟩ := h
  exact unindented_of_isWord hc (word ++ gap ++ rest)

/-- What stands behind a word ends it: a blank of the gap, or what follows the gap. -/
theorem IsGap.exists_endsName {gap : Text} (h : IsGap gap) {c : Char} (hc : EndsName c) (rest : Text) :
    ∃ d back, gap ++ c :: rest = d :: back ∧ EndsName d := by
  cases gap with
  | nil => exact ⟨c, rest, rfl, hc⟩
  | cons d gap =>
    obtain ⟨hword, hdot⟩ := isWord_of_isBlank (h d List.mem_cons_self)
    exact ⟨d, gap ++ c :: rest, rfl, ⟨hword, hdot⟩⟩

/-- **Dropping blanks takes a gap and all of it.** -/
theorem dropBlanks_eq_iff {text rest : Text} :
    dropBlanks text = rest ↔ ∃ gap, IsGap gap ∧ text = gap ++ rest ∧ Unindented rest := by
  constructor
  · rintro rfl
    obtain ⟨htext, hgap, hrest⟩ := span_eq_iff.1 (rfl : (text.takeWhile isBlank, text.dropWhile isBlank) = _)
    exact ⟨_, hgap, htext, hrest⟩
  · rintro ⟨gap, hgap, htext, hrest⟩
    exact (Prod.mk.inj (span_eq_iff.2 ⟨htext, hgap, hrest⟩)).2

theorem Unindented.dropBlanks_eq {text : Text} (h : Unindented text) : dropBlanks text = text :=
  dropBlanks_eq_iff.2 ⟨[], isGap_nil, rfl, h⟩

/-- A gap is dropped from the front of a text. -/
theorem IsGap.dropBlanks_append {gap : Text} (h : IsGap gap) (rest : Text) :
    dropBlanks (gap ++ rest) = dropBlanks rest :=
  List.dropWhile_append_of_pos h

/-- A gap that is asked for is found. -/
theorem IsGap.dropBlanks?_append {gap : Text} (h : IsGap gap) (hne : gap ≠ []) (rest : Text) :
    dropBlanks? (gap ++ rest) = some (dropBlanks rest) := by
  obtain ⟨c, gap, rfl⟩ := List.exists_cons_of_ne_nil hne
  obtain ⟨hc, hgap⟩ := List.forall_mem_cons.1 h
  rw [List.cons_append, dropBlanks?, if_pos hc, IsGap.dropBlanks_append hgap]

/-- What is found where a gap is asked for is one, and all of it. -/
theorem exists_of_dropBlanks? {text rest : Text} (h : dropBlanks? text = some rest) :
    ∃ gap, gap ≠ [] ∧ IsGap gap ∧ text = gap ++ rest ∧ Unindented rest := by
  cases text with
  | nil => cases h
  | cons c text =>
    obtain ⟨hc, hrest⟩ := Option.ite_none_right_eq_some.1 h
    obtain ⟨gap, hgap, rfl, hunindented⟩ := dropBlanks_eq_iff.1 (Option.some.inj hrest)
    exact ⟨c :: gap, List.cons_ne_nil c gap, List.forall_mem_cons.2 ⟨hc, hgap⟩, rfl, hunindented⟩

end UsingAdvisor.Text
