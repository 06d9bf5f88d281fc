import UsingAdvisor.Proofs.Text.Lines

/-!
# Texts without their carriage returns

A carriage return that stands in front of a line feed is the last character of its line. So the lines of a text
and those of the text without its carriage returns differ in one such character at most
(`ReturnsPaired.eq_of_mem_lines`), and a text with line feeds alone is what is left of the text that has a
carriage return in front of each of them (`withoutReturns_withReturns`).
-/

namespace UsingAdvisor.Text

/-- The text without its carriage returns. -/
def withoutReturns (text : Text) : Text :=
  text.filter (· != '\r')

/-- The text with a carriage return in front of each line feed. -/
def withReturns : Text → Text
  | [] => []
  | c :: text => if c = '\n' then '\r' :: '\n' :: withReturns text else c :: withReturns text

@[simp]
theorem withoutReturns_nil : withoutReturns [] = [] := rfl

@[simp]
theorem withoutReturns_return (text : Text) : withoutReturns ('\r' :: text) = withoutReturns text := rfl

theorem withoutReturns_cons_of_ne {c : Char} (h : c ≠ '\r') (text : Text) :
    withoutReturns (c :: text) = c :: withoutReturns text :=
  List.filter_cons_of_pos (by simpa using h)

@[simp]
theorem withoutReturns_append (front back : Text) :
    withoutReturns (front ++ back) = withoutReturns front ++ withoutReturns back :=
  List.filter_append front back

theorem withoutReturns_of_not_mem {text : Text} (h : '\r' ∉ text) : withoutReturns text = text := by
  refine List.filter_eq_self.2 fun c hc => bne_iff_ne.2 ?_
  rintro rfl
  exact h hc

/-- What is left at the first carriage return, where that has a line feed. -/
theorem withoutReturns_append_pair {front : Text} (h : '\r' ∉ front) (back : Text) :
    withoutReturns (front ++ '\r' :: '\n' :: back) = front ++ '\n' :: withoutReturns back := by
  rw [withoutReturns_append, withoutReturns_of_not_mem h, withoutReturns_return,
    withoutReturns_cons_of_ne (by decide)]

/-- Taking carriage returns in and out again. -/
theorem withoutReturns_withReturns (text : Text) :
    withoutReturns (withReturns text) = withoutReturns text := by
  induction text with
  | nil => rfl
  | cons c text ih =>
    rw [withReturns]
    split
    next hfeed =>
      have hne : '\n' ≠ '\r' := by decide
      rw [hfeed, withoutReturns_return, withoutReturns_cons_of_ne hne, withoutReturns_cons_of_ne hne, ih]
    next =>
      by_cases hreturn : c = '\r'
      · rw [hreturn, withoutReturns_return, withoutReturns_return, ih]
      · rw [withoutReturns_cons_of_ne hreturn, withoutReturns_cons_of_ne hreturn, ih]

/-! ### Carriage returns with their line feeds -/

theorem returnsPaired_of_not_mem {text : Text} (h : '\r' ∉ text) : ReturnsPaired text := by
  rintro front back rfl
  exact absurd (List.mem_append_right front List.mem_cons_self) h

/-- A carriage return and a line feed in front of such a text make such a text. -/
theorem ReturnsPaired.pair {text : Text} (h : ReturnsPaired text) : ReturnsPaired ('\r' :: '\n' :: text) := by
  rw [← returnsPaired_iff] at h ⊢
  simp [returnsPaired, h]

/-- So does any character but a carriage return. -/
theorem ReturnsPaired.cons_of_ne {text : Text} (h : ReturnsPaired text) {c : Char} (hc : c ≠ '\r') :
    ReturnsPaired (c :: text) := by
  rw [← returnsPaired_iff] at h ⊢
  simp [returnsPaired, h, hc]

/-- A carriage return is followed by a line feed. -/
theorem ReturnsPaired.exists_eq_cons {text : Text} (h : ReturnsPaired ('\r' :: text)) :
    ∃ rest, text = '\n' :: rest :=
  List.head?_eq_some_iff.1 (h [] text rfl)

theorem ReturnsPaired.stripMark {text : Text} (h : ReturnsPaired text) : ReturnsPaired (stripMark text) := by
  cases text with
  | nil => exact h
  | cons c text =>
    rw [Text.stripMark]
    split
    · exact h.tail
    · exact h

/-- Carriage returns that are put in front of line feeds have them. -/
theorem returnsPaired_withReturns {text : Text} (h : '\r' ∉ text) : ReturnsPaired (withReturns text) := by
  induction text with
  | nil => exact returnsPaired_of_not_mem h
  | cons c text ih =>
    obtain ⟨hc, hrest⟩ := not_or.1 (mt List.mem_cons.2 h)
    rw [withReturns]
    split
    · exact (ih hrest).pair
    · exact (ih hrest).cons_of_ne (Ne.symm hc)

/-- Carriage returns in front of line feeds put no mark in front of the text. -/
theorem head?_withReturns_ne {text : Text} (h : text.head? ≠ some byteOrderMark) :
    (withReturns text).head? ≠ some byteOrderMark := by
  cases text with
  | nil => exact h
  | cons c text =>
    rw [withReturns]
    split
    next => exact fun heq => absurd (Option.some.inj heq) (by decide)
    next => exact h

/-! ### Lines -/

/-- Carriage returns part no lines. -/
theorem lines_withoutReturns (text : Text) : lines (withoutReturns text) = (lines text).map withoutReturns := by
  induction text with
  | nil => rfl
  | cons c text ih =>
    by_cases hfeed : c = '\n'
    · rw [hfeed, withoutReturns_cons_of_ne (by decide), lines_lineFeed, lines_lineFeed, ih, List.map_cons,
        withoutReturns_nil]
    · obtain ⟨line, rest, hline⟩ := exists_lines_eq_cons text
      rw [hline, List.map_cons] at ih
      rw [lines_cons_of_ne hfeed hline, List.map_cons]
      by_cases hreturn : c = '\r'
      · rw [hreturn, withoutReturns_return, withoutReturns_return, ih]
      · rw [withoutReturns_cons_of_ne hreturn, withoutReturns_cons_of_ne hreturn, lines_cons_of_ne hfeed ih]

/-- A block of lines without its carriage returns is one of the lines without theirs. -/
theorem withoutReturns_endLines (block : List Text) :
    withoutReturns (endLines block) = endLines (block.map withoutReturns) := by
  induction block with
  | nil => rfl
  | cons line block ih =>
    rw [List.map_cons, endLines_cons, endLines_cons, withoutReturns_append,
      withoutReturns_cons_of_ne (by decide), ih]

/-- **A line has one carriage return at most, and that at its end.** -/
theorem ReturnsPaired.eq_of_mem_lines {text : Text} (h : ReturnsPaired text) {line : Text}
    (hline : line ∈ lines text) : line = withoutReturns line ∨ line = withoutReturns line ++ ['\r'] := by
  induction text generalizing line with
  | nil =>
    rw [List.mem_singleton.1 hline]
    exact .inl rfl
  | cons c text ih =>
    by_cases hfeed : c = '\n'
    · rw [hfeed, lines_lineFeed] at hline
      rcases List.mem_cons.1 hline with rfl | hline
      · exact .inl rfl
      · exact ih h.tail hline
    · obtain ⟨first, rest, hfirst⟩ := exists_lines_eq_cons text
      rw [lines_cons_of_ne hfeed hfirst] at hline
      rcases List.mem_cons.1 hline with rfl | hline
      · by_cases hreturn : c = '\r'
        · -- the line feed comes next, so that the line ends here
          subst hreturn
          obtain ⟨after, rfl⟩ := h.exists_eq_cons
          rw [lines_lineFeed] at hfirst
          rw [← (List.cons.inj hfirst).1]
          exact .inr rfl
        · rw [withoutReturns_cons_of_ne hreturn, List.cons_append, List.cons_inj_right, List.cons_inj_right]
          exact ih h.tail (hfirst ▸ List.mem_cons_self)
      · exact ih h.tail (hfirst ▸ List.mem_cons_of_mem first hline)

/-- A reader that sees no carriage return behind a line reads the lines as they are without any. -/
theorem ReturnsPaired.read_withoutReturns {α : Type} {read : Text → α}
    (hread : ∀ line, read (line ++ ['\r']) = read line) {text : Text} (paired : ReturnsPaired text)
    {line : Text} (h : line ∈ lines text) : read (withoutReturns line) = read line := by
  rcases paired.eq_of_mem_lines h with hline | hline
  · rw [← hline]
  · rw [← hread, ← hline]

end UsingAdvisor.Text
