import UsingAdvisor.Text.Lines

/-!
# Texts as lists of lines

The line feeds of a text cut it into its lines, and everything that is known about the lines follows from
one equation: `lines_append_lineFeed`, the lines of two texts with a line feed between them. A text can
therefore be cut in front of each of its lines (`exists_eq_endLines_append`), and a block of lines that is
put there is a block of the new text's lines (`lines_endLines_append`).

The second half says what counting through the last accepted line, and reading the first line ending, make
of texts put together. Carriage returns are ordinary characters here; `ReturnsPaired` says of a text that
none of them stands without its line feed.
-/

namespace UsingAdvisor.Text

/-- Every carriage return of the text stands right in front of a line feed. -/
def ReturnsPaired (text : Text) : Prop :=
  ∀ front back, text = front ++ '\r' :: back → back.head? = some '\n'

/-- The test for it: every character is looked at together with the next one. -/
def returnsPaired : Text → Bool
  | [] => true
  | c :: text => (c != '\r' || text.head? == some '\n') && returnsPaired text

theorem returnsPaired_iff {text : Text} : returnsPaired text = true ↔ ReturnsPaired text := by
  induction text with
  | nil => simp [returnsPaired, ReturnsPaired]
  | cons c text ih =>
    simp only [returnsPaired, Bool.and_eq_true, ih, Bool.or_eq_true, bne_iff_ne, beq_iff_eq]
    constructor
    · rintro ⟨hc, hrest⟩ front back heq
      cases front with
      | nil =>
        obtain ⟨rfl, rfl⟩ := List.cons.inj heq
        exact hc.resolve_left fun hne => hne rfl
      | cons d front => exact hrest front back (List.cons.inj heq).2
    · intro h
      refine ⟨?_, fun front back heq => h (c :: front) back (by rw [heq, List.cons_append])⟩
      rw [Classical.or_iff_not_imp_left, Decidable.not_not]
      rintro rfl
      exact h [] text rfl

instance : DecidablePred ReturnsPaired :=
  fun _ => decidable_of_iff _ returnsPaired_iff

/-- What follows a beginning of such a text is such a text. -/
theorem ReturnsPaired.of_append (front : Text) {back : Text} (h : ReturnsPaired (front ++ back)) :
    ReturnsPaired back :=
  fun before after heq => h (front ++ before) after (by rw [heq, List.append_assoc])

/-- What follows the first character of such a text is such a text. -/
theorem ReturnsPaired.tail {c : Char} {text : Text} (h : ReturnsPaired (c :: text)) : ReturnsPaired text :=
  ReturnsPaired.of_append [c] h

/-- The number of carriage returns that stand without a line feed. -/
def loneReturns : Text → Nat
  | [] => 0
  | c :: text => (if c = '\r' ∧ text.head? ≠ some '\n' then 1 else 0) + loneReturns text

theorem loneReturns_cons_of_ne {c : Char} (h : c ≠ '\r') (text : Text) :
    loneReturns (c :: text) = loneReturns text := by
  rw [loneReturns, if_neg fun hreturn => h hreturn.1, Nat.zero_add]

theorem loneReturns_eq_zero_iff {text : Text} : loneReturns text = 0 ↔ ReturnsPaired text := by
  rw [← returnsPaired_iff]
  induction text with
  | nil => simp [loneReturns, returnsPaired]
  | cons c text ih =>
    rw [loneReturns, Nat.add_eq_zero_iff, ih, returnsPaired, Bool.and_eq_true]
    refine and_congr_left' ?_
    simp [Classical.or_iff_not_imp_left]

/-- The text is empty or ends with a line feed, so that a line starts after it. -/
def EndsLine (text : Text) : Prop :=
  ∀ c ∈ text.getLast?, c = '\n'

-- the last character is looked at alone: a search for the instance may find one that runs over every character
instance : DecidablePred EndsLine :=
  fun text => Option.decidableForallMem text.getLast?

theorem endsLine_nil : EndsLine [] := by
  simp [EndsLine]

/-- What is left of such a text behind a character is such a text. -/
theorem EndsLine.tail {c : Char} {text : Text} (h : EndsLine (c :: text)) : EndsLine text := by
  cases text with
  | nil => exact endsLine_nil
  | cons d text => rwa [EndsLine, List.getLast?_cons_cons] at h

/-- One more character in front of such a text makes such a text, unless it stands alone. -/
theorem EndsLine.cons {text : Text} (h : EndsLine text) (hne : text ≠ []) (c : Char) :
    EndsLine (c :: text) := by
  cases text with
  | nil => contradiction
  | cons d text => rwa [EndsLine, List.getLast?_cons_cons]

/-- Two such texts make one. -/
theorem EndsLine.append {front back : Text} (hfront : EndsLine front) (hback : EndsLine back) :
    EndsLine (front ++ back) := by
  intro c hc
  rw [List.getLast?_append] at hc
  cases hlast : back.getLast? with
  | none => exact hfront c (by simpa [hlast] using hc)
  | some d => exact hback c (by simpa [hlast] using hc)

/-- What ends such a text is such a text. -/
theorem EndsLine.of_append {front back : Text} (h : EndsLine (front ++ back)) : EndsLine back := by
  induction front with
  | nil => exact h
  | cons c front ih => exact ih h.tail

/-- Such a text is empty or a text with a line feed behind it. -/
theorem EndsLine.exists_eq_append {text : Text} (h : EndsLine text) (hne : text ≠ []) :
    ∃ front, text = front ++ ['\n'] := by
  refine ⟨text.dropLast, ?_⟩
  have hlast := h _ (List.getLast?_eq_some_getLast hne)
  rw [← hlast, List.dropLast_concat_getLast]

/-- Such a text has a line feed, unless it is empty. -/
theorem EndsLine.lineFeed_mem {text : Text} (h : EndsLine text) (hne : text ≠ []) : '\n' ∈ text := by
  have hlast := List.getLast?_eq_some_getLast hne
  exact h _ hlast ▸ List.mem_of_getLast? hlast

/-- The beginning of a text without lone carriage returns has none, if it ends its last line. -/
theorem ReturnsPaired.of_endsLine {front back : Text} (paired : ReturnsPaired (front ++ back))
    (ends : EndsLine front) : ReturnsPaired front := by
  intro before after heq
  have hhead := paired before (after ++ back) (by rw [heq, List.append_assoc, List.cons_append])
  cases after with
  | nil =>
    have hlast : '\r' = '\n' := ends '\r' (by simp [heq])
    exact absurd hlast (by decide)
  | cons d after => exact hhead

/-! ### The mark in front -/

/-- The mark is looked for in the first character only. -/
theorem stripMark_append {front : Text} (h : front ≠ []) (back : Text) :
    stripMark (front ++ back) = stripMark front ++ back := by
  cases front with
  | nil => contradiction
  | cons c front =>
    simp only [List.cons_append, stripMark]
    split <;> rfl

theorem stripMark_of_head?_ne {text : Text} (h : text.head? ≠ some byteOrderMark) :
    stripMark text = text := by
  cases text with
  | nil => rfl
  | cons c text => exact if_neg (by simpa using h)

/-- The mark is no line feed. -/
theorem count_stripMark (text : Text) : (stripMark text).count '\n' = text.count '\n' := by
  cases text with
  | nil => rfl
  | cons c text =>
    by_cases hc : c = byteOrderMark
    · rw [stripMark, if_pos hc, hc, List.count_cons_of_ne (by decide)]
    · rw [stripMark, if_neg hc]

@[simp]
theorem stripMark_mark (text : Text) : stripMark (byteOrderMark :: text) = text := by
  rw [stripMark, if_pos rfl]

/-- Where a text is cut without its mark, it is cut with it. -/
theorem exists_eq_append_of_stripMark {text part rest : Text} (h : stripMark text = part ++ rest) :
    ∃ front, text = front ++ rest ∧ stripMark front = part := by
  by_cases hmark : text.head? = some byteOrderMark
  · obtain ⟨tail, rfl⟩ := List.head?_eq_some_iff.1 hmark
    rw [stripMark_mark] at h
    exact ⟨byteOrderMark :: part, by rw [h, List.cons_append], stripMark_mark part⟩
  · rw [stripMark_of_head?_ne hmark] at h
    refine ⟨part, h, stripMark_of_head?_ne fun hhead => hmark ?_⟩
    rw [h, List.head?_append, hhead, Option.some_or]

/-- A text that ends its last line without its mark does so with it, unless it is the mark alone. -/
theorem endsLine_or_eq_of_stripMark {text : Text} (h : EndsLine (stripMark text)) :
    EndsLine text ∨ text = [byteOrderMark] := by
  by_cases hmark : text.head? = some byteOrderMark
  · obtain ⟨rest, rfl⟩ := List.head?_eq_some_iff.1 hmark
    rw [stripMark_mark] at h
    by_cases hne : rest = []
    · exact .inr (by rw [hne])
    · exact .inl (h.cons hne byteOrderMark)
  · rw [stripMark_of_head?_ne hmark] at h
    exact .inl h

/-! ### Cutting at a line feed -/

/-- A character that is no line feed belongs to the first line. -/
theorem lines_cons_of_ne {c : Char} (hc : c ≠ '\n') {text line : Text} {rest : List Text}
    (h : lines text = line :: rest) : lines (c :: text) = (c :: line) :: rest := by
  simp [lines, hc, h]

/-- Every text has a first line. -/
theorem exists_lines_eq_cons (text : Text) : ∃ line rest, lines text = line :: rest :=
  List.exists_cons_of_ne_nil (lines_ne_nil text)

/-- The lines of two texts with a line feed between them are the lines of the one and the lines of the
other. -/
theorem lines_append_lineFeed (front back : Text) :
    lines (front ++ '\n' :: back) = lines front ++ lines back := by
  induction front with
  | nil => simp [lines]
  | cons c front ih =>
    by_cases hc : c = '\n'
    · rw [hc, List.cons_append, lines_lineFeed, lines_lineFeed, ih, List.cons_append]
    · obtain ⟨line, rest, hline⟩ := exists_lines_eq_cons front
      have hboth : lines (front ++ '\n' :: back) = line :: (rest ++ lines back) := by
        rw [ih, hline, List.cons_append]
      rw [List.cons_append, lines_cons_of_ne hc hboth, lines_cons_of_ne hc hline,
        List.cons_append]

/-- A text without line feeds is one line. -/
theorem lines_of_not_mem {text : Text} (h : '\n' ∉ text) : lines text = [text] := by
  induction text with
  | nil => rfl
  | cons c text ih =>
    simp only [List.mem_cons, not_or] at h
    exact lines_cons_of_ne (Ne.symm h.1) (ih h.2)

/-- No line holds a line feed. -/
theorem not_mem_of_mem_lines {text line : Text} (h : line ∈ lines text) : '\n' ∉ line := by
  induction text generalizing line with
  | nil => simp_all [lines]
  | cons c text ih =>
    by_cases hc : c = '\n'
    · rw [hc, lines_lineFeed] at h
      rcases List.mem_cons.1 h with rfl | h
      · simp
      · exact ih h
    · obtain ⟨first, rest, hfirst⟩ := exists_lines_eq_cons text
      rw [lines_cons_of_ne hc hfirst] at h
      rw [hfirst] at ih
      rcases List.mem_cons.1 h with rfl | h
      · simp only [List.mem_cons, not_or]
        exact ⟨Ne.symm hc, ih List.mem_cons_self⟩
      · exact ih (List.mem_cons_of_mem _ h)

/-- There is one line more than there are line feeds. -/
theorem length_lines (text : Text) : (lines text).length = text.count '\n' + 1 := by
  induction text with
  | nil => rfl
  | cons c text ih =>
    by_cases hc : c = '\n'
    · rw [hc, lines_lineFeed, List.length_cons, ih, List.count_cons_self]
    · obtain ⟨line, rest, hline⟩ := exists_lines_eq_cons text
      rw [lines_cons_of_ne hc hline, List.count_cons_of_ne hc, ← ih, hline, List.length_cons,
        List.length_cons]

/-- A text with one line is that line. -/
theorem eq_of_lines_eq_singleton {text line : Text} (h : lines text = [line]) : text = line := by
  have hcount : text.count '\n' = 0 := by
    have hlength := length_lines text
    rw [h, List.length_singleton] at hlength
    omega
  rw [lines_of_not_mem (List.count_eq_zero.1 hcount)] at h
  exact List.singleton_inj.1 h

/-- Characters other than line feeds belong to the first line behind them. -/
theorem lines_append_of_not_mem {word text line : Text} {rest : List Text} (hfeed : '\n' ∉ word)
    (h : lines text = line :: rest) : lines (word ++ text) = (word ++ line) :: rest := by
  induction word with
  | nil => exact h
  | cons c word ih =>
    obtain ⟨hc, hword⟩ := not_or.1 (mt List.mem_cons.2 hfeed)
    exact lines_cons_of_ne (Ne.symm hc) (ih hword)

/-- Behind a line feed the lines start anew. -/
theorem exists_lines_append {front : Text} (ends : EndsLine front) (back : Text) :
    ∃ above, above.length = front.count '\n' ∧ lines (front ++ back) = above ++ lines back := by
  by_cases hne : front = []
  · exact ⟨[], by rw [hne, List.count_nil, List.length_nil], by rw [hne, List.nil_append, List.nil_append]⟩
  · obtain ⟨front, rfl⟩ := ends.exists_eq_append hne
    refine ⟨lines front, ?_, ?_⟩
    · rw [length_lines, List.count_append, List.count_singleton_self]
    · rw [List.append_assoc, List.singleton_append, lines_append_lineFeed]

/-! ### Blocks of lines -/

/-- The text of a block of lines, each ended by a line feed. -/
def endLines (block : List Text) : Text :=
  block.flatMap fun line => line ++ ['\n']

@[simp]
theorem endLines_nil : endLines [] = [] := rfl

@[simp]
theorem endLines_cons (line : Text) (block : List Text) :
    endLines (line :: block) = line ++ '\n' :: endLines block := by
  simp [endLines]

@[simp]
theorem endLines_append (first second : List Text) :
    endLines (first ++ second) = endLines first ++ endLines second := by
  simp [endLines]

/-- The lines of a block in front of a text are lines of the whole. -/
theorem lines_endLines_append {block : List Text} (h : ∀ line ∈ block, '\n' ∉ line) (back : Text) :
    lines (endLines block ++ back) = block ++ lines back := by
  induction block with
  | nil => rfl
  | cons line block ih =>
    rw [List.forall_mem_cons] at h
    rw [endLines_cons, List.append_assoc, List.cons_append, lines_append_lineFeed,
      lines_of_not_mem h.1, ih h.2]
    rfl

/-- A block has as many line feeds as lines. -/
theorem count_endLines {block : List Text} (h : ∀ line ∈ block, '\n' ∉ line) :
    (endLines block).count '\n' = block.length := by
  induction block with
  | nil => rfl
  | cons line block ih =>
    rw [List.forall_mem_cons] at h
    rw [endLines_cons, List.count_append, List.count_eq_zero.2 h.1, List.count_cons_self, ih h.2,
      List.length_cons, Nat.zero_add]

/-- A block ends its last line. -/
theorem endsLine_endLines (block : List Text) : EndsLine (endLines block) := by
  rcases block.eq_nil_or_concat with rfl | ⟨front, line, rfl⟩
  · exact endsLine_nil
  · simp [EndsLine, endLines, List.concat_eq_append]

/-- Below its first line a text goes on behind a line feed. -/
theorem exists_eq_append_lineFeed {text line : Text} {rest : List Text}
    (h : lines text = line :: rest) (hrest : rest ≠ []) :
    ∃ back, text = line ++ '\n' :: back ∧ lines back = rest := by
  induction text generalizing line with
  | nil => simp_all [lines]
  | cons c text ih =>
    by_cases hc : c = '\n'
    · rw [hc, lines_lineFeed] at h
      obtain ⟨rfl, hlines⟩ := List.cons.inj h
      exact ⟨text, by rw [hc]; rfl, hlines⟩
    · obtain ⟨first, others, hfirst⟩ := exists_lines_eq_cons text
      rw [lines_cons_of_ne hc hfirst] at h
      obtain ⟨rfl, rfl⟩ := List.cons.inj h
      obtain ⟨back, rfl, hback⟩ := ih hfirst
      exact ⟨back, rfl, hback⟩

/-- A text starts with its first line. -/
theorem prefix_of_lines_eq_cons {text line : Text} {rest : List Text} (h : lines text = line :: rest) :
    line <+: text := by
  cases rest with
  | nil => exact (eq_of_lines_eq_singleton h) ▸ List.prefix_refl line
  | cons next rest =>
    obtain ⟨back, rfl, -⟩ := exists_eq_append_lineFeed h (List.cons_ne_nil next rest)
    exact List.prefix_append line _

/-- A text can be cut in front of each of its lines. -/
theorem exists_eq_endLines_append {text : Text} {number : Nat} (h : number < (lines text).length) :
    ∃ back, text = endLines ((lines text).take number) ++ back ∧
      lines back = (lines text).drop number := by
  induction number generalizing text with
  | zero => exact ⟨text, rfl, rfl⟩
  | succ number ih =>
    obtain ⟨line, rest, hline⟩ := exists_lines_eq_cons text
    rw [hline, List.length_cons] at h
    have hrest : rest ≠ [] := List.ne_nil_of_length_pos (by omega)
    -- the first line is cut off, and the rest is cut one line higher
    obtain ⟨after, rfl, hafter⟩ := exists_eq_append_lineFeed hline hrest
    obtain ⟨back, hback, hlines⟩ := @ih after (by rw [hafter]; omega)
    refine ⟨back, ?_, ?_⟩
    · rw [hline, List.take_succ_cons, endLines_cons, ← hafter, List.append_assoc, List.cons_append,
        ← hback]
    · rw [hline, List.drop_succ_cons, ← hafter, hlines]

/-! ### Counting through the last accepted line -/

/-- Below a line that counts, the line in front adds one. -/
theorem countThroughLast_cons_of_ne_zero {accept : Text → Bool} {block : List Text}
    (h : countThroughLast accept block ≠ 0) (line : Text) :
    countThroughLast accept (line :: block) = countThroughLast accept block + 1 := by
  obtain ⟨below, hbelow⟩ := Nat.exists_eq_succ_of_ne_zero h
  rw [countThroughLast, hbelow]

/-- The last accepted line of two blocks is that of the second, if there is one. -/
theorem countThroughLast_append (accept : Text → Bool) (first second : List Text) :
    countThroughLast accept (first ++ second) =
      if countThroughLast accept second = 0 then countThroughLast accept first
      else first.length + countThroughLast accept second := by
  induction first with
  | nil => by_cases h : countThroughLast accept second = 0 <;> simp [h, countThroughLast]
  | cons line first ih =>
    by_cases h : countThroughLast accept second = 0
    · rw [if_pos h] at ih ⊢
      rw [List.cons_append, countThroughLast, ih, countThroughLast]
    · rw [if_neg h] at ih ⊢
      have hne : countThroughLast accept (first ++ second) ≠ 0 := by omega
      rw [List.cons_append, countThroughLast_cons_of_ne_zero hne, ih, List.length_cons]
      omega

/-- No line counts exactly if none is accepted. -/
theorem countThroughLast_eq_zero_iff {accept : Text → Bool} {block : List Text} :
    countThroughLast accept block = 0 ↔ ∀ line ∈ block, accept line = false := by
  induction block with
  | nil => simp [countThroughLast]
  | cons line block ih =>
    rw [List.forall_mem_cons, ← ih, countThroughLast]
    split
    next h => simp [h]
    next below h => simp [h]

/-- Lines that are accepted alike count alike. -/
theorem countThroughLast_map {accept : Text → Bool} {f : Text → Text} {block : List Text}
    (h : ∀ line ∈ block, accept (f line) = accept line) :
    countThroughLast accept (block.map f) = countThroughLast accept block := by
  induction block with
  | nil => rfl
  | cons line block ih =>
    obtain ⟨hline, hblock⟩ := List.forall_mem_cons.1 h
    rw [List.map_cons, countThroughLast, countThroughLast, ih hblock, hline]

/-- The lines that count end with an accepted one, and no line below them is accepted. -/
theorem exists_countThroughLast_split (accept : Text → Bool) (block : List Text) :
    ∃ above below, block = above ++ below ∧ above.length = countThroughLast accept block ∧
      (∀ line ∈ above.getLast?, accept line = true) ∧ ∀ line ∈ below, accept line = false := by
  induction block with
  | nil => exact ⟨[], [], rfl, rfl, by simp, by simp⟩
  | cons first block ih =>
    rw [countThroughLast]
    split
    next hzero =>
      have hbelow := countThroughLast_eq_zero_iff.1 hzero
      cases hfirst : accept first with
      | true => exact ⟨[first], block, rfl, rfl, by simp [hfirst], hbelow⟩
      | false => exact ⟨[], first :: block, rfl, rfl, by simp, by simpa [hfirst] using hbelow⟩
    next number hnumber =>
      obtain ⟨above, below, rfl, hlength, habove, hbelow⟩ := ih
      obtain ⟨line, rest, rfl⟩ := List.exists_cons_of_length_pos (by omega : 0 < above.length)
      refine ⟨first :: line :: rest, below, rfl, ?_, ?_, hbelow⟩
      · rw [List.length_cons, hlength, hnumber]
      · rwa [List.getLast?_cons_cons]

/-! ### The first line ending -/

/-- The first line feed decides how a text ends its lines. -/
theorem lineEnding_append {front : Text} (h : '\n' ∈ front) (back : Text) :
    lineEnding (front ++ back) = lineEnding front := by
  fun_induction lineEnding front with
  | case1 => simp at h
  | case2 front => simp [lineEnding]
  | case3 front => simp [lineEnding]
  | case4 c front hfeed hpair ih =>
    have hc : c ≠ '\n' := fun heq => hfeed heq
    have hmem : '\n' ∈ front := by simpa [Ne.symm hc] using h
    rw [← ih hmem, List.cons_append]
    refine lineEnding.eq_4 _ _ hfeed fun rest hreturn heq => ?_
    cases front with
    | nil => simp at hmem
    | cons d front => exact hpair front hreturn (by simp_all)

/-- A character that is part of no line break decides nothing. -/
theorem lineEnding_cons_of_ne {c : Char} (hfeed : c ≠ '\n') (hreturn : c ≠ '\r') (text : Text) :
    lineEnding (c :: text) = lineEnding text :=
  lineEnding.eq_4 _ _ hfeed fun _ heq _ => hreturn heq

/-- A text ends its lines as it ends the first one. -/
theorem lineEnding_line {line : Text} (hfeed : '\n' ∉ line) (hreturn : '\r' ∉ line)
    (ending : LineEnding) (back : Text) : lineEnding (line ++ (ending.text ++ back)) = ending := by
  induction line with
  | nil => cases ending <;> rfl
  | cons c line ih =>
    simp only [List.mem_cons, not_or] at hfeed hreturn
    rw [List.cons_append, lineEnding_cons_of_ne (Ne.symm hfeed.1) (Ne.symm hreturn.1),
      ih hfeed.2 hreturn.2]

end UsingAdvisor.Text
