import UsingAdvisor.Proofs.Source.Blocks

/-!
# Blocks of texts put together

The headers of two texts put together stand where they stood, if the first text ends its last line and no header
of it can reach into the second one (`places_append`). The texts in front of the headers have no say in their
blocks (`Place.block?_behind`), so the second text keeps its blocks. A header of the first text may come to reach
further; how far, and through which closing line, is told by the two parts of the text behind it: the keyword is
looked for in the first part and then in the second (`breakAt_stop`), the last closing line in the second part and
then in the first (`throughLastClosing?_append_lineFeed`).
-/

namespace UsingAdvisor.Source

open Text (EndsLine breakAt startsWith)

/-! ### Places -/

namespace Place

/-- The place, in a text that goes on with `more`. -/
def inFrontOf (more : Text) (place : Place) : Place :=
  { place with rest := place.rest ++ more }

/-- The place, in a text that has `before` in front of it. -/
def behind (before : Text) (place : Place) : Place :=
  { place with front := before ++ place.front }

theorem inFrontOf_append (more further : Text) (place : Place) :
    place.inFrontOf (more ++ further) = (place.inFrontOf more).inFrontOf further := by
  rw [inFrontOf, ← List.append_assoc]
  rfl

/-- What stands in front of a header has no say in its block. -/
theorem block?_behind (before : Text) (place : Place) : (place.behind before).block? = place.block? := by
  simp only [block?, Block.ofHeader, after, behind]
  split
  · rfl
  · split <;> rfl

/-- Behind the start of a line the search for headers starts anew. -/
theorem listFrom_append_behind {outer : Text} (h : Cursor.startsLine outer = true) (inner ahead : Text) :
    listFrom (inner ++ outer) ahead = (listFrom inner ahead).map (behind outer.reverse) := by
  induction ahead generalizing inner with
  | nil => rfl
  | cons c ahead ih =>
    have hsame : Cursor.startsLine (inner ++ outer) = Cursor.startsLine inner := by
      cases inner with
      | nil => exact h
      | cons d inner => rfl
    have hnext := ih (c :: inner)
    rw [List.cons_append] at hnext
    rw [listFrom, listFrom, hsame]
    split
    next header rest hread =>
      rw [hnext, List.map_cons, behind, List.reverse_append]
    next => exact hnext

/-- The headers in front of a text apart stand where they stood. -/
theorem listFrom_append_text {behind front back : Text} (hends : EndsLine front)
    (hback : Header.Apart back) :
    listFrom behind (front ++ back) =
      (listFrom behind front).map (inFrontOf back) ++ listFrom (front.reverse ++ behind) back := by
  induction front generalizing behind with
  | nil => rfl
  | cons c front ih =>
    -- a header is read here in both texts, or in neither of them
    have hread : (if Cursor.startsLine behind then Header.read? (c :: (front ++ back)) else none) =
        (if Cursor.startsLine behind then Header.read? (c :: front) else none).map
          fun read => (read.1, read.2 ++ back) := by
      split
      · exact Header.read?_append hends (List.cons_ne_nil c front) hback
      · rfl
    have hnext : listFrom (c :: behind) (front ++ back) = (listFrom (c :: behind) front).map (inFrontOf back) ++
        listFrom (front.reverse ++ c :: behind) back := ih hends.tail
    rw [List.reverse_cons, List.append_assoc, List.singleton_append, List.cons_append, listFrom, listFrom,
      hread]
    cases hfound : (if Cursor.startsLine behind then Header.read? (c :: front) else none) with
    | none => exact hnext
    | some read =>
      simp only [Option.map_some]
      rw [hnext, List.map_cons, List.cons_append, inFrontOf]

end Place

/-- **The headers of two texts put together stand where they stood.** -/
theorem places_append {front back : Text} (hends : EndsLine front) (hback : Header.Apart back) :
    places (front ++ back) =
      (places front).map (Place.inFrontOf back) ++ (places back).map (Place.behind front) := by
  have hbehind := Place.listFrom_append_behind (Place.startsLine_reverse_iff.2 hends) [] back
  rw [List.nil_append, List.reverse_reverse] at hbehind
  rw [places, Place.listFrom_append_text hends hback, List.append_nil, hbehind, places, places]

/-- A line that the search passes holds no header. -/
theorem places_line {line : Text} (h : Passed line) (back : Text) :
    places (line ++ '\n' :: back) = (places back).map (Place.behind (line ++ ['\n'])) := by
  have hends : EndsLine (line ++ ['\n']) := by simp [EndsLine]
  obtain ⟨hfeed, ⟨first, rest, rfl, -⟩, hhead⟩ := h
  have hfirst : first ≠ 'n' := by simpa using hhead
  have hbehind := Place.listFrom_append_behind (Place.startsLine_reverse_iff.2 hends) [] back
  rw [List.nil_append, List.reverse_reverse] at hbehind
  have hpassed : Place.listFrom [] (first :: rest ++ ['\n'] ++ back) =
      Place.listFrom ((first :: rest ++ ['\n']).reverse ++ []) back := by
    refine Place.listFrom_append fun before c tail heq hstart => ?_
    -- the front of the line starts no header, and no other place in it starts a line
    cases before with
    | nil =>
      obtain ⟨rfl, -⟩ := List.cons.inj heq
      exact Header.read?_eq_none hfirst _
    | cons d before =>
      rw [List.append_nil, Place.startsLine_reverse_iff] at hstart
      have hmem : '\n' ∈ d :: before := hstart.lineFeed_mem (List.cons_ne_nil d before)
      have hfront : d :: before <+: first :: rest := by
        refine List.prefix_of_prefix_length_le ⟨c :: tail, heq.symm⟩ (List.prefix_append _ ['\n']) ?_
        have hlength := congrArg List.length heq
        simp only [List.length_append, List.length_cons, List.length_nil] at hlength ⊢
        omega
      exact absurd (hfront.subset hmem) hfeed
  rw [List.append_nil, hbehind, List.append_assoc, List.singleton_append] at hpassed
  exact hpassed

/-! ### The reach of a header -/

/-- The first occurrence of a word that does not go on behind the character `c`: it is looked for in front of
the character, and then behind it. -/
theorem breakAt_stop {word : Text} {c : Char} (h : c ∉ word) (hne : word ≠ []) (front back : Text) :
    breakAt word (front ++ c :: back) =
      if (breakAt word front).2 = [] then (front ++ c :: (breakAt word back).1, (breakAt word back).2)
      else ((breakAt word front).1, (breakAt word front).2 ++ c :: back) := by
  have hstarts (part : Text) : startsWith word (part ++ c :: back) = startsWith word part := by
    rw [startsWith, Text.dropFront?_stop h, Option.isSome_map, startsWith]
  induction front with
  | nil =>
    have hnone : startsWith word (c :: back) = false := by
      cases word with
      | nil => exact absurd rfl hne
      | cons w word => exact hstarts []
    have hnext : breakAt word (c :: back) = (c :: (breakAt word back).1, (breakAt word back).2) := by
      rw [breakAt, hnone, if_neg Bool.false_ne_true]
    exact hnext
  | cons d front ih =>
    rw [List.cons_append, breakAt, ← List.cons_append, hstarts, breakAt]
    by_cases hfound : startsWith word (d :: front) = true
    · rw [if_pos hfound, if_pos hfound]
      simp
    · rw [if_neg hfound, if_neg hfound, ih]
      split <;> rfl

/-- Where the word does not occur, nothing is left. -/
theorem breakAt_of_not_infix {word text : Text} (h : ¬ word <:+: text) :
    breakAt word text = (text, []) := by
  have happend := Text.breakAt_append word text
  rcases breakAt_snd word text with hnil | hword
  · rw [hnil, List.append_nil] at happend
    exact Prod.ext happend hnil
  · have hsuffix : (breakAt word text).2 <:+ text := ⟨_, happend⟩
    exact absurd (hword.isInfix.trans hsuffix.isInfix) h

/-! ### The last closing line -/

/-- **The last closing line of two texts with a line feed between them** is that of the second, if there is one
in it, and else that of the first. -/
theorem Block.throughLastClosing?_append_lineFeed (closed fresh : Bool) (front back : Text) :
    throughLastClosing? closed fresh (front ++ '\n' :: back) =
      match throughLastClosing? closed true back with
      | some inside => some (front ++ '\n' :: inside)
      | none => throughLastClosing? true fresh front := by
  induction front generalizing fresh with
  | nil =>
    have hbrace : ('\n' == '}') = false := by decide
    rw [List.nil_append, throughLastClosing?.eq_2, throughLastClosing?.eq_1, beq_self_eq_true, hbrace]
    cases throughLastClosing? closed true back with
    | some inside => rfl
    | none => simp
  | cons c front ih =>
    rw [List.cons_append, throughLastClosing?, ih]
    cases throughLastClosing? closed true back with
    | some inside => rfl
    | none =>
      -- behind the first text its last line ends
      have hends : endsLine closed (front ++ '\n' :: back) = endsLine true front := by
        cases front <;> rfl
      rw [throughLastClosing?, hends]

/-- A text without closing braces has no closing line. -/
theorem Block.throughLastClosing?_of_not_mem {text : Text} (h : '}' ∉ text) (closed fresh : Bool) :
    throughLastClosing? closed fresh text = none := by
  induction text generalizing fresh with
  | nil => rfl
  | cons c text ih =>
    obtain ⟨hc, hrest⟩ := not_or.1 (mt List.mem_cons.2 h)
    rw [throughLastClosing?, ih hrest]
    simp [Ne.symm hc]

end UsingAdvisor.Source
