import UsingAdvisor.Proofs.Source.Places
import UsingAdvisor.Source.Block

/-!
# Blocks without a cursor

The search for blocks goes on at three different places: at the end of the reach of a file-scoped namespace,
behind the last closing brace of a block, and right behind a header without a block. No header starts between
the end of a header and any of them, since each lies in the reach of the header and the reach holds no keyword.
So the search visits each header once, and the block of a header is its own (`Place.block?`): it is told by the
text behind the header alone (`Place.Covers`).

Main statement: `blocks_eq_filterMap_places`.
-/

namespace UsingAdvisor.Source

open Text (breakAt startsWith)

/-! ### The reach of a header -/

theorem startsWith_iff {word text : Text} : startsWith word text = true ↔ word <+: text := by
  rw [startsWith, Option.isSome_iff_exists]
  exact exists_congr fun rest => Text.dropFront?_eq_some_iff.trans eq_comm

/-- A text is broken in front of the word or at its end. -/
theorem breakAt_snd (word text : Text) : (breakAt word text).2 = [] ∨ word <+: (breakAt word text).2 := by
  induction text with
  | nil => exact .inl rfl
  | cons c text ih =>
    rw [breakAt]
    split
    next hword => exact .inr (startsWith_iff.1 hword)
    next => exact ih

/-- A text is broken in front of the first occurrence of the word. -/
theorem length_breakAt_le {word before after : Text} (h : word <+: after) :
    (breakAt word (before ++ after)).1.length ≤ before.length := by
  induction before with
  | nil =>
    cases after with
    | nil => exact Nat.le_refl 0
    | cons c after => simp [breakAt, startsWith_iff.2 h]
  | cons c before ih =>
    rw [List.cons_append, breakAt]
    split
    next => exact Nat.zero_le _
    next => exact Nat.succ_le_succ ih

namespace Place

/-- The reach of a header is the text behind it in front of the next occurrence of the keyword, and all of the
text behind it where the keyword does not occur again. -/
structure Reaches (place : Place) (reach beyond : Text) : Prop where
  rest_eq : place.rest = reach ++ beyond
  stops : beyond = [] ∨ Header.keyword <+: beyond
  first : ∀ before after, place.rest = before ++ after → Header.keyword <+: after →
    reach.length ≤ before.length

theorem reaches_breakAt (place : Place) :
    place.Reaches (breakAt Header.keyword place.rest).1 (breakAt Header.keyword place.rest).2 where
  rest_eq := (Text.breakAt_append _ _).symm
  stops := breakAt_snd _ _
  first _ _ hrest hafter := hrest ▸ length_breakAt_le hafter

namespace Reaches

variable {place : Place} {reach beyond : Text}

/-- What another reach would leave does not start earlier. -/
theorem length_le (h : place.Reaches reach beyond) {other more : Text} (hother : place.Reaches other more) :
    reach.length ≤ other.length := by
  rcases hother.stops with hmore | hmore
  · have hlength := congrArg List.length (h.rest_eq.symm.trans hother.rest_eq)
    rw [hmore, List.append_nil, List.length_append] at hlength
    omega
  · exact h.first other more hother.rest_eq hmore

/-- A header has one reach. -/
theorem unique (h : place.Reaches reach beyond) {other more : Text} (hother : place.Reaches other more) :
    reach = other ∧ beyond = more :=
  List.append_inj (h.rest_eq.symm.trans hother.rest_eq)
    (Nat.le_antisymm (h.length_le hother) (hother.length_le h))

/-- A beginning of the reach does not go beyond the start of a keyword. -/
theorem prefix_of_keyword (h : place.Reaches reach beyond) {part before after : Text} (hpart : part <+: reach)
    (hrest : place.rest = before ++ after) (hafter : Header.keyword <+: after) : part <+: before := by
  have hwhole : part <+: place.rest := hpart.trans (h.rest_eq ▸ List.prefix_append reach beyond)
  have hbefore : before <+: place.rest := hrest ▸ List.prefix_append before after
  exact List.prefix_of_prefix_length_le hwhole hbefore
    (Nat.le_trans hpart.length_le (h.first before after hrest hafter))

/-- The keyword does not occur in the reach. -/
theorem not_infix (h : place.Reaches reach beyond) {part : Text} (hpart : part <+: reach) :
    ¬ Header.keyword <:+: part := by
  rintro ⟨before, after, heq⟩
  obtain ⟨left, hleft⟩ := hpart
  have hrest : place.rest = before ++ (Header.keyword ++ (after ++ (left ++ beyond))) := by
    rw [h.rest_eq, ← hleft, ← heq]
    simp
  have hprefix := h.prefix_of_keyword ⟨left, hleft⟩ hrest (List.prefix_append ..)
  have hlength := hprefix.length_le
  rw [← heq, List.length_append, List.length_append] at hlength
  have hpos : 0 < Header.keyword.length := by decide
  omega

end Reaches

end Place

/-! ### The last closing line -/

/-- A line ends in front of `after`, and it holds a closing brace and nothing else: it starts behind a line
feed and ends at another one or with the source. -/
structure Closes (inside after : Text) : Prop where
  line : ['\n', '}'] <:+ inside
  ended : after = [] ∨ ∃ more, after = '\n' :: more

namespace Block

/-- A text ends with a line that holds a closing brace and nothing else; `fresh` tells whether a line starts in
front of the text. -/
def EndsAlone (fresh : Bool) (inside : Text) : Prop :=
  (inside = ['}'] ∧ fresh = true) ∨ ['\n', '}'] <:+ inside

theorem not_endsAlone_nil (fresh : Bool) : ¬ EndsAlone fresh [] := by
  rintro (⟨h, -⟩ | h)
  · cases h
  · cases List.suffix_nil.1 h

theorem endsAlone_singleton_iff {fresh : Bool} {c : Char} :
    EndsAlone fresh [c] ↔ fresh = true ∧ c = '}' := by
  constructor
  · rintro (⟨h, hfresh⟩ | h)
    · exact ⟨hfresh, (List.cons.inj h).1⟩
    · exact absurd h.length_le (by simp)
  · rintro ⟨hfresh, rfl⟩
    exact .inl ⟨rfl, hfresh⟩

/-- Behind its first character a text ends so as the whole text does. -/
theorem endsAlone_cons_iff {fresh : Bool} {c : Char} {inside : Text} (hne : inside ≠ []) :
    EndsAlone fresh (c :: inside) ↔ EndsAlone (c == '\n') inside := by
  rw [EndsAlone, EndsAlone, List.suffix_cons_iff, beq_iff_eq]
  simp [hne, and_comm, eq_comm]

/-- What is found ends with such a line, and behind it the line ends. -/
theorem throughLastClosing?_eq_some {closed fresh : Bool} {text inside : Text}
    (h : throughLastClosing? closed fresh text = some inside) :
    ∃ after, text = inside ++ after ∧ EndsAlone fresh inside ∧ endsLine closed after = true := by
  induction text generalizing fresh inside with
  | nil => cases h
  | cons c text ih =>
    rw [throughLastClosing?] at h
    split at h
    next found hfound =>
      obtain ⟨after, htext, halone, hends⟩ := ih hfound
      have hne : found ≠ [] := by
        rintro rfl
        exact not_endsAlone_nil _ halone
      cases h
      exact ⟨after, by rw [htext, List.cons_append], (endsAlone_cons_iff hne).2 halone, hends⟩
    next =>
      split at h
      next hlast =>
        simp only [Bool.and_eq_true, beq_iff_eq] at hlast
        cases h
        exact ⟨text, rfl, endsAlone_singleton_iff.2 hlast.1, hlast.2⟩
      next => cases h

/-- Where there is such a line, one is found, and none that ends earlier. -/
theorem exists_throughLastClosing? {closed fresh : Bool} {inside after : Text}
    (halone : EndsAlone fresh inside) (hends : endsLine closed after = true) :
    ∃ found, throughLastClosing? closed fresh (inside ++ after) = some found ∧
      inside.length ≤ found.length := by
  induction inside generalizing fresh with
  | nil => exact absurd halone (not_endsAlone_nil fresh)
  | cons c inside ih =>
    rw [List.cons_append, throughLastClosing?]
    by_cases hne : inside = []
    · subst hne
      -- a later line is found before this one is looked at
      cases hlater : throughLastClosing? closed (c == '\n') ([] ++ after) with
      | some found => exact ⟨c :: found, rfl, by simp⟩
      | none =>
        obtain ⟨hfresh, hbrace⟩ := endsAlone_singleton_iff.1 halone
        exact ⟨[c], by simp [hfresh, hbrace, hends], Nat.le_refl _⟩
    · obtain ⟨found, hfound, hlength⟩ := ih ((endsAlone_cons_iff hne).1 halone)
      rw [hfound]
      exact ⟨c :: found, rfl, Nat.succ_le_succ hlength⟩

/-- The reach of a header ends with the source where nothing is beyond it, and else in front of a keyword, which
is no line feed. -/
theorem endsLine_iff {beyond : Text} (h : beyond = [] ∨ Header.keyword <+: beyond) (after : Text) :
    endsLine beyond.isEmpty after = true ↔
      after ++ beyond = [] ∨ ∃ more, after ++ beyond = '\n' :: more := by
  cases after with
  | nil =>
    rcases h with rfl | ⟨more, rfl⟩
    · simp [endsLine]
    · simp [endsLine, Header.keyword]
  | cons c after => simp [endsLine]

/-- A closing line in the reach of a header, told in the reach and told in the source. -/
theorem endsAlone_and_endsLine_iff {beyond : Text} (h : beyond = [] ∨ Header.keyword <+: beyond)
    (inside after : Text) :
    (EndsAlone false inside ∧ endsLine beyond.isEmpty after = true) ↔ Closes inside (after ++ beyond) := by
  rw [endsLine_iff h]
  constructor
  · rintro ⟨⟨-, hfresh⟩ | hline, hended⟩
    · cases hfresh
    · exact ⟨hline, hended⟩
  · exact fun hcloses => ⟨.inr hcloses.line, hcloses.ended⟩

end Block

/-! ### The block of a header -/

namespace Place

/-- The block of a header, if it has one. -/
def block? (place : Place) : Option Block :=
  (Block.ofHeader place.header place.after).1

/-- What a header covers: a file-scoped namespace all of its reach, and a block in braces its reach through the
last line in it that holds a closing brace and nothing else. -/
inductive Covers (place : Place) : Block → Prop
  | fileScoped {reach beyond : Text} (hopener : place.header.opener = .semicolon)
      (hreach : place.Reaches reach beyond) :
      Covers place ⟨place.header.name, place.header.text ++ reach⟩
  | braced {reach beyond inside after : Text} (hopener : place.header.opener = .brace)
      (hreach : place.Reaches reach beyond) (hinside : inside <+: reach)
      (hrest : place.rest = inside ++ after) (hcloses : Closes inside after)
      (hlast : ∀ further later, further <+: reach → place.rest = further ++ later → Closes further later →
        further.length ≤ inside.length) :
      Covers place ⟨place.header.name, place.header.text ++ inside⟩

/-- A block starts with its header, and what it holds behind the header lies in the reach. -/
theorem Covers.exists_part {place : Place} {block : Block} (h : place.Covers block) :
    ∃ reach beyond part, place.Reaches reach beyond ∧ part <+: reach ∧
      block.body = place.header.text ++ part := by
  cases h with
  | fileScoped hopener hreach => exact ⟨_, _, _, hreach, List.prefix_refl _, rfl⟩
  | braced hopener hreach hinside hrest hcloses hlast => exact ⟨_, _, _, hreach, hinside, rfl⟩

/-- The last closing line in the reach of a header. -/
theorem throughLastClosing?_eq_some_iff {place : Place} {reach beyond inside : Text}
    (hreach : place.Reaches reach beyond) :
    Block.throughLastClosing? beyond.isEmpty false reach = some inside ↔ ∃ after, inside <+: reach ∧
      place.rest = inside ++ after ∧ Closes inside after ∧
      ∀ further later, further <+: reach → place.rest = further ++ later → Closes further later →
        further.length ≤ inside.length := by
  -- a closing line in the reach, and the one that is found when there is one
  have hfound {further later : Text} (hfurther : further <+: reach)
      (hrest : place.rest = further ++ later) (hcloses : Closes further later) :
      ∃ found, Block.throughLastClosing? beyond.isEmpty false reach = some found ∧
        further.length ≤ found.length := by
    obtain ⟨between, rfl⟩ := hfurther
    have hlater : later = between ++ beyond := by
      rw [hreach.rest_eq, List.append_assoc] at hrest
      exact (List.append_cancel_left hrest).symm
    obtain ⟨halone, hends⟩ := (Block.endsAlone_and_endsLine_iff hreach.stops _ _).2 (hlater ▸ hcloses)
    exact Block.exists_throughLastClosing? halone hends
  have hsound {found : Text} (h : Block.throughLastClosing? beyond.isEmpty false reach = some found) :
      ∃ after, found <+: reach ∧ place.rest = found ++ after ∧ Closes found after := by
    obtain ⟨between, heq, hclosing⟩ := Block.throughLastClosing?_eq_some h
    refine ⟨between ++ beyond, heq ▸ List.prefix_append found between, ?_,
      (Block.endsAlone_and_endsLine_iff hreach.stops found between).1 hclosing⟩
    rw [hreach.rest_eq, heq, List.append_assoc]
  constructor
  · intro h
    obtain ⟨after, hinside, hrest, hcloses⟩ := hsound h
    refine ⟨after, hinside, hrest, hcloses, fun further later hfurther hfrest hfcloses => ?_⟩
    obtain ⟨found, hsome, hlength⟩ := hfound hfurther hfrest hfcloses
    rw [h] at hsome
    cases hsome
    exact hlength
  · rintro ⟨after, hinside, hrest, hcloses, hlast⟩
    obtain ⟨found, hsome, hlength⟩ := hfound hinside hrest hcloses
    obtain ⟨later, hprefix, hfrest, hfcloses⟩ := hsound hsome
    have hequal : inside.length = found.length :=
      Nat.le_antisymm hlength (hlast found later hprefix hfrest hfcloses)
    rw [hsome, (List.prefix_of_prefix_length_le hinside hprefix (Nat.le_of_eq hequal)).eq_of_length hequal]

/-- **The block of a header is what the header covers.** -/
theorem block?_eq_some_iff {place : Place} {block : Block} :
    place.block? = some block ↔ place.Covers block := by
  have hreach := place.reaches_breakAt
  simp only [block?, Block.ofHeader, after]
  cases hopener : place.header.opener with
  | semicolon =>
    simp only [Option.some.injEq]
    constructor
    · rintro rfl
      exact .fileScoped hopener hreach
    · rintro (⟨-, hother⟩ | ⟨hbrace, -⟩)
      · rw [(hreach.unique hother).1]
      · rw [hopener] at hbrace; cases hbrace
  | brace =>
    simp only
    constructor
    · intro h
      split at h
      next inside hinside =>
        obtain ⟨after, hprefix, hrest, hcloses, hlast⟩ := (throughLastClosing?_eq_some_iff hreach).1 hinside
        cases h
        exact .braced hopener hreach hprefix hrest hcloses hlast
      next => cases h
    · rintro (⟨hscoped, -⟩ | ⟨-, hother, hprefix, hrest, hcloses, hlast⟩)
      · rw [hopener] at hscoped; cases hscoped
      · obtain ⟨rfl, rfl⟩ := hreach.unique hother
        rw [(throughLastClosing?_eq_some_iff hreach).2 ⟨_, hprefix, hrest, hcloses, hlast⟩]

/-! ### The search for blocks -/

/-- What the search for headers finds is the first header in its place. -/
theorem listFrom_of_next? {behind ahead : Text} {header : Header} {after : Cursor}
    (h : Header.next? behind ahead = some (header, after)) :
    ∃ place, place.header = header ∧ place.after = after ∧
      listFrom behind ahead = place :: listFrom after.behind after.ahead := by
  induction ahead generalizing behind with
  | nil => cases h
  | cons c ahead ih =>
    rw [Header.next?] at h
    split at h
    next found rest hfound =>
      obtain ⟨hstart, hread⟩ := Option.ite_none_right_eq_some.1 hfound
      obtain ⟨rfl, rfl⟩ := Prod.mk.inj (Option.some.inj h)
      exact ⟨⟨behind.reverse, found, rest⟩, rfl, by simp [Place.after, Cursor.pass],
        listFrom_header hstart hread⟩
    next hnone =>
      obtain ⟨place, hheader, hafter, hlist⟩ := ih h
      refine ⟨place, hheader, hafter, hlist ▸ listFrom_cons fun hstart => ?_⟩
      rwa [hstart, if_pos rfl] at hnone

/-- Where the search for headers finds none, there is none. -/
theorem listFrom_of_next?_eq_none {behind ahead : Text} (h : Header.next? behind ahead = none) :
    listFrom behind ahead = [] := by
  have hmap := map_header_listFrom behind ahead
  rw [Header.listFrom_of_none h] at hmap
  exact List.map_eq_nil_iff.1 hmap

/-- The search for blocks goes on in the reach of the header or at its end. -/
theorem exists_passed_of_ofHeader (header : Header) (after : Cursor) :
    ∃ passed rest, (Block.ofHeader header after).2 = after.pass passed rest ∧
      after.ahead = passed ++ rest ∧ passed <+: (breakAt Header.keyword after.ahead).1 := by
  have hahead := (Text.breakAt_append Header.keyword after.ahead).symm
  simp only [Block.ofHeader]
  split
  next => exact ⟨_, _, rfl, hahead, List.prefix_refl _⟩
  next =>
    split
    next inside hinside =>
      obtain ⟨between, hreach, -⟩ := Block.throughLastClosing?_eq_some hinside
      have hprefix : inside <+: (breakAt Header.keyword after.ahead).1 :=
        hreach ▸ List.prefix_append inside between
      have hwhole : inside <+: after.ahead := hprefix.trans ⟨_, hahead.symm⟩
      exact ⟨inside, _, rfl, List.prefix_iff_eq_append.1 hwhole |>.symm, hprefix⟩
    next => exact ⟨[], after.ahead, rfl, rfl, List.nil_prefix⟩

/-- **No header starts in front of the place where the search for blocks goes on.** -/
theorem listFrom_ofHeader (header : Header) (after : Cursor) :
    listFrom after.behind after.ahead =
      listFrom (Block.ofHeader header after).2.behind (Block.ofHeader header after).2.ahead := by
  obtain ⟨passed, rest, hpass, hahead, hpassed⟩ := exists_passed_of_ofHeader header after
  rw [hpass, hahead]
  refine listFrom_append fun before c tail heq _ => Option.eq_none_iff_forall_ne_some.2 fun read hread => ?_
  -- a header there would start with a keyword in the reach
  have hkeyword : Header.keyword <+: c :: (tail ++ rest) := by
    rw [(Header.read?_eq_some_iff.1 hread).1, Header.text, List.append_assoc]
    exact List.prefix_append ..
  have hsplit : after.ahead = before ++ c :: (tail ++ rest) := by simp [hahead, heq]
  have hlength := hpassed.length_le
  have hfirst : (breakAt Header.keyword (before ++ c :: (tail ++ rest))).1.length ≤ before.length :=
    length_breakAt_le hkeyword
  rw [hsplit] at hlength
  rw [heq, List.length_append, List.length_cons] at hlength
  omega

/-- The blocks ahead are those of the headers ahead, each header taken on its own. -/
theorem blockListFrom_eq (cursor : Cursor) :
    Block.listFrom cursor = (listFrom cursor.behind cursor.ahead).filterMap Place.block? := by
  fun_induction Block.listFrom cursor with
  | case1 cursor hnone => rw [listFrom_of_next?_eq_none hnone, List.filterMap_nil]
  | case2 cursor header after hnext hlt ih =>
    obtain ⟨place, rfl, rfl, hlist⟩ := listFrom_of_next? hnext
    rw [hlist, ih, ← listFrom_ofHeader, List.filterMap_cons, Place.block?]
    cases (Block.ofHeader place.header place.after).1 <;> rfl

end Place

/-- **The blocks of a text are those of its headers, each header taken on its own.** -/
theorem blocks_eq (text : Text) : blocks text = (places text).filterMap Place.block? :=
  Place.blockListFrom_eq (Cursor.start text)

/-- A block has the name of a header in its place. -/
theorem exists_place_of_mem_blocks {text : Text} {block : Block} (h : block ∈ blocks text) :
    ∃ place ∈ places text, block.name = place.header.name := by
  rw [blocks_eq] at h
  obtain ⟨place, hplace, hblock⟩ := List.mem_filterMap.1 h
  refine ⟨place, hplace, ?_⟩
  cases Place.block?_eq_some_iff.1 hblock <;> rfl

/-- A block ends in front of the next header. -/
theorem Place.Covers.prefix_front {text : Text} {first second : Place} {block : Block}
    (h : first.Covers block) (hfirst : first.StandsIn text) (hsecond : second.StandsIn text)
    (hbehind : first.front ++ first.header.text <+: second.front) :
    first.front ++ block.body <+: second.front := by
  obtain ⟨reach, beyond, part, hreach, hpart, hbody⟩ := h.exists_part
  obtain ⟨between, hbetween⟩ := hbehind
  have hrest : first.rest = between ++ (second.header.text ++ second.rest) := by
    have htext := hfirst.text_eq.symm.trans hsecond.text_eq
    rw [← hbetween, ← List.append_assoc, List.append_assoc _ between] at htext
    exact List.append_cancel_left htext
  have hkeyword : Header.keyword <+: second.header.text ++ second.rest := by
    rw [Header.text, List.append_assoc]
    exact List.prefix_append ..
  rw [hbody, ← hbetween, ← List.append_assoc]
  exact (List.prefix_append_right_inj _).2 (hreach.prefix_of_keyword hpart hrest hkeyword)

/-- **The blocks of a text, header by header.** The headers are the well-formed ones that stand at the start of
a line, all of them, and no two overlap. The blocks are found by taking each header on its own, in order,
whatever the headers in front of it have: a file-scoped namespace covers the text up to the next occurrence of
the keyword, and a block in braces the text through the last line in front of that which holds a closing brace
and nothing else, if there is such a line. A block ends in front of the next header, so that blocks do not
overlap, and the keyword does not occur in it behind its own header. -/
theorem blocks_eq_filterMap_places (text : Text) :
    (∀ place, place ∈ places text ↔ place.StandsIn text) ∧
    headers text = (places text).map Place.header ∧
    blocks text = (places text).filterMap Place.block? ∧
    (∀ (place : Place) (block : Block), place.block? = some block ↔ place.Covers block) ∧
    (places text).Pairwise (fun first second => first.front ++ first.header.text <+: second.front ∧
      ∀ block, first.block? = some block → first.front ++ block.body <+: second.front) ∧
    ∀ (place : Place) (block : Block), place.block? = some block →
      ∃ inside, block.body = place.header.text ++ inside ∧ ¬ Header.keyword <:+: inside := by
  refine ⟨fun place => mem_places_iff, headers_eq_map_places text, blocks_eq text,
    fun place block => Place.block?_eq_some_iff, ?_, fun place block hblock => ?_⟩
  · refine (Place.pairwise_listFrom [] text).imp_of_mem fun {first second} hfirst hsecond hbehind => ?_
    refine ⟨hbehind, fun block hblock => ?_⟩
    exact (Place.block?_eq_some_iff.1 hblock).prefix_front (mem_places_iff.1 hfirst)
      (mem_places_iff.1 hsecond) hbehind
  · obtain ⟨reach, beyond, part, hreach, hpart, hbody⟩ := (Place.block?_eq_some_iff.1 hblock).exists_part
    exact ⟨part, hbody, hreach.not_infix hpart⟩

end UsingAdvisor.Source
