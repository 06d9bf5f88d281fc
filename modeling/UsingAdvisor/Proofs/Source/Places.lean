import UsingAdvisor.Proofs.Source.Headers

/-!
# Headers in their places

A header that is read in front of a text is a well-formed one that stands there (`Header.read?_eq_some_iff`),
so whether a header stands at a place can be told there alone. `places` are the headers of a text with their
places, each place looked at on its own, without a search that goes on behind the last header found. Main
statements: `mem_places_iff` (they are the places where a well-formed header stands at the start of a line)
and `headers_eq_map_places` (the search finds them all, since no header starts inside another one).
-/

namespace UsingAdvisor.Source

open Text (EndsName IsDotted isSpace)

namespace Header

/-! ### Well-formed headers -/

/-- The name is a dotted name, and nothing but white space stands behind it. -/
structure WellFormed (header : Header) : Prop where
  name : IsDotted header.name
  gap : ∀ c ∈ header.gap, isSpace c = true

/-- What follows the name of a header ends it. -/
theorem WellFormed.exists_endsName {header : Header} (h : header.WellFormed) (rest : Text) :
    ∃ c back, header.gap ++ header.opener.char :: rest = c :: back ∧ EndsName c := by
  cases hgap : header.gap with
  | nil =>
    refine ⟨header.opener.char, rest, rfl, ?_⟩
    cases header.opener <;> exact ⟨by decide, by decide⟩
  | cons c gap =>
    exact ⟨c, gap ++ header.opener.char :: rest, rfl,
      Text.endsName_of_isSpace (h.gap c (hgap ▸ List.mem_cons_self))⟩

/-- A gap of white space and an opener are the end of a header. -/
theorem close?_append_opener {gap : Text} (h : ∀ c ∈ gap, isSpace c = true) (name : Text) (opener : Opener)
    (rest : Text) : close? name (gap ++ opener.char :: rest) = some (⟨name, gap, opener⟩, rest) := by
  have hopener : isSpace opener.char = false := by cases opener <;> decide
  have htake : (gap ++ opener.char :: rest).takeWhile isSpace = gap := by
    rw [List.takeWhile_append_of_pos h, List.takeWhile_cons_of_neg (by simp [hopener]), List.append_nil]
  have hdrop : (gap ++ opener.char :: rest).dropWhile isSpace = opener.char :: rest := by
    rw [List.dropWhile_append_of_pos h, List.dropWhile_cons_of_neg (by simp [hopener])]
  rw [close?, hdrop, htake]
  cases opener <;> rfl

/-- The gap of a header that is read is white space. -/
theorem isSpace_of_close? {name spaced rest : Text} {header : Header}
    (h : close? name spaced = some (header, rest)) :
    header.name = name ∧ ∀ c ∈ header.gap, isSpace c = true := by
  have hspaces : ∀ c ∈ spaced.takeWhile isSpace, isSpace c = true := List.all_eq_true.1 List.all_takeWhile
  rw [close?] at h
  split at h
  · obtain ⟨rfl, -⟩ := Prod.mk.inj (Option.some.inj h)
    exact ⟨rfl, hspaces⟩
  · obtain ⟨rfl, -⟩ := Prod.mk.inj (Option.some.inj h)
    exact ⟨rfl, hspaces⟩
  · cases h

/-- **A header is read where a well-formed one stands.** -/
theorem read?_eq_some_iff {source rest : Text} {header : Header} :
    read? source = some (header, rest) ↔ source = header.text ++ rest ∧ header.WellFormed := by
  constructor
  · intro h
    refine ⟨read?_eq_some_append h, ?_⟩
    rw [read?_eq] at h
    obtain ⟨named, -, h⟩ := Option.bind_eq_some_iff.1 h
    obtain ⟨⟨name, spaced⟩, hname, h⟩ := Option.bind_eq_some_iff.1 h
    obtain ⟨heq, hgap⟩ := isSpace_of_close? h
    exact ⟨heq ▸ Text.isDotted_of_dottedName? hname, hgap⟩
  · rintro ⟨rfl, h⟩
    obtain ⟨c, back, hback, hc⟩ := h.exists_endsName rest
    have hword : Text.dropFront? (keyword ++ [' ']) (header.text ++ rest) =
        some (header.name ++ (header.gap ++ header.opener.char :: rest)) :=
      Text.dropFront?_eq_some_iff.2 (by simp [text])
    have hname : Text.dottedName? (header.name ++ (header.gap ++ header.opener.char :: rest)) =
        some (header.name, header.gap ++ header.opener.char :: rest) := by
      rw [hback, h.name.dottedName?_append hc]
    rw [read?_eq, hword, Option.bind_some, hname, Option.bind_some, close?_append_opener h.gap]

end Header

/-! ### Places -/

/-- A header in its place in a text. -/
structure Place where
  /-- The text in front of the header. -/
  front : Text
  header : Header
  /-- The text behind the header. -/
  rest : Text
  deriving DecidableEq, Repr

namespace Place

/-- The place behind the header. -/
def after (place : Place) : Cursor :=
  ⟨place.header.text.reverse ++ place.front.reverse, place.rest⟩

/-- A well-formed header stands at the place in the text, and a line starts there. -/
structure StandsIn (place : Place) (text : Text) : Prop where
  text_eq : text = place.front ++ (place.header.text ++ place.rest)
  starts : Text.EndsLine place.front
  wellFormed : place.header.WellFormed

/-- The headers ahead in their places. At each place a header is looked for, also inside of headers. -/
def listFrom (behind : Text) : (ahead : Text) → List Place
  | [] => []
  | c :: ahead =>
    match if Cursor.startsLine behind then Header.read? (c :: ahead) else none with
    | some (header, rest) => ⟨behind.reverse, header, rest⟩ :: listFrom (c :: behind) ahead
    | none => listFrom (c :: behind) ahead

/-- Where a header stands, it comes first. -/
theorem listFrom_of_read? {behind ahead rest : Text} {c : Char} {header : Header}
    (hstart : Cursor.startsLine behind = true) (h : Header.read? (c :: ahead) = some (header, rest)) :
    listFrom behind (c :: ahead) = ⟨behind.reverse, header, rest⟩ :: listFrom (c :: behind) ahead := by
  rw [listFrom, hstart, if_pos rfl, h]

/-- Where no header stands, the next place is looked at. -/
theorem listFrom_cons {behind ahead : Text} {c : Char}
    (h : Cursor.startsLine behind = true → Header.read? (c :: ahead) = none) :
    listFrom behind (c :: ahead) = listFrom (c :: behind) ahead := by
  rw [listFrom]
  cases hstart : Cursor.startsLine behind with
  | false => rfl
  | true => rw [if_pos rfl, h hstart]

/-- A stretch without headers is passed. -/
theorem listFrom_append {behind passed rest : Text}
    (h : ∀ before c tail, passed = before ++ c :: tail →
      Cursor.startsLine (before.reverse ++ behind) = true → Header.read? (c :: (tail ++ rest)) = none) :
    listFrom behind (passed ++ rest) = listFrom (passed.reverse ++ behind) rest := by
  induction passed generalizing behind with
  | nil => rfl
  | cons c passed ih =>
    have hfirst : Cursor.startsLine behind = true → Header.read? (c :: (passed ++ rest)) = none :=
      h [] c passed rfl
    rw [List.cons_append, listFrom_cons hfirst, ih, List.reverse_cons, List.append_assoc,
      List.singleton_append]
    intro before d tail heq hstart
    exact h (c :: before) d tail (by rw [heq, List.cons_append]) (by simpa using hstart)

/-- A header found at the place itself, or at one behind it. -/
theorem mem_listFrom_cons_iff {behind ahead : Text} {c : Char} {place : Place} :
    place ∈ listFrom behind (c :: ahead) ↔
      (place.front = behind.reverse ∧ Cursor.startsLine behind = true ∧
        Header.read? (c :: ahead) = some (place.header, place.rest)) ∨
      place ∈ listFrom (c :: behind) ahead := by
  by_cases hfound : Cursor.startsLine behind = true ∧ ∃ read, Header.read? (c :: ahead) = some read
  · obtain ⟨hstart, ⟨header, rest⟩, hread⟩ := hfound
    rw [listFrom_of_read? hstart hread, List.mem_cons]
    refine or_congr_left ⟨?_, ?_⟩
    · rintro rfl
      exact ⟨rfl, hstart, hread⟩
    · rintro ⟨hfront, -, hplace⟩
      obtain ⟨hheader, hrest⟩ := Prod.mk.inj (Option.some.inj (hread.symm.trans hplace))
      cases place
      simp_all
  · have hnone : Cursor.startsLine behind = true → Header.read? (c :: ahead) = none := fun hstart =>
      Option.eq_none_iff_forall_ne_some.2 fun read hread => hfound ⟨hstart, read, hread⟩
    rw [listFrom_cons hnone, or_iff_right]
    rintro ⟨-, hstart, hread⟩
    exact hfound ⟨hstart, _, hread⟩

theorem startsLine_reverse_iff {front : Text} :
    Cursor.startsLine front.reverse = true ↔ Text.EndsLine front := by
  rw [Text.EndsLine, List.getLast?_eq_head?_reverse]
  cases front.reverse <;> simp [Cursor.startsLine]

/-- **The headers ahead are all well-formed headers that stand ahead at the start of a line.** -/
theorem mem_listFrom_iff {behind ahead : Text} {place : Place} :
    place ∈ listFrom behind ahead ↔ ∃ between, place.front = behind.reverse ++ between ∧
      ahead = between ++ (place.header.text ++ place.rest) ∧ Text.EndsLine place.front ∧
      place.header.WellFormed := by
  induction ahead generalizing behind with
  | nil =>
    refine iff_of_false List.not_mem_nil ?_
    rintro ⟨between, -, hahead, -⟩
    simp [Header.text, Header.keyword] at hahead
  | cons c ahead ih =>
    rw [mem_listFrom_cons_iff, ih, Header.read?_eq_some_iff]
    constructor
    · rintro (⟨hfront, hstart, hahead, hheader⟩ | ⟨between, hfront, hahead, hrest⟩)
      · refine ⟨[], by rw [hfront, List.append_nil], hahead, ?_, hheader⟩
        exact startsLine_reverse_iff.1 (by rwa [hfront, List.reverse_reverse])
      · exact ⟨c :: between, by simpa using hfront, by rw [hahead, List.cons_append], hrest⟩
    · rintro ⟨between, hfront, hahead, hends, hheader⟩
      cases between with
      | nil =>
        rw [List.append_nil] at hfront
        refine .inl ⟨hfront, ?_, hahead, hheader⟩
        rw [← List.reverse_reverse behind, ← hfront]
        exact startsLine_reverse_iff.2 hends
      | cons d between =>
        obtain ⟨rfl, hrest⟩ := List.cons.inj hahead
        exact .inr ⟨between, by simpa using hfront, hrest, hends, hheader⟩

end Place

/-- The headers of a text in their places, in order. -/
def places (text : Text) : List Place :=
  Place.listFrom [] text

/-- **The places of headers are those where a well-formed header stands at the start of a line.** -/
theorem mem_places_iff {text : Text} {place : Place} : place ∈ places text ↔ place.StandsIn text := by
  rw [places, Place.mem_listFrom_iff]
  constructor
  · rintro ⟨between, hfront, htext, hends, hheader⟩
    rw [List.reverse_nil, List.nil_append] at hfront
    exact ⟨hfront ▸ htext, hends, hheader⟩
  · rintro ⟨htext, hends, hheader⟩
    exact ⟨place.front, rfl, htext, hends, hheader⟩

/-! ### No header inside another one -/

/-- A line that starts inside a header does not start with the keyword. -/
theorem Header.WellFormed.ne_of_lineFeed {header : Header} (h : header.WellFormed) {front back : Text}
    {c : Char} (htext : header.text = front ++ '\n' :: c :: back) : c ≠ 'n' := by
  have hsplit : header.text =
      (keyword ++ ' ' :: header.name) ++ (header.gap ++ [header.opener.char]) := by
    simp [Header.text]
  have hfeed : '\n' ∉ keyword ++ ' ' :: header.name := by
    simp [keyword, h.name.not_mem_of_endsName Text.stops_lineFeed.toEndsName]
  -- the line feed stands in the gap, so that white space or the opener follows it
  have hmem : c ∈ header.gap ++ [header.opener.char] := by
    rcases List.append_eq_append_iff.1 (hsplit.symm.trans htext) with
      ⟨more, -, hgap⟩ | ⟨more, hname, hgap⟩
    · simp [hgap]
    · cases more with
      | nil =>
        rw [List.nil_append] at hgap
        exact hgap ▸ List.mem_cons_of_mem _ List.mem_cons_self
      | cons d more =>
        obtain ⟨rfl, -⟩ := List.cons.inj hgap
        exact absurd (hname ▸ by simp) hfeed
  rcases List.mem_append.1 hmem with hgap | hopener
  · rintro rfl
    exact absurd (h.gap _ hgap) (by decide)
  · rw [List.mem_singleton.1 hopener]
    cases header.opener <;> decide

namespace Place

/-- **A header stands first, and the others stand behind it.** -/
theorem listFrom_header {behind ahead rest : Text} {header : Header}
    (hstart : Cursor.startsLine behind = true) (h : Header.read? ahead = some (header, rest)) :
    listFrom behind ahead =
      ⟨behind.reverse, header, rest⟩ :: listFrom (header.text.reverse ++ behind) rest := by
  obtain ⟨rfl, hheader⟩ := Header.read?_eq_some_iff.1 h
  obtain ⟨inner, htext⟩ : ∃ inner, header.text = 'n' :: inner := ⟨_, rfl⟩
  rw [htext, List.cons_append] at h ⊢
  rw [listFrom_of_read? hstart h, listFrom_append, List.reverse_cons, List.append_assoc,
    List.singleton_append]
  intro before c tail hinner hline
  -- a line starts only behind a line feed of the header
  obtain ⟨front, rfl⟩ : ∃ front, before = front ++ ['\n'] := by
    rcases before.eq_nil_or_concat with rfl | ⟨front, d, rfl⟩
    · cases hline
    · refine ⟨front, ?_⟩
      have hd : d = '\n' := by simpa [Cursor.startsLine] using hline
      rw [List.concat_eq_append, hd]
  have hfeed : header.text = ('n' :: front) ++ '\n' :: c :: tail := by
    rw [htext, hinner]
    simp
  exact Header.read?_eq_none (hheader.ne_of_lineFeed hfeed) _

/-- The headers that the search finds are those in their places. -/
theorem map_header_listFrom (behind ahead : Text) :
    (listFrom behind ahead).map Place.header = Header.listFrom ⟨behind, ahead⟩ := by
  induction behind, ahead using Header.search_induction with
  | nil behind => rw [Header.listFrom_nil, listFrom, List.map_nil]
  | found behind ahead header rest hstart hread ih =>
    rw [listFrom_header hstart hread, Header.listFrom_of_read? hstart hread, List.map_cons, ih]
  | skip behind c ahead hnone ih => rw [listFrom_cons hnone, Header.listFrom_cons hnone, ih]

/-- Headers do not overlap. -/
theorem pairwise_listFrom (behind ahead : Text) :
    (listFrom behind ahead).Pairwise fun first second =>
      first.front ++ first.header.text <+: second.front := by
  induction behind, ahead using Header.search_induction with
  | nil behind => exact .nil
  | found behind ahead header rest hstart hread ih =>
    rw [listFrom_header hstart hread]
    refine List.pairwise_cons.2 ⟨fun place hplace => ?_, ih⟩
    obtain ⟨between, hfront, -⟩ := mem_listFrom_iff.1 hplace
    exact ⟨between, by simp [hfront]⟩
  | skip behind c ahead hnone ih => rwa [listFrom_cons hnone]

end Place

/-- **The headers of a text are those in their places.** -/
theorem headers_eq_map_places (text : Text) : headers text = (places text).map Place.header :=
  (Place.map_header_listFrom [] text).symm

end UsingAdvisor.Source
