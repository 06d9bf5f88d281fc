import UsingAdvisor.Proofs.Source.Blocks
import UsingAdvisor.Proofs.Text.Slices

/-!
# The search for blocks in passes

The search for blocks told by offsets in the bytes of the text. A pass starts at an offset, finds the next header
from there on, looks behind it for the keyword, and in front of that for the last closing brace that the bytes
next to it show to be alone on its line. It goes on at one of three offsets: the keyword, the end of the closing
line, or the end of the header. Every slice and every byte on the way is asked for and may be refused
(`Text.Fault`), and no pass checks that the next one starts further behind.

Main statement: `search_ends_in_bounds` (no pass is refused anything, each goes on further behind and inside the
text, and after one pass for each header the search is over and has found the blocks of the text).
-/

namespace UsingAdvisor.Source

open Text (Fault IsBoundary breakAt divide? lineFeedAt size slice startsWith)

/-! ### One pass -/

/-- The first offset at which the word stands in a text that starts at `offset`. -/
def wordOffset? (word : Text) : (offset : Nat) → Text → Option Nat
  | _, [] => none
  | offset, c :: text =>
    if startsWith word (c :: text) then some offset else wordOffset? word (offset + c.utf8Size) text

/-- The offsets at which a character stands in a text that starts at `offset`. -/
def offsetsOf (c : Char) : (offset : Nat) → Text → List Nat
  | _, [] => []
  | offset, d :: text =>
    if d = c then offset :: offsetsOf c (offset + d.utf8Size) text else offsetsOf c (offset + d.utf8Size) text

/-- Whether a line feed is in front of a position. -/
def startsLineAt (text : Text) (position : Nat) : Except Fault Bool :=
  if 0 < position then lineFeedAt text (position - 1) else .ok false

/-- Whether the text is over behind the byte at a position or goes on with a line feed. -/
def endsLineAt (text : Text) (position : Nat) : Except Fault Bool :=
  if position + 1 = size text then .ok true else lineFeedAt text (position + 1)

/-- Whether the byte at a position is alone on its line. The bytes on both sides of it are looked at. -/
def standsAlone (text : Text) (position : Nat) : Except Fault Bool := do
  let starts ← startsLineAt text position
  let ends ← endsLineAt text position
  return starts && ends

/-- The offset behind the last of the positions that is alone on its line. All of them are looked at. -/
def lastAlone? (text : Text) : List Nat → Except Fault (Option Nat)
  | [] => .ok none
  | position :: later => do
    let alone ← standsAlone text position
    let last ← lastAlone? text later
    return last.or (if alone then some (position + 1) else none)

/-- The offset behind the last closing brace between two offsets that is alone on its line. -/
def closingEnd? (text : Text) (start limit : Nat) : Except Fault (Option Nat) := do
  let piece ← slice text start limit
  lastAlone? text (offsetsOf '}' start piece)

/-- What a pass finds. -/
structure Pass where
  header : Header
  /-- The offset of the header. -/
  start : Nat
  /-- The offset behind the header. -/
  bodyStart : Nat
  /-- The offset of the next keyword, or of the end of the text. -/
  limit : Nat
  block? : Option Block
  /-- The offset at which the search goes on. -/
  next : Nat
  deriving DecidableEq, Repr

/-- The block of a header with its offsets, if it has one, and the offset at which the search goes on. -/
def blockBefore (text : Text) (header : Header) (start bodyStart limit : Nat) :
    Except Fault (Option Block × Nat) :=
  match header.opener with
  | .semicolon => do
    let body ← slice text start limit
    return (some ⟨header.name, body⟩, max limit bodyStart)
  | .brace => do
    match ← closingEnd? text bodyStart limit with
    | some stop =>
      let body ← slice text start stop
      return (some ⟨header.name, body⟩, stop)
    | none => return (none, bodyStart)

/-- The pass over a header between two offsets. -/
def passOver (text : Text) (header : Header) (start bodyStart : Nat) : Except Fault Pass := do
  let ahead ← slice text bodyStart (size text)
  let limit := (wordOffset? Header.keyword bodyStart ahead).getD (size text)
  let (block?, next) ← blockBefore text header start bodyStart limit
  return ⟨header, start, bodyStart, limit, block?, next⟩

/-- The pass that starts at an offset, unless no header is found. Beyond the text none is looked for. -/
def pass? (text : Text) (offset : Nat) : Except Fault (Option Pass) :=
  if size text < offset then .ok none
  else match divide? text offset with
  | none => .error (.slice offset (size text))
  | some (front, ahead) =>
    match Header.next? front.reverse ahead with
    | none => .ok none
    | some (header, after) =>
      (passOver text header (size (after.behind.drop header.text.length)) (size after.behind)).map some

/-- The offsets at which the passes of the search start. -/
inductive Reached (text : Text) : (offset : Nat) → Prop
  | start : Reached text 0
  | next {offset : Nat} {found : Pass} (h : Reached text offset) (hpass : pass? text offset = .ok (some found)) :
      Reached text found.next

/-- The passes of the search from an offset on, up to the one that finds no header, with which it is over. -/
inductive Runs (text : Text) : (offset : Nat) → List Pass → Prop
  | done {offset : Nat} (h : pass? text offset = .ok none) : Runs text offset []
  | step {offset : Nat} {found : Pass} {later : List Pass} (h : pass? text offset = .ok (some found))
      (hlater : Runs text found.next later) : Runs text offset (found :: later)

/-! ### The limit and the last closing brace -/

/-- The first offset of the word, or else the end of the text, is where the text is broken. -/
theorem getD_wordOffset? (word : Text) (offset : Nat) (text : Text) :
    (wordOffset? word offset text).getD (offset + size text) = offset + size (breakAt word text).1 := by
  induction text generalizing offset with
  | nil => rfl
  | cons c text ih =>
    rw [wordOffset?, breakAt]
    split
    next => rfl
    next => rw [Text.size_cons, ← Nat.add_assoc, ih, Text.size_cons, Nat.add_assoc]

theorem startsLineAt_append (front back : Text) (c : Char) :
    startsLineAt (front ++ c :: back) (size front) = .ok (front.getLast? == some '\n') := by
  rw [startsLineAt]
  rcases front.eq_nil_or_concat with rfl | ⟨front, d, rfl⟩
  · rfl
  · -- the byte in front is the last one of the character in front, however many it has
    have hpos := d.utf8Size_pos
    have hlast : size (front ++ [d]) - 1 = size front + (d.utf8Size - 1) := by
      rw [Text.size_append, Text.size_cons, Text.size_nil]
      omega
    rw [List.concat_eq_append, if_pos (Text.size_pos_of_ne_nil (by simp)), hlast, List.append_assoc,
      List.singleton_append, Text.lineFeedAt_append _ _ (by omega)]
    simp

theorem endsLineAt_append (front back : Text) :
    endsLineAt (front ++ '}' :: back) (size front) = .ok (Block.endsLine true back) := by
  have hbrace : '}'.utf8Size = 1 := rfl
  have hsize : size (front ++ '}' :: back) = size front + 1 + size back := by
    rw [Text.size_append, Text.size_cons, hbrace, Nat.add_assoc]
  rw [endsLineAt, hsize]
  cases back with
  | nil => exact if_pos rfl
  | cons c back =>
    have hpos := c.utf8Size_pos
    have hbehind := Text.lineFeedAt_append (front ++ ['}']) back hpos
    rw [Text.size_append, Text.size_cons, hbrace, Text.size_nil, List.append_assoc, List.singleton_append]
      at hbehind
    rw [if_neg (by rw [Text.size_cons]; omega)]
    exact hbehind

/-- The bytes on both sides of a closing brace tell whether a line feed is in front of it and the line ends
behind it. -/
theorem standsAlone_append (front back : Text) :
    standsAlone (front ++ '}' :: back) (size front) =
      .ok (front.getLast? == some '\n' && Block.endsLine true back) := by
  rw [standsAlone, startsLineAt_append, endsLineAt_append]
  rfl

/-- A position inside the text has the neighbours that are looked at. -/
theorem exists_standsAlone {text : Text} {position : Nat} (h : position < size text) :
    ∃ alone, standsAlone text position = .ok alone := by
  have hstarts : ∃ starts, startsLineAt text position = .ok starts := by
    rw [startsLineAt]
    split
    next => exact Text.exists_lineFeedAt (by omega)
    next => exact ⟨false, rfl⟩
  have hends : ∃ ends, endsLineAt text position = .ok ends := by
    rw [endsLineAt]
    split
    next => exact ⟨true, rfl⟩
    next hne => exact Text.exists_lineFeedAt (by omega)
  obtain ⟨starts, hstarts⟩ := hstarts
  obtain ⟨ends, hends⟩ := hends
  rw [standsAlone, hstarts, hends]
  exact ⟨starts && ends, rfl⟩

/-- A line ends in the reach of a header where it ends in the text. -/
theorem endsLine_append {beyond : Text} (h : beyond = [] ∨ Header.keyword <+: beyond) (after : Text) :
    Block.endsLine true (after ++ beyond) = Block.endsLine beyond.isEmpty after := by
  cases after with
  | nil => rcases h with rfl | ⟨more, rfl⟩ <;> rfl
  | cons c after => rfl

/-- **The last closing brace that its neighbours show to be alone ends the last closing line.** -/
theorem lastAlone?_offsetsOf {beyond : Text} (h : beyond = [] ∨ Header.keyword <+: beyond) (front piece : Text) :
    lastAlone? (front ++ (piece ++ beyond)) (offsetsOf '}' (size front) piece) =
      .ok ((Block.throughLastClosing? beyond.isEmpty (front.getLast? == some '\n') piece).map
        fun inside => size front + size inside) := by
  induction piece generalizing front with
  | nil => rfl
  | cons c piece ih =>
    have hsize : size (front ++ [c]) = size front + c.utf8Size := by simp
    have hlast : ((front ++ [c]).getLast? == some '\n') = (c == '\n') := by simp
    have hlater := ih (front ++ [c])
    rw [hsize, hlast, List.append_assoc, List.singleton_append, ← List.cons_append] at hlater
    rw [offsetsOf, Block.throughLastClosing?]
    by_cases hbrace : c = '}'
    · subst hbrace
      have halone := standsAlone_append front (piece ++ beyond)
      rw [endsLine_append h] at halone
      rw [if_pos rfl, lastAlone?, List.cons_append, halone, ← List.cons_append, hlater]
      refine congrArg Except.ok ?_
      cases Block.throughLastClosing? beyond.isEmpty ('}' == '\n') piece with
      | none =>
        -- no later brace is alone on its line, so this one decides
        simp only [beq_self_eq_true, Bool.and_true, Option.map_none, Option.none_or]
        split
        next => rfl
        next => rfl
      | some inside => simp [Nat.add_assoc]
    · rw [if_neg hbrace, hlater]
      cases Block.throughLastClosing? beyond.isEmpty (c == '\n') piece with
      | none => simp [hbrace]
      | some inside => simp [Nat.add_assoc]

/-! ### The pass over a header in its place -/

/-- The offset behind the header. -/
def Place.bodyStart (place : Place) : Nat :=
  size place.front + size place.header.text

/-- The offset behind the reach of the header. -/
def Place.limit (place : Place) : Nat :=
  place.bodyStart + size (breakAt Header.keyword place.rest).1

/-- The pass over a header in its place, with the block of the header and the place where the search for blocks
goes on. -/
def Pass.ofPlace (place : Place) : Pass where
  header := place.header
  start := size place.front
  bodyStart := place.bodyStart
  limit := place.limit
  block? := place.block?
  next := size (Block.ofHeader place.header place.after).2.behind

theorem size_behind_pass (place : Place) (passed rest : Text) :
    size (place.after.pass passed rest).behind = place.bodyStart + size passed := by
  simp only [Cursor.pass, Place.after, Place.bodyStart, Text.size_append, Text.size_reverse]
  omega

section Place

variable {text : Text} {place : Place} (htext : text = place.front ++ (place.header.text ++ place.rest))

include htext

theorem text_after : place.after.text = text := by
  simp [Place.after, Cursor.text, htext]

theorem size_eq_of_place : size text = place.bodyStart + size place.rest := by
  rw [htext, Place.bodyStart, Text.size_append, Text.size_append, Nat.add_assoc]

theorem isBoundary_behind {part more : Text} (hrest : place.rest = part ++ more) :
    IsBoundary text (place.bodyStart + size part) :=
  ⟨place.front ++ place.header.text ++ part, more, by simp [htext, hrest],
    by simp [Place.bodyStart, Nat.add_assoc]⟩

/-- A part of what stands behind the header. -/
theorem slice_behind {part more : Text} (hrest : place.rest = part ++ more) :
    slice text place.bodyStart (place.bodyStart + size part) = .ok part :=
  Text.slice_eq_ok_iff.2 ⟨place.front ++ place.header.text, more, by simp [htext, hrest],
    by simp [Place.bodyStart], rfl⟩

/-- The header and a part of what stands behind it. -/
theorem slice_header {part more : Text} (hrest : place.rest = part ++ more) :
    slice text (size place.front) (place.bodyStart + size part) = .ok (place.header.text ++ part) :=
  Text.slice_eq_ok_iff.2 ⟨place.front, more, by simp [htext, hrest], rfl,
    by simp [Place.bodyStart, Nat.add_assoc]⟩

/-- The last closing brace in the reach of the header. -/
theorem closingEnd?_eq : closingEnd? text place.bodyStart place.limit =
    .ok ((Block.throughLastClosing? (breakAt Header.keyword place.rest).2.isEmpty false
      (breakAt Header.keyword place.rest).1).map fun inside => place.bodyStart + size inside) := by
  have hrest := Text.breakAt_append Header.keyword place.rest
  have hstops := breakAt_snd Header.keyword place.rest
  -- the opener of the header stands in front of the reach, and no line feed
  have hopener : ((place.front ++ place.header.text).getLast? == some '\n') = false := by
    cases hopener : place.header.opener <;>
      simp [Header.text, List.getLast?_append, List.getLast?_cons, hopener, Opener.char]
  have hlast := lastAlone?_offsetsOf hstops (place.front ++ place.header.text)
    (breakAt Header.keyword place.rest).1
  rw [hrest, List.append_assoc, ← htext, hopener, Text.size_append] at hlast
  rw [closingEnd?, Place.limit, slice_behind htext hrest.symm]
  exact hlast

/-- Whether or not a closing brace is found, nothing is refused, and the offset behind one lies in the reach. -/
theorem exists_closingEnd? : ∃ last, closingEnd? text place.bodyStart place.limit = .ok last ∧
    ∀ stop ∈ last, place.bodyStart < stop ∧ stop ≤ place.limit ∧ IsBoundary text stop := by
  refine ⟨_, closingEnd?_eq htext, fun stop hstop => ?_⟩
  obtain ⟨inside, hinside, rfl⟩ := Option.map_eq_some_iff.1 hstop
  obtain ⟨between, hreach, halone, -⟩ := Block.throughLastClosing?_eq_some hinside
  have hpos : 0 < size inside := by
    refine Text.size_pos_of_ne_nil ?_
    rintro rfl
    exact Block.not_endsAlone_nil _ halone
  have hle : size inside ≤ size (breakAt Header.keyword place.rest).1 := by
    rw [hreach, Text.size_append]
    exact Nat.le_add_right _ _
  have hrest := Text.breakAt_append Header.keyword place.rest
  rw [hreach, List.append_assoc] at hrest
  exact ⟨Nat.lt_add_of_pos_right hpos, Nat.add_le_add_left hle _, isBoundary_behind htext hrest.symm⟩

/-- The block of a header cut out by offsets is the block of the header. -/
theorem blockBefore_eq : blockBefore text place.header (size place.front) place.bodyStart place.limit =
    .ok (place.block?, size (Block.ofHeader place.header place.after).2.behind) := by
  have hrest := Text.breakAt_append Header.keyword place.rest
  have hahead : place.after.ahead = place.rest := rfl
  rw [Place.block?, Block.ofHeader, blockBefore, hahead]
  cases hopener : place.header.opener with
  | semicolon =>
    simp only [Place.limit, slice_header htext hrest.symm, size_behind_pass]
    rw [Nat.max_eq_left (Nat.le_add_right _ _)]
    rfl
  | brace =>
    simp only [closingEnd?_eq htext]
    cases hinside : Block.throughLastClosing? (breakAt Header.keyword place.rest).2.isEmpty false
        (breakAt Header.keyword place.rest).1 with
    | none => exact congrArg (fun next => Except.ok (none, next)) (size_behind_pass place [] place.rest).symm
    | some inside =>
      obtain ⟨between, hreach, -⟩ := Block.throughLastClosing?_eq_some hinside
      have hinner : place.rest = inside ++ (between ++ (breakAt Header.keyword place.rest).2) := by
        rw [← List.append_assoc, ← hreach, hrest]
      simp only [Option.map_some, bind, Except.bind, slice_header htext hinner, size_behind_pass]
      rfl

theorem passOver_eq :
    passOver text place.header (size place.front) place.bodyStart = .ok (Pass.ofPlace place) := by
  have hahead : slice text place.bodyStart (size text) = .ok place.rest := by
    rw [size_eq_of_place htext]
    exact slice_behind htext (List.append_nil place.rest).symm
  have hlimit : (wordOffset? Header.keyword place.bodyStart place.rest).getD (size text) = place.limit := by
    rw [size_eq_of_place htext, getD_wordOffset?, Place.limit]
  simp only [passOver, hahead, bind, Except.bind, hlimit, blockBefore_eq htext]
  rfl

end Place

/-! ### The bounds of a pass -/

/-- A pass that starts at an offset stays in the text and goes on behind it. Its header stands between its two
offsets, and the limit is not in front of the header's end. Up to the limit the bytes on both sides of every
position are granted, and where a closing brace is found between the header and the limit, the offset behind it
lies between them. All these offsets are boundaries. -/
structure Pass.InBounds (text : Text) (offset : Nat) (found : Pass) : Prop where
  offset_le : offset ≤ found.start
  start_lt : found.start < found.bodyStart
  bodyStart_le : found.bodyStart ≤ found.limit
  limit_le : found.limit ≤ size text
  header_eq : slice text found.start found.bodyStart = .ok found.header.text
  isBoundary : ∀ bound ∈ [found.start, found.bodyStart, found.limit, found.next], IsBoundary text bound
  neighbours : ∀ position < found.limit, ∃ alone, standsAlone text position = .ok alone
  closing : ∃ last, closingEnd? text found.bodyStart found.limit = .ok last ∧
    ∀ stop ∈ last, found.bodyStart < stop ∧ stop ≤ found.limit ∧ IsBoundary text stop
  offset_lt_next : offset < found.next
  next_le : found.next ≤ size text

/-- **The pass over a header stays in bounds**, from every offset that is not behind the header. -/
theorem Pass.inBounds_ofPlace {text : Text} {place : Place} {offset : Nat}
    (htext : text = place.front ++ (place.header.text ++ place.rest)) (hoffset : offset ≤ size place.front) :
    (Pass.ofPlace place).InBounds text offset := by
  have hheader : size place.front < place.bodyStart :=
    Nat.lt_add_of_pos_right (Text.size_pos_of_ne_nil (by simp [Header.text, Header.keyword]))
  obtain ⟨passed, rest, hpass, hahead, -⟩ := Place.exists_passed_of_ofHeader place.header place.after
  have hnext : (Pass.ofPlace place).next = place.bodyStart + size passed := by
    rw [Pass.ofPlace, hpass, size_behind_pass]
  have hlimitBoundary : IsBoundary text (Pass.ofPlace place).limit :=
    isBoundary_behind htext (Text.breakAt_append Header.keyword place.rest).symm
  have hnextBoundary : IsBoundary text (Pass.ofPlace place).next := hnext ▸ isBoundary_behind htext hahead
  refine
    { offset_le := hoffset
      start_lt := hheader
      bodyStart_le := Nat.le_add_right _ _
      limit_le := hlimitBoundary.le_size
      header_eq := ?_
      isBoundary := ?_
      neighbours := fun position hposition =>
        exists_standsAlone (Nat.lt_of_lt_of_le hposition hlimitBoundary.le_size)
      closing := exists_closingEnd? htext
      offset_lt_next := by omega
      next_le := hnextBoundary.le_size }
  · have hwhole := slice_header htext (List.nil_append place.rest).symm
    rwa [List.append_nil] at hwhole
  · simp only [List.forall_mem_cons]
    exact ⟨⟨place.front, _, htext, rfl⟩, isBoundary_behind htext (List.nil_append place.rest).symm,
      hlimitBoundary, hnextBoundary, List.forall_mem_nil _⟩

/-! ### The passes of a search -/

/-- A cursor stands at the boundary behind what it has behind it. -/
theorem pass?_eq (cursor : Cursor) : pass? cursor.text (size cursor.behind) =
    match Header.next? cursor.behind cursor.ahead with
    | none => .ok none
    | some (header, after) =>
      (passOver cursor.text header (size (after.behind.drop header.text.length))
        (size after.behind)).map some := by
  have hsize : ¬ size cursor.text < size cursor.behind := by
    rw [Cursor.text, Text.size_append, Text.size_reverse]
    omega
  have hdivide : divide? cursor.text (size cursor.behind) = some (cursor.behind.reverse, cursor.ahead) :=
    Text.divide?_eq_some_iff.2 ⟨rfl, Text.size_reverse _⟩
  rw [pass?, if_neg hsize, hdivide]
  simp only [List.reverse_reverse]

/-- Where a header is found from a cursor on, the pass is the one over its place. -/
theorem exists_place_of_next? {cursor after : Cursor} {header : Header}
    (h : Header.next? cursor.behind cursor.ahead = some (header, after)) :
    ∃ place, place.header = header ∧ place.after = after ∧
      Place.listFrom cursor.behind cursor.ahead = place :: Place.listFrom after.behind after.ahead ∧
      cursor.text = place.front ++ (place.header.text ++ place.rest) ∧
      size cursor.behind ≤ size place.front ∧
      pass? cursor.text (size cursor.behind) = .ok (some (Pass.ofPlace place)) := by
  obtain ⟨place, rfl, rfl, hlist⟩ := Place.listFrom_of_next? h
  obtain ⟨between, hfront, hahead, -⟩ := Place.mem_listFrom_iff.1 (hlist ▸ List.mem_cons_self)
  have htext : cursor.text = place.front ++ (place.header.text ++ place.rest) := by
    rw [Cursor.text, hfront, hahead, List.append_assoc]
  have hstart : size (place.after.behind.drop place.header.text.length) = size place.front := by
    rw [Place.after, List.drop_left' List.length_reverse, Text.size_reverse]
  have hbodyStart : size place.after.behind = place.bodyStart :=
    size_behind_pass place [] place.rest
  refine ⟨place, rfl, rfl, hlist, htext, ?_, ?_⟩
  · rw [hfront, Text.size_append, Text.size_reverse]
    exact Nat.le_add_right _ _
  · rw [pass?_eq, h]
    simp only [hstart, hbodyStart, passOver_eq htext]
    rfl

/-- The search for blocks stays in its text. -/
theorem text_ofHeader (header : Header) (after : Cursor) : (Block.ofHeader header after).2.text = after.text := by
  obtain ⟨passed, rest, hpass, hahead, -⟩ := Place.exists_passed_of_ofHeader header after
  rw [hpass, Cursor.text_pass hahead]

/-- **From a cursor on, the search passes over each header ahead and is over.** -/
theorem runs_listFrom (cursor : Cursor) :
    Runs cursor.text (size cursor.behind) ((Place.listFrom cursor.behind cursor.ahead).map Pass.ofPlace) := by
  -- along the search for blocks, which has less ahead of it behind each header
  induction cursor using Block.listFrom.induct with
  | case1 cursor hnone =>
    rw [Place.listFrom_of_next?_eq_none hnone]
    exact .done (by rw [pass?_eq, hnone])
  | case2 cursor header after hnext hlt ih =>
    obtain ⟨place, rfl, rfl, hlist, htext, -, hpass⟩ := exists_place_of_next? hnext
    rw [text_ofHeader, text_after htext, ← Place.listFrom_ofHeader] at ih
    rw [hlist, List.map_cons]
    exact .step hpass ih

/-- An offset that is reached is that of a cursor. -/
theorem Reached.exists_cursor {text : Text} {offset : Nat} (h : Reached text offset) :
    ∃ cursor : Cursor, cursor.text = text ∧ size cursor.behind = offset := by
  induction h with
  | start => exact ⟨Cursor.start text, rfl, rfl⟩
  | next _ hpass ih =>
    obtain ⟨cursor, rfl, rfl⟩ := ih
    cases hnext : Header.next? cursor.behind cursor.ahead with
    | none =>
      rw [pass?_eq, hnext] at hpass
      cases hpass
    | some =>
      obtain ⟨place, -, -, -, htext, -, hplace⟩ := exists_place_of_next? hnext
      cases hplace.symm.trans hpass
      exact ⟨(Block.ofHeader place.header place.after).2, (text_ofHeader _ _).trans (text_after htext), rfl⟩

/-- **The search for blocks ends and stays in bounds, on every text.** At every offset that it reaches, inside the
text or at its end, the pass is refused nothing: it finds no header, or it stays in bounds and the next one starts
further behind. The search is over after one pass for each header of the text, and the blocks cut out on the way
are the blocks of the text. -/
theorem search_ends_in_bounds (text : Text) :
    (∀ offset, Reached text offset → offset ≤ size text ∧
      (pass? text offset = .ok none ∨
        ∃ found, pass? text offset = .ok (some found) ∧ found.InBounds text offset)) ∧
    ∃ passes, Runs text 0 passes ∧ passes.map Pass.header = headers text ∧
      passes.filterMap Pass.block? = blocks text := by
  constructor
  · intro offset hreached
    obtain ⟨cursor, rfl, rfl⟩ := hreached.exists_cursor
    have hboundary : IsBoundary cursor.text (size cursor.behind) :=
      ⟨cursor.behind.reverse, cursor.ahead, rfl, Text.size_reverse _⟩
    refine ⟨hboundary.le_size, ?_⟩
    cases hnext : Header.next? cursor.behind cursor.ahead with
    | none => exact .inl (by rw [pass?_eq, hnext])
    | some =>
      obtain ⟨place, -, -, -, htext, hoffset, hpass⟩ := exists_place_of_next? hnext
      exact .inr ⟨Pass.ofPlace place, hpass, Pass.inBounds_ofPlace htext hoffset⟩
  · refine ⟨_, runs_listFrom (Cursor.start text), ?_, ?_⟩
    · rw [List.map_map]
      exact (headers_eq_map_places text).symm
    · rw [List.filterMap_map]
      exact (blocks_eq text).symm

/-- Characters of two bytes stand in front of the header, in its name, and next to braces. -/
example :
    ((pass? "ß\nnamespace Größe\n\x7b é\x7d\n\x7dé\n\x7d\nnamespace".toList 0).toOption.map
      fun found => found.map fun pass => (pass.start, pass.bodyStart, pass.limit, pass.next)) =
        some (some (3, 22, 33, 32)) := by
  decide +kernel

end UsingAdvisor.Source
