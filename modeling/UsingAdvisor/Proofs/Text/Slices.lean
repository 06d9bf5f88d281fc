import UsingAdvisor.Bytes

/-!
# Slices by bytes

An offset tells a place in a text by the number of bytes in front of it, in the UTF-8 form of the text. A slice
between two offsets may be refused, because they are out of order, beyond the text or inside a character, and so
may a byte beyond the end. A refusal is a value here, so that a search which takes slices can be shown never to be
refused one.

Main statements: `slice_eq_ok_iff` (a slice is granted exactly between two offsets in order with whole characters
in front of them) and `lineFeedAt_append` (each byte of a character tells whether it is a line feed).
-/

namespace UsingAdvisor.Text

/-- A refused access to the bytes of a text. -/
inductive Fault where
  /-- The bounds of a slice are out of order, beyond the text or inside a character. -/
  | slice (start stop : Nat)
  /-- A byte is asked for beyond the end of the text. -/
  | byte (position : Nat)
  deriving DecidableEq, Repr

/-! ### Sizes and boundaries -/

/-- The number of bytes in the UTF-8 form of a text. -/
def size (text : Text) : Nat :=
  (Bytes.ofText text).length

@[simp]
theorem size_nil : size [] = 0 := rfl

@[simp]
theorem size_append (front back : Text) : size (front ++ back) = size front + size back := by
  simp [size, Bytes.ofText]

@[simp]
theorem size_cons (c : Char) (text : Text) : size (c :: text) = c.utf8Size + size text := by
  simp [size, Bytes.ofText]

@[simp]
theorem size_reverse (text : Text) : size text.reverse = size text := by
  induction text with
  | nil => rfl
  | cons c text ih => simp [ih, Nat.add_comm]

theorem size_pos_of_ne_nil {text : Text} (h : text ≠ []) : 0 < size text := by
  cases text with
  | nil => exact absurd rfl h
  | cons c text =>
    rw [size_cons]
    exact Nat.add_pos_left c.utf8Size_pos _

/-- Whole characters are in front of the offset: it lies between two characters or at an end of the text. -/
def IsBoundary (text : Text) (offset : Nat) : Prop :=
  ∃ front back, text = front ++ back ∧ size front = offset

theorem IsBoundary.le_size {text : Text} {offset : Nat} (h : IsBoundary text offset) : offset ≤ size text := by
  obtain ⟨front, back, rfl, rfl⟩ := h
  rw [size_append]
  exact Nat.le_add_right _ _

/-! ### Slices -/

/-- The text in front of an offset and the text behind it, unless the offset is no boundary. -/
def divide? : Text → (offset : Nat) → Option (Text × Text)
  | text, 0 => some ([], text)
  | [], _ + 1 => none
  | c :: text, offset + 1 =>
    if c.utf8Size ≤ offset + 1 then
      (divide? text (offset + 1 - c.utf8Size)).map fun parts => (c :: parts.1, parts.2)
    else none

theorem divide?_append (front back : Text) : divide? (front ++ back) (size front) = some (front, back) := by
  induction front with
  | nil => rw [List.nil_append, size_nil, divide?]
  | cons c front ih =>
    obtain ⟨offset, hoffset⟩ : ∃ offset, size (c :: front) = offset + 1 :=
      Nat.exists_eq_add_one.2 (size_pos_of_ne_nil (List.cons_ne_nil c front))
    rw [hoffset, List.cons_append, divide?]
    rw [size_cons] at hoffset
    have hrest : offset + 1 - c.utf8Size = size front := by omega
    rw [if_pos (by omega), hrest, ih]
    rfl

/-- **A text is divided exactly at the boundaries.** -/
theorem divide?_eq_some_iff {text front back : Text} {offset : Nat} :
    divide? text offset = some (front, back) ↔ text = front ++ back ∧ size front = offset := by
  constructor
  · intro h
    induction text generalizing offset front with
    | nil =>
      cases offset with
      | zero => cases h; exact ⟨rfl, rfl⟩
      | succ offset => cases h
    | cons c text ih =>
      cases offset with
      | zero => cases h; exact ⟨rfl, rfl⟩
      | succ offset =>
        rw [divide?] at h
        obtain ⟨hle, h⟩ := Option.ite_none_right_eq_some.1 h
        obtain ⟨⟨inner, rest⟩, hinner, heq⟩ := Option.map_eq_some_iff.1 h
        obtain ⟨rfl, rfl⟩ := Prod.mk.inj heq
        obtain ⟨htext, hsize⟩ := ih hinner
        exact ⟨by rw [htext, List.cons_append], by rw [size_cons, hsize]; omega⟩
  · rintro ⟨rfl, rfl⟩
    exact divide?_append front back

/-- The text between two offsets. -/
def slice (text : Text) (start stop : Nat) : Except Fault Text :=
  match (divide? text stop).bind fun parts => divide? parts.1 start with
  | some (_, piece) => .ok piece
  | none => .error (.slice start stop)

/-- **A slice is granted exactly between two boundaries in order, and it is what stands between them.** -/
theorem slice_eq_ok_iff {text piece : Text} {start stop : Nat} :
    slice text start stop = .ok piece ↔
      ∃ front back, text = front ++ piece ++ back ∧ size front = start ∧ start + size piece = stop := by
  have hparts : slice text start stop = .ok piece ↔
      ∃ front back, divide? text stop = some (front ++ piece, back) ∧
        divide? (front ++ piece) start = some (front, piece) := by
    rw [slice]
    split
    next front found h =>
      obtain ⟨⟨upTo, back⟩, hstop, hstart⟩ := Option.bind_eq_some_iff.1 h
      have hupTo := (divide?_eq_some_iff.1 hstart).1
      constructor
      · intro heq
        cases heq
        exact ⟨front, back, hupTo ▸ hstop, hupTo ▸ hstart⟩
      · rintro ⟨other, more, hother, hpiece⟩
        cases hother.symm.trans hstop
        cases hpiece.symm.trans hstart
        rfl
    next h =>
      refine iff_of_false nofun ?_
      rintro ⟨front, back, hstop, hstart⟩
      rw [hstop, Option.bind_some, hstart] at h
      cases h
  simp only [hparts, divide?_eq_some_iff, size_append]
  constructor
  · rintro ⟨front, back, ⟨htext, hstop⟩, -, hstart⟩
    exact ⟨front, back, htext, hstart, hstart ▸ hstop⟩
  · rintro ⟨front, back, htext, hstart, hstop⟩
    exact ⟨front, back, ⟨htext, hstart.symm ▸ hstop⟩, trivial, hstart⟩

/-! ### Bytes -/

/-- The byte at a position. -/
def byteAt (text : Text) (position : Nat) : Except Fault UInt8 :=
  match (Bytes.ofText text)[position]? with
  | some byte => .ok byte
  | none => .error (.byte position)

/-- Whether the byte at a position is a line feed. -/
def lineFeedAt (text : Text) (position : Nat) : Except Fault Bool :=
  (byteAt text position).map (· == 0x0A)

/-- A byte in front of the end is granted. -/
theorem exists_lineFeedAt {text : Text} {position : Nat} (h : position < size text) :
    ∃ found, lineFeedAt text position = .ok found := by
  rw [lineFeedAt, byteAt, List.getElem?_eq_getElem h]
  exact ⟨_, rfl⟩

/-- Beyond ASCII no byte of a character is an ASCII one. -/
theorem le_of_mem_utf8EncodeChar {c : Char} (h : 0x80 ≤ c.toNat) {byte : UInt8}
    (hbyte : byte ∈ String.utf8EncodeChar c) : 0x80 ≤ byte.toNat := by
  rw [String.utf8EncodeChar, if_neg (show ¬ c.val.toNat ≤ 127 from Nat.not_le.2 h)] at hbyte
  split at hbyte
  next =>
    simp only [List.mem_cons, List.not_mem_nil, or_false] at hbyte
    rcases hbyte with rfl | rfl <;> rw [UInt8.toNat_ofNat'] <;> omega
  next =>
    split at hbyte
    next =>
      simp only [List.mem_cons, List.not_mem_nil, or_false] at hbyte
      rcases hbyte with rfl | rfl | rfl <;> rw [UInt8.toNat_ofNat'] <;> omega
    next =>
      simp only [List.mem_cons, List.not_mem_nil, or_false] at hbyte
      rcases hbyte with rfl | rfl | rfl | rfl <;> rw [UInt8.toNat_ofNat'] <;> omega

/-- A line feed is one byte, and the form of no other character holds it. -/
theorem eq_lineFeed_iff_of_mem_utf8EncodeChar {c : Char} {byte : UInt8}
    (h : byte ∈ String.utf8EncodeChar c) : byte = 0x0A ↔ c = '\n' := by
  by_cases hsmall : c.toNat < 0x80
  · rw [String.utf8EncodeChar, if_pos (show c.val.toNat ≤ 127 from Nat.le_of_lt_succ hsmall),
      List.mem_singleton] at h
    have hvalue : byte.toNat = c.toNat := by
      rw [h, UInt8.toNat_ofNat']
      exact Nat.mod_eq_of_lt (Nat.lt_trans hsmall (by decide))
    rw [← UInt8.toNat_inj, ← Char.toNat_inj, hvalue]
    rfl
  · have hlarge := le_of_mem_utf8EncodeChar (Nat.not_lt.1 hsmall) h
    refine iff_of_false ?_ ?_
    · rintro rfl
      exact absurd hlarge (by decide)
    · rintro rfl
      exact hsmall (by decide)

/-- **Each byte of a character tells whether it is a line feed.** -/
theorem lineFeedAt_append (front back : Text) {c : Char} {inner : Nat} (h : inner < c.utf8Size) :
    lineFeedAt (front ++ c :: back) (size front + inner) = .ok (c == '\n') := by
  rw [← String.length_utf8EncodeChar] at h
  have hbyte : (Bytes.ofText (front ++ c :: back))[size front + inner]? =
      some (String.utf8EncodeChar c)[inner] := by
    rw [Bytes.ofText, List.flatMap_append, List.flatMap_cons, size, Bytes.ofText,
      List.getElem?_append_right (Nat.le_add_right _ _), Nat.add_sub_cancel_left,
      List.getElem?_append_left h, List.getElem?_eq_getElem h]
  have hfeed := eq_lineFeed_iff_of_mem_utf8EncodeChar (List.getElem_mem h)
  rw [lineFeedAt, byteAt, hbyte]
  exact congrArg Except.ok (Bool.eq_iff_iff.2 (by simpa using hfeed))

end UsingAdvisor.Text
