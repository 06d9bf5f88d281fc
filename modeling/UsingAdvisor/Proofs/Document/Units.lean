import UsingAdvisor.Document.Position

/-!
# Texts as UTF-16 units

Editors keep documents as UTF-16 units: one for a character up to U+FFFF, and a surrogate pair for one
above. Main statement: `length_encode_take_column` (the characters in front of a column make up as many units
as the column says, unless the column lies inside a pair).
-/

namespace UsingAdvisor.Document

/-- The first unit of the pair of a character above U+FFFF. -/
def highSurrogate (c : Char) : UInt16 :=
  UInt16.ofNat (0xD800 + (c.toNat - 0x10000) / 0x400)

/-- The second unit of the pair of a character above U+FFFF. -/
def lowSurrogate (c : Char) : UInt16 :=
  UInt16.ofNat (0xDC00 + (c.toNat - 0x10000) % 0x400)

/-- The units of a character. -/
def encodeChar (c : Char) : List UInt16 :=
  if c.toNat < 0x10000 then [UInt16.ofNat c.toNat] else [highSurrogate c, lowSurrogate c]

/-- The units of a text. -/
def encode (text : Text) : List UInt16 :=
  text.flatMap encodeChar

/-- Whether a unit is the first of a pair. -/
def IsHigh (unit : UInt16) : Prop :=
  0xD800 ≤ unit.toNat ∧ unit.toNat < 0xDC00

/-- Whether a unit is the second of a pair. -/
def IsLow (unit : UInt16) : Prop :=
  0xDC00 ≤ unit.toNat ∧ unit.toNat < 0xE000

instance : DecidablePred IsHigh :=
  fun unit => inferInstanceAs (Decidable (0xD800 ≤ unit.toNat ∧ unit.toNat < 0xDC00))

instance : DecidablePred IsLow :=
  fun unit => inferInstanceAs (Decidable (0xDC00 ≤ unit.toNat ∧ unit.toNat < 0xE000))

/-- Whether the place behind a number of units lies inside a surrogate pair. -/
def SplitsPair (text : List UInt16) (place : Nat) : Prop :=
  (∃ high ∈ (text.take place).getLast?, IsHigh high) ∧ ∃ low ∈ (text.drop place).head?, IsLow low

instance (text : List UInt16) (place : Nat) : Decidable (SplitsPair text place) :=
  inferInstanceAs (Decidable ((∃ high ∈ (text.take place).getLast?, IsHigh high) ∧
    ∃ low ∈ (text.drop place).head?, IsLow low))

@[simp]
theorem encode_nil : encode [] = [] := rfl

@[simp]
theorem encode_cons (c : Char) (text : Text) : encode (c :: text) = encodeChar c ++ encode text :=
  List.flatMap_cons

@[simp]
theorem encode_append (front back : Text) : encode (front ++ back) = encode front ++ encode back :=
  List.flatMap_append

/-- A text may be encoded in two parts. -/
theorem encode_take_append_drop (number : Nat) (text : Text) :
    encode (text.take number) ++ encode (text.drop number) = encode text := by
  rw [← encode_append, List.take_append_drop]

/-- Positions count the units that an editor keeps. -/
theorem length_encodeChar (c : Char) : (encodeChar c).length = units c := by
  unfold encodeChar units
  split <;> rfl

/-- A character has a first unit. -/
theorem exists_encodeChar_eq_cons (c : Char) : ∃ unit rest, encodeChar c = unit :: rest := by
  unfold encodeChar
  split
  · exact ⟨_, _, rfl⟩
  · exact ⟨_, _, rfl⟩

/-- There are sixteen planes above the first. -/
theorem toNat_lt (c : Char) : c.toNat < 0x110000 := by
  have hvalid : c.toNat < 0xD800 ∨ 0xDFFF < c.toNat ∧ c.toNat < 0x110000 := c.valid
  omega

theorem isHigh_highSurrogate {c : Char} (h : 0x10000 ≤ c.toNat) : IsHigh (highSurrogate c) := by
  have hlt := toNat_lt c
  have hvalue : (highSurrogate c).toNat = 0xD800 + (c.toNat - 0x10000) / 0x400 := by
    rw [highSurrogate, UInt16.toNat_ofNat']
    omega
  rw [IsHigh, hvalue]
  omega

theorem isLow_lowSurrogate (c : Char) : IsLow (lowSurrogate c) := by
  have hvalue : (lowSurrogate c).toNat = 0xDC00 + (c.toNat - 0x10000) % 0x400 := by
    rw [lowSurrogate, UInt16.toNat_ofNat']
    omega
  rw [IsLow, hvalue]
  omega

/-- Characters in front of the surrogates are read back from their units. -/
theorem ofNat_mem_encodeChar_iff {c d : Char} (h : d.toNat < 0xD800) :
    UInt16.ofNat d.toNat ∈ encodeChar c ↔ c = d := by
  have hvalue : (UInt16.ofNat d.toNat).toNat = d.toNat := by
    rw [UInt16.toNat_ofNat']
    omega
  constructor
  · intro hmem
    rw [encodeChar] at hmem
    split at hmem
    next hsmall =>
      have heq := congrArg UInt16.toNat (List.mem_singleton.1 hmem)
      rw [hvalue, UInt16.toNat_ofNat'] at heq
      exact Char.toNat_inj.1 (by omega)
    next hlarge =>
      -- the units of a pair are too large
      have hhigh := (isHigh_highSurrogate (c := c) (by omega)).1
      have hlow := (isLow_lowSurrogate c).1
      rcases List.mem_cons.1 hmem with heq | hmem
      · rw [← heq, hvalue] at hhigh
        omega
      · rw [← List.mem_singleton.1 hmem, hvalue] at hlow
        omega
  · rintro rfl
    rw [encodeChar, if_pos (by omega)]
    exact List.mem_singleton_self _

/-- A place inside a pair stays inside it with more units in front. -/
theorem SplitsPair.append {text : List UInt16} {place : Nat} (h : SplitsPair text place)
    (front : List UInt16) : SplitsPair (front ++ text) (front.length + place) := by
  obtain ⟨⟨high, hhigh, hsurrogate⟩, hlow⟩ := h
  refine ⟨⟨high, ?_, hsurrogate⟩, ?_⟩
  · rw [List.take_length_add_append, List.getLast?_append, hhigh]
    rfl
  · rwa [List.drop_length_add_append]

/-- The place between the units of a character is inside a pair. -/
theorem splitsPair_encodeChar {c : Char} (h : units c = 2) (back : List UInt16) :
    SplitsPair (encodeChar c ++ back) 1 := by
  have hlarge : ¬ c.toNat < 0x10000 := by
    intro hsmall
    rw [units, if_pos hsmall] at h
    exact absurd h (by decide)
  rw [encodeChar, if_neg hlarge]
  exact ⟨⟨highSurrogate c, rfl, isHigh_highSurrogate (by omega)⟩, lowSurrogate c, rfl,
    isLow_lowSurrogate c⟩

/-- **The characters in front of a column make up the units in front of it**, unless it lies inside a
pair. -/
theorem length_encode_take_column {content : Text} {place : Nat}
    (hplace : place ≤ (encode content).length) (hpair : ¬ SplitsPair (encode content) place) :
    (encode (content.take (column content place))).length = place := by
  induction content generalizing place with
  | nil => exact (Nat.le_zero.1 hplace).symm
  | cons c content ih =>
    rw [encode_cons, List.length_append, length_encodeChar] at hplace
    rw [column]
    split
    next hfits =>
      have hrest : ¬ SplitsPair (encode content) (place - units c) := by
        intro hsplits
        refine hpair ?_
        have hwhole := hsplits.append (encodeChar c)
        rwa [length_encodeChar, Nat.add_sub_cancel' hfits] at hwhole
      rw [List.take_succ_cons, encode_cons, List.length_append, length_encodeChar,
        ih (by omega) hrest]
      omega
    next hlarge =>
      -- the column lies in front of the character, or between its two units
      have hunits : units c = 1 ∨ units c = 2 := by
        unfold units
        split
        · exact .inl rfl
        · exact .inr rfl
      obtain rfl | ⟨rfl, htwo⟩ : place = 0 ∨ place = 1 ∧ units c = 2 := by omega
      · rfl
      · exact absurd (splitsPair_encodeChar htwo (encode content)) hpair

end UsingAdvisor.Document
