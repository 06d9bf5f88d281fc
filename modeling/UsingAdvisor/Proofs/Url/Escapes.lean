import UsingAdvisor.FilePath
import UsingAdvisor.Url.Parser

/-!
# Escaped names

A name is a sequence of bytes, and in a URL it is written with the characters that stand for themselves and with
escapes, in capitals or small letters (`Escapes`). Every name can be written so (`escapes_escapeName`), and decoding
gives the name back (`Escapes.decode_eq`). What is written holds no character that means something in a URL or that
a URL does not keep as it is (`Escapes.isWritten`), and it is no dot segment, unless the name is dots: these are
known by what they decode to (`decode_of_isDot`, `decode_of_isDoubleDot`).
-/

namespace UsingAdvisor.Url

/-- What holds of every character of ASCII by its code. -/
theorem of_lt_ascii {P : Char → Prop} (h : ∀ n < 0x80, P (Char.ofNat n)) {c : Char} (hc : c.toNat < 0x80) : P c :=
  Char.ofNat_toNat c ▸ h c.toNat hc

/-! ### Characters -/

/-- Characters that stand for themselves wherever they stand in a URL. -/
def isUnreserved (c : Char) : Bool :=
  c.isAlphanum || c ∈ ['-', '_', '~', '.']

/-- Characters that an escaped name is written with. -/
def isWritten (c : Char) : Bool :=
  isUnreserved c || c == '%'

theorem isAlphanum_lt {c : Char} (h : c.isAlphanum = true) : c.toNat < 0x80 := by
  have hranges : c.isAlphanum = ((decide ('A'.val ≤ c.val ∧ c.val ≤ 'Z'.val) ||
    (decide ('a'.val ≤ c.val) && decide (c.val ≤ 'z'.val))) ||
      (decide ('0'.val ≤ c.val) && decide (c.val ≤ '9'.val))) := rfl
  simp only [hranges, Bool.or_eq_true, Bool.and_eq_true, decide_eq_true_eq, UInt32.le_iff_toNat_le] at h
  change c.val.toNat < 0x80
  have hbounds : 'Z'.val.toNat < 0x80 ∧ 'z'.val.toNat < 0x80 ∧ '9'.val.toNat < 0x80 := by decide
  omega

theorem isWritten_lt {c : Char} (h : isWritten c = true) : c.toNat < 0x80 := by
  simp only [isWritten, isUnreserved, Bool.or_eq_true, decide_eq_true_eq, beq_iff_eq, List.mem_cons,
    List.not_mem_nil, or_false] at h
  rcases h with (h | rfl | rfl | rfl | rfl) | rfl
  · exact isAlphanum_lt h
  all_goals decide

/-- A hexadecimal digit is a letter or a digit. -/
theorem isUnreserved_of_hexValue? {c : Char} {value : Nat} (h : hexValue? c = some value) :
    isUnreserved c = true := by
  have hlt : c.toNat < 0x80 := by
    rw [hexValue?] at h
    simp only [Char.le_def, UInt32.le_iff_toNat_le] at h
    change c.val.toNat < 0x80
    have hbounds : '9'.val.toNat < 0x80 ∧ 'f'.val.toNat < 0x80 ∧ 'F'.val.toNat < 0x80 := by decide
    split at h
    · omega
    · split at h
      · omega
      · split at h
        · omega
        · contradiction
  have hdigits : ∀ n < 0x80, (hexValue? (Char.ofNat n)).isSome → isUnreserved (Char.ofNat n) = true := by
    decide +kernel
  exact of_lt_ascii (P := fun c => (hexValue? c).isSome → isUnreserved c = true) hdigits hlt (h ▸ rfl)

/-- What a URL does with a character that a name is written with: it is kept in a segment, and neither separates
anything nor ends a drive letter. -/
structure IsKept (c : Char) : Prop where
  encode : (0x7F ≤ c.toNat || inPath c) = false
  isBreak : isBreak c = false
  isSlash : Kind.file.isSlash c = false
  visible : 0x20 < c.toNat
  ne_marks : c ≠ ':' ∧ c ≠ '|' ∧ c ≠ '?' ∧ c ≠ '#'

/-- Characters that a name is written with mean nothing else in a URL. -/
theorem isKept_of_isWritten {c : Char} (h : isWritten c = true) : IsKept c := by
  have hkept : ∀ n < 0x80, isWritten (Char.ofNat n) = true →
      (0x7F ≤ (Char.ofNat n).toNat || inPath (Char.ofNat n)) = false ∧ isBreak (Char.ofNat n) = false ∧
        Kind.file.isSlash (Char.ofNat n) = false ∧ 0x20 < (Char.ofNat n).toNat ∧ Char.ofNat n ≠ ':' ∧
          Char.ofNat n ≠ '|' ∧ Char.ofNat n ≠ '?' ∧ Char.ofNat n ≠ '#' := by
    decide +kernel
  have hc := hkept c.toNat (isWritten_lt h)
  rw [Char.ofNat_toNat] at hc
  obtain ⟨hencode, hbreak, hslash, hvisible, hmarks⟩ := hc h
  exact ⟨hencode, hbreak, hslash, hvisible, hmarks⟩

/-! ### Names -/

/-- The text writes the bytes: each of them as an escape, its digits capitals or small letters, or as the character
that it is, if that stands for itself. -/
inductive Escapes : Text → Bytes → Prop
  | nil : Escapes [] []
  | kept {c : Char} {text : Text} {name : Bytes} (h : isUnreserved c = true) (rest : Escapes text name) :
      Escapes (c :: text) (UInt8.ofNat c.toNat :: name)
  | escaped {a b : Char} {high low : Nat} {text : Text} {name : Bytes} (ha : hexValue? a = some high)
      (hb : hexValue? b = some low) (rest : Escapes text name) :
      Escapes ('%' :: a :: b :: text) (UInt8.ofNat (high * 16 + low) :: name)

/-- What stands for itself is one byte. -/
theorem utf8EncodeChar_of_isUnreserved {c : Char} (h : isUnreserved c = true) :
    String.utf8EncodeChar c = [UInt8.ofNat c.toNat] := by
  have hlt : c.toNat < 0x80 := isWritten_lt (by rw [isWritten, h, Bool.true_or])
  change c.val.toNat < 0x80 at hlt
  rw [String.utf8EncodeChar, if_pos (Nat.le_of_lt_succ hlt)]
  rfl

/-- **Decoding gives the name back.** -/
theorem Escapes.decode_eq {text : Text} {name : Bytes} (h : Escapes text name) : decode text = name := by
  induction h with
  | nil => rfl
  | @kept c text name hc _ ih =>
    have hpercent : c ≠ '%' := by
      rintro rfl
      exact absurd hc (by decide)
    rw [decode, utf8EncodeChar_of_isUnreserved hc, ih, List.singleton_append]
    simp [hpercent]
  | escaped ha hb _ ih => rw [decode, ha, hb, ih]

theorem Escapes.isWritten {text : Text} {name : Bytes} (h : Escapes text name) : ∀ c ∈ text, isWritten c = true := by
  have hplain {c : Char} (hc : isUnreserved c = true) : Url.isWritten c = true := by
    rw [Url.isWritten, hc, Bool.true_or]
  induction h with
  | nil => exact List.forall_mem_nil _
  | kept hc _ ih => exact List.forall_mem_cons.2 ⟨hplain hc, ih⟩
  | escaped ha hb _ ih =>
    refine List.forall_mem_cons.2 ⟨rfl, List.forall_mem_cons.2 ⟨?_, List.forall_mem_cons.2 ⟨?_, ih⟩⟩⟩
    · exact hplain (isUnreserved_of_hexValue? ha)
    · exact hplain (isUnreserved_of_hexValue? hb)

/-- A name with everything escaped that does not stand for itself, in capitals. -/
def escapeName (name : Bytes) : Text :=
  name.flatMap fun byte =>
    if isUnreserved (Char.ofNat byte.toNat) then [Char.ofNat byte.toNat] else escapeByte byte

/-- **Every name can be written.** -/
theorem escapes_escapeName (name : Bytes) : Escapes (escapeName name) name := by
  have hdigit : ∀ n < 16, hexValue? (hexDigit n) = some n := by decide
  induction name with
  | nil => exact .nil
  | cons byte name ih =>
    have hbyte : byte.toNat < 256 := byte.toNat_lt
    rw [escapeName, List.flatMap_cons, ← escapeName]
    split
    next hkept =>
      have hvalid : byte.toNat.isValidChar := .inl (by omega)
      have heq : UInt8.ofNat (Char.ofNat byte.toNat).toNat = byte := by
        rw [Char.ofNat, dif_pos hvalid]
        exact UInt8.ofNat_toNat
      have hescapes := Escapes.kept hkept ih
      rwa [heq] at hescapes
    next =>
      have hescapes := Escapes.escaped (hdigit (byte.toNat / 16) (by omega)) (hdigit (byte.toNat % 16) (by omega)) ih
      rwa [Nat.div_add_mod', UInt8.ofNat_toNat] at hescapes

/-! ### Dots -/

/-- A character is its own small form, unless it is a capital letter. -/
theorem toLower_eq_or (c : Char) : c.toLower = c ∨ c.isUpper = true ∧ c.toNat < 0x80 := by
  by_cases hupper : 'A'.val ≤ c.val ∧ c.val ≤ 'Z'.val
  · have hlt : c.toNat < 0x80 := Nat.lt_of_le_of_lt (UInt32.le_iff_toNat_le.1 hupper.2) (by decide)
    exact .inr ⟨decide_eq_true hupper, hlt⟩
  · exact .inl (dif_neg hupper)

/-- Only a letter is the small form of another character. -/
theorem eq_of_toLower_eq {c d : Char} (hd : d.isAlpha = false) (h : c.toLower = d) : c = d := by
  have hletters : ∀ n < 0x80, (Char.ofNat n).isUpper = true → (Char.ofNat n).toLower.isAlpha = true := by
    decide +kernel
  rcases toLower_eq_or c with hlower | ⟨hupper, hlt⟩
  · rwa [hlower] at h
  · have hletter := hletters c.toNat hlt
    rw [Char.ofNat_toNat, h, hd] at hletter
    exact absurd (hletter hupper) Bool.false_ne_true

/-- Capitals and small letters are the same hexadecimal digits. -/
theorem hexValue?_toLower (c : Char) : hexValue? c.toLower = hexValue? c := by
  have hletters : ∀ n < 0x80, hexValue? (Char.ofNat n).toLower = hexValue? (Char.ofNat n) := by decide +kernel
  rcases toLower_eq_or c with hlower | ⟨-, hlt⟩
  · rw [hlower]
  · exact of_lt_ascii (P := fun c => hexValue? c.toLower = hexValue? c) hletters hlt

/-- A dot, or the escape of one, in small letters. -/
def IsDotMark (mark : Text) : Prop :=
  mark = ['.'] ∨ mark = ['%', '2', 'e']

/-- A dot in front of a segment decodes to a dot, whether it is escaped or not. -/
theorem decode_of_isDotMark {segment mark lower : Text} (hmark : IsDotMark mark)
    (h : segment.map Char.toLower = mark ++ lower) :
    ∃ rest, rest.map Char.toLower = lower ∧ decode segment = FilePath.dot :: decode rest := by
  rcases hmark with rfl | rfl
  · obtain ⟨c, rest, rfl, hc, hrest⟩ := List.map_eq_cons_iff.1 h
    obtain rfl : c = '.' := eq_of_toLower_eq (by decide) hc
    exact ⟨rest, hrest, rfl⟩
  · obtain ⟨c, more, rfl, hc, hmore⟩ := List.map_eq_cons_iff.1 h
    obtain ⟨a, more, rfl, ha, hmore⟩ := List.map_eq_cons_iff.1 hmore
    obtain ⟨b, rest, rfl, hb, hrest⟩ := List.map_eq_cons_iff.1 hmore
    obtain rfl : c = '%' := eq_of_toLower_eq (by decide) hc
    have hhigh : hexValue? a = some 2 := by rw [← hexValue?_toLower, ha]; rfl
    have hlow : hexValue? b = some 14 := by rw [← hexValue?_toLower, hb]; rfl
    refine ⟨rest, hrest, ?_⟩
    rw [decode, hhigh, hlow]
    rfl

/-- **A segment that stands for its directory decodes to a dot.** -/
theorem decode_of_isDot {segment : Text} (h : isDot segment = true) : decode segment = [FilePath.dot] := by
  simp only [isDot, decide_eq_true_eq, List.mem_cons, List.not_mem_nil, or_false] at h
  have hmark : IsDotMark (segment.map Char.toLower) := h
  obtain ⟨rest, hrest, hdecode⟩ := decode_of_isDotMark hmark (List.append_nil _).symm
  rw [hdecode, List.map_eq_nil_iff.1 hrest, decode]

/-- **A segment that stands for the directory above decodes to two dots.** -/
theorem decode_of_isDoubleDot {segment : Text} (h : isDoubleDot segment = true) :
    decode segment = [FilePath.dot, FilePath.dot] := by
  simp only [isDoubleDot, decide_eq_true_eq, List.mem_cons, List.not_mem_nil, or_false] at h
  obtain ⟨first, second, hfirst, hsecond, hmarks⟩ : ∃ first second, IsDotMark first ∧ IsDotMark second ∧
      segment.map Char.toLower = first ++ second := by
    rcases h with h | h | h | h
    · exact ⟨['.'], ['.'], .inl rfl, .inl rfl, h⟩
    · exact ⟨['.'], ['%', '2', 'e'], .inl rfl, .inr rfl, h⟩
    · exact ⟨['%', '2', 'e'], ['.'], .inr rfl, .inl rfl, h⟩
    · exact ⟨['%', '2', 'e'], ['%', '2', 'e'], .inr rfl, .inr rfl, h⟩
  obtain ⟨more, hmore, hdecode⟩ := decode_of_isDotMark hfirst hmarks
  obtain ⟨rest, hrest, hdecodeMore⟩ := decode_of_isDotMark hsecond (hmore.trans (List.append_nil second).symm)
  rw [hdecode, hdecodeMore, List.map_eq_nil_iff.1 hrest, decode]

end UsingAdvisor.Url
