import UsingAdvisor.Json.Parser
import UsingAdvisor.Json.Printer

/-!
# Strings are read back

Each character of a written string is read back as its code point, whether it stands for itself, is escaped by a
letter or is escaped by its number (`readCodes?_escape`). A character is no half of a pair of surrogates, so the
code points are put together one by one (`joinSurrogates?_map_toNat`). Main statement: `readString?_escape`.
-/

namespace UsingAdvisor.Json

/-- The number that the escape of a control character writes. -/
theorem hexNumber?_hexDigit :
    ∀ n < 0x20, hexNumber? '0' '0' (hexDigit (n / 16)) (hexDigit (n % 16)) = some n := by
  decide

section Codes

variable {rest after : Text} {codes : List Nat}

/-- A character that needs no escape stands for itself. -/
theorem readCodes?_of_plain {c : Char} (hquote : c ≠ '"') (hbackslash : c ≠ '\\') (hcontrol : ¬ c.toNat < 0x20)
    (h : readCodes? rest = some (codes, after)) :
    readCodes? (c :: rest) = some (c.toNat :: codes, after) := by
  rw [readCodes?, if_neg hcontrol, h]
  · rfl
  all_goals simp [hquote, hbackslash]

/-- **A character that is written in a string is read as its code point.** -/
theorem readCodes?_escape (c : Char) (h : readCodes? rest = some (codes, after)) :
    readCodes? (escape c ++ rest) = some (c.toNat :: codes, after) := by
  rw [escape]
  split
  next hc =>
    subst hc
    simp [readCodes?, h]
  next hquote =>
    split
    next hc =>
      subst hc
      simp [readCodes?, h]
    next hbackslash =>
      split
      next hcontrol =>
        split
        case h_6 =>
          simp only [List.cons_append, List.nil_append]
          rw [readCodes?, hexNumber?_hexDigit c.toNat hcontrol, h]
          rfl
        all_goals
          next hcode => simp [readCodes?, h, hcode]
      next hcontrol => exact readCodes?_of_plain hquote hbackslash hcontrol h

/-- The code points of a written string are those of its characters. -/
theorem readCodes?_flatMap_escape (value rest : Text) :
    readCodes? (value.flatMap escape ++ '"' :: rest) = some (value.map Char.toNat, rest) := by
  induction value with
  | nil => rfl
  | cons c value ih =>
    rw [List.flatMap_cons, List.append_assoc]
    exact readCodes?_escape c ih

end Codes

/-- Code points of characters are put together one by one. -/
theorem joinSurrogates?_map_toNat (value : Text) : joinSurrogates? (value.map Char.toNat) = some value := by
  induction value with
  | nil => rfl
  | cons c value ih =>
    have hc : c.toNat.isValidChar := c.valid
    obtain _ | ⟨d, value⟩ := value
    · rw [List.map_singleton, joinSurrogates?, if_pos hc, Char.ofNat_toNat]
    · rw [List.map_cons] at ih
      rw [List.map_cons, List.map_cons, joinSurrogates?, if_pos hc, ih, Option.map_some, Char.ofNat_toNat]

/-- **A written string is read back**, with what stands behind its closing mark left over. -/
theorem readString?_escape (value rest : Text) :
    readString? (value.flatMap escape ++ '"' :: rest) = some (value, rest) := by
  rw [readString?, readCodes?_flatMap_escape]
  simp [joinSurrogates?_map_toNat]

end UsingAdvisor.Json
