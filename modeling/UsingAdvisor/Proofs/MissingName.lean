import UsingAdvisor.MissingName
import UsingAdvisor.Proofs.Text.Runs

/-!
# Names that are read back from messages

A message quotes its name, and the quote after the name is no word character, so the name that is read is the
name that was written (`Wording.readName?_message`). The wording for a name is tried first, and it fits
nowhere in a message about a type: its capital letter stands only in front of that message and in the name,
and behind a name there is no blank (`Wording.find?_missingType`). Main statement: `missingName?_of_mem`.
-/

namespace UsingAdvisor

open Text (isWord wordRun dropFront? dropFront?_eq_some_iff)

/-- A run of word characters ends where the next character is none. -/
theorem Text.wordRun_append {name : Text} (hname : ∀ c ∈ name, isWord c = true) {stop : Char}
    (hstop : isWord stop = false) (rest : Text) : wordRun (name ++ stop :: rest) = (name, stop :: rest) :=
  wordRun_eq_iff.2 ⟨rfl, hname, fun _ hc => Option.some.inj hc ▸ hstop⟩

theorem Text.isWord_quote : isWord '\'' = false := by decide

namespace Wording

/-- What a compiler adds to its message about a type. -/
def hint : Text :=
  " (are you missing a using directive or an assembly reference?)".toList

/-- The name that a wording quotes is read back, whatever stands behind the message. -/
theorem readName?_message {wording : Wording} {closing name : Text}
    (hclosing : wording.closing = '\'' :: closing) (hname : ∀ c ∈ name, isWord c = true)
    (hne : name ≠ []) (more : Text) :
    wording.readName? (wording.message name ++ more) = some name := by
  have hfront : dropFront? wording.opening (wording.message name ++ more) =
      some (name ++ '\'' :: (closing ++ more)) := by
    rw [dropFront?_eq_some_iff, message, hclosing]
    simp
  have hquoted : Text.startsWith wording.closing ('\'' :: (closing ++ more)) = true := by
    rw [Text.startsWith, hclosing, dropFront?_eq_some_iff.2 (List.cons_append ..).symm]
    rfl
  have hrun := Text.wordRun_append hname Text.isWord_quote (closing ++ more)
  rw [readName?, hfront]
  simp only [hrun]
  cases name with
  | nil => exact absurd rfl hne
  | cons c name => simp [hquoted]

/-- Where the wording goes on with another character, nothing is read. -/
theorem readName?_append_of_ne {wording : Wording} {front opening : Text} {c d : Char}
    (hopening : wording.opening = front ++ c :: opening) (h : c ≠ d) (text : Text) :
    wording.readName? (front ++ d :: text) = none := by
  rw [readName?]
  cases hfront : dropFront? wording.opening (front ++ d :: text) with
  | none => rfl
  | some quoted =>
    have heq := dropFront?_eq_some_iff.1 hfront
    rw [hopening, List.append_assoc, List.cons_append] at heq
    exact absurd (List.cons.inj (List.append_cancel_left heq)).1 (Ne.symm h)

/-- A text without the first character of the wording is passed over. -/
theorem find?_append_of_not_mem {wording : Wording} {first : Char} {opening : Text}
    (hopening : wording.opening = first :: opening) {front : Text} (h : first ∉ front) (rest : Text) :
    wording.find? (front ++ rest) = wording.find? rest := by
  induction front with
  | nil => rfl
  | cons c front ih =>
    obtain ⟨hc, hfront⟩ := not_or.1 (mt List.mem_cons.2 h)
    have hnone : wording.readName? (c :: (front ++ rest)) = none :=
      @readName?_append_of_ne wording [] opening first c hopening hc (front ++ rest)
    rw [List.cons_append, find?, hnone, Option.none_or, ih hfront]

/-- The wording for a name does not fit at a run of word characters in front of a quote: behind its first
word there is a blank. -/
theorem readName?_missingValue_of_quote {name : Text} (hname : ∀ c ∈ name, isWord c = true)
    (rest : Text) : missingValue.readName? (name ++ '\'' :: rest) = none := by
  rw [readName?]
  cases hfront : dropFront? missingValue.opening (name ++ '\'' :: rest) with
  | none => rfl
  | some quoted =>
    have hopening : missingValue.opening = "The".toList ++ ' ' :: "name '".toList := by decide
    have heq : name ++ '\'' :: rest = "The".toList ++ ' ' :: ("name '".toList ++ quoted) := by
      rw [dropFront?_eq_some_iff.1 hfront, hopening, List.append_assoc, List.cons_append]
    have hthe : ∀ c ∈ "The".toList, isWord c = true := List.all_eq_true.1 (by decide)
    have hblank : isWord ' ' = false := by decide
    have hruns := Text.wordRun_append hname Text.isWord_quote rest
    rw [heq, Text.wordRun_append hthe hblank] at hruns
    exact absurd (List.cons.inj (Prod.mk.inj hruns).2).1 (by decide)

/-- The wording for a name fits nowhere in a quoted name. -/
theorem find?_missingValue_of_quote {name : Text} (hname : ∀ c ∈ name, isWord c = true)
    (rest : Text) :
    missingValue.find? (name ++ '\'' :: rest) = missingValue.find? rest := by
  induction name with
  | nil =>
    have hfront : 'T' ∉ ['\''] := by decide
    exact find?_append_of_not_mem rfl hfront rest
  | cons c name ih =>
    have htail := (List.forall_mem_cons.1 hname).2
    have hnone := readName?_missingValue_of_quote hname rest
    rw [List.cons_append] at hnone ⊢
    rw [find?, hnone, Option.none_or, ih htail]

/-- **The wording for a name fits nowhere in a message about a type.** -/
theorem find?_missingType {name more : Text} (hname : ∀ c ∈ name, isWord c = true) (hmore : 'T' ∉ more) :
    missingValue.find? (missingType.message name ++ more) = none := by
  have hcapital : missingValue.opening = 'T' :: "he name '".toList := by decide
  have hopening : missingValue.opening = "The ".toList ++ 'n' :: "ame '".toList := by decide
  have hfront : 'T' :: "he type or namespace name '".toList =
      "The ".toList ++ 't' :: "ype or namespace name '".toList := by decide
  have hmessage : missingType.message name ++ more =
      'T' :: ("he type or namespace name '".toList ++
        (name ++ '\'' :: (" could not be found".toList ++ more))) := by
    have hopening : missingType.opening = 'T' :: "he type or namespace name '".toList := by decide
    have hclosing : missingType.closing = '\'' :: " could not be found".toList := rfl
    simp only [message, hopening, hclosing, List.append_assoc, List.cons_append]
  -- in front, where the capital letter stands, the fifth character is another
  have hnone (rest : Text) :
      missingValue.readName? ('T' :: ("he type or namespace name '".toList ++ rest)) = none := by
    rw [← List.cons_append, hfront, List.append_assoc, List.cons_append]
    exact readName?_append_of_ne hopening (by decide) _
  have htail : missingValue.find? (" could not be found".toList ++ more) = none := by
    rw [find?_append_of_not_mem hcapital (by decide), ← List.append_nil more,
      find?_append_of_not_mem hcapital hmore]
    rfl
  rw [hmessage, find?, hnone, Option.none_or, find?_append_of_not_mem hcapital (by decide),
    find?_missingValue_of_quote hname, htail]

/-- The name that a wording quotes in front of a text is the one that is found. -/
theorem find?_message {wording : Wording} {closing name : Text} (hopening : wording.opening ≠ [])
    (hclosing : wording.closing = '\'' :: closing) (hname : ∀ c ∈ name, isWord c = true)
    (hne : name ≠ []) (more : Text) :
    wording.find? (wording.message name ++ more) = some name := by
  obtain ⟨first, opening, hcons⟩ := List.exists_cons_of_ne_nil hopening
  have hread := readName?_message hclosing hname hne more
  rw [message, hcons, List.cons_append, List.cons_append] at hread ⊢
  rw [find?, hread, Option.some_or]

end Wording

/-- The messages that report a name as missing: the one about a name, and the one about a type, with or
without what a compiler adds to it. -/
def messagesFor (name : Text) : List Text :=
  [Wording.missingValue.message name, Wording.missingType.message name,
    Wording.missingType.message name ++ Wording.hint]

/-- No message reports the empty name. -/
theorem missingName?_of_mem_nil {message : Text} (h : message ∈ messagesFor []) :
    missingName? message = none := by
  revert message
  decide +kernel

/-- **The name that a message reports is read back.** -/
theorem missingName?_of_mem {name message : Text} (hname : ∀ c ∈ name, isWord c = true)
    (hne : name ≠ []) (h : message ∈ messagesFor name) : missingName? message = some name := by
  have hvalue (more : Text) : missingName? (Wording.missingValue.message name ++ more) = some name := by
    rw [missingName?, Wording.find?_message (by decide) rfl hname hne, Option.some_or]
  have htype {more : Text} (hmore : 'T' ∉ more) :
      missingName? (Wording.missingType.message name ++ more) = some name := by
    rw [missingName?, Wording.find?_missingType hname hmore, Option.none_or,
      Wording.find?_message (by decide) rfl hname hne]
  simp only [messagesFor, List.mem_cons, List.not_mem_nil, or_false] at h
  rcases h with rfl | rfl | rfl
  · simpa using hvalue []
  · simpa using htype (List.not_mem_nil)
  · exact htype (by decide)

end UsingAdvisor
