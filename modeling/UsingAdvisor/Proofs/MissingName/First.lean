import UsingAdvisor.Advice.QuickFix
import UsingAdvisor.Proofs.MissingName
import UsingAdvisor.Proofs.Repetition
import UsingAdvisor.Proofs.Text.Dotted

/-!
# The first message in a text

A wording may stand anywhere in a message, more than once, with another name each time, and a place may look like
it for a while and then go on differently. What is read back is the name at the first place where all of the
wording stands around a non-empty run of word characters (`Wording.find?_eq_some_iff`). There is at most one name
for each place, since the quotation mark behind a name is no word character. The wording for a name is preferred
wherever it stands, so the one for a type counts only in a message without the other. Main statement:
`missingName?_exact`.
-/

namespace UsingAdvisor

open Text (IsRun dropFront? dropFront?_eq_some_iff wordRun wordRun_eq_iff)

namespace Wording

/-- The message about the name stands at the position in the text. The name is a non-empty run of word
characters. -/
structure QuotesAt (wording : Wording) (text : Text) (position : Nat) (name : Text) : Prop where
  isRun : IsRun name
  stands : wording.message name <+: text.drop position

/-- A message about some name stands in the text. -/
def Quotes (wording : Wording) (text : Text) : Prop :=
  ∃ position name, wording.QuotesAt text position name

/-- The message about the name stands in the text, and in front of it no message about any name starts. -/
def QuotesFirst (wording : Wording) (text name : Text) : Prop :=
  ∃ position, wording.QuotesAt text position name ∧
    ∀ earlier < position, ∀ other, ¬ wording.QuotesAt text earlier other

/-- The wording starts with a text of its own, and goes on with a quotation mark behind the name. -/
structure Closes (wording : Wording) : Prop where
  opening : wording.opening ≠ []
  closing : ∃ closing, wording.closing = '\'' :: closing

theorem closes_missingValue : missingValue.Closes :=
  ⟨by decide, _, rfl⟩

theorem closes_missingType : missingType.Closes :=
  ⟨by decide, _, rfl⟩

variable {wording : Wording}

/-- **The name that is read in front of a text is the one that a message there is about.** -/
theorem readName?_eq_some_iff (h : wording.Closes) {text name : Text} :
    wording.readName? text = some name ↔ wording.QuotesAt text 0 name := by
  obtain ⟨closing, hclosing⟩ := h.closing
  constructor
  · intro hread
    rw [readName?] at hread
    split at hread
    next => contradiction
    next quoted hquoted =>
      split at hread
      next => contradiction
      next c run rest hrun =>
        obtain ⟨hstarts, hname⟩ := Option.ite_none_right_eq_some.1 hread
        obtain ⟨rfl, hword, -⟩ := wordRun_eq_iff.1 hrun
        obtain ⟨back, hback⟩ := Option.isSome_iff_exists.1 hstarts
        rw [← Option.some.inj hname]
        refine ⟨⟨List.cons_ne_nil c run, hword⟩, back, ?_⟩
        rw [List.drop_zero, dropFront?_eq_some_iff.1 hquoted, dropFront?_eq_some_iff.1 hback, message,
          List.append_assoc, List.append_assoc]
  · rintro ⟨hrun, back, htext⟩
    rw [List.drop_zero] at htext
    rw [← htext]
    exact readName?_message hclosing hrun.word hrun.ne_nil back

/-- Nothing stands in the empty text. -/
theorem not_quotesAt_nil (h : wording.Closes) (position : Nat) (name : Text) :
    ¬ wording.QuotesAt [] position name := by
  rintro ⟨-, hstands⟩
  rw [List.drop_nil, List.prefix_nil, message] at hstands
  exact h.opening (List.append_eq_nil_iff.1 hstands).1

/-- Behind the first character of a text stands what stands in the rest of it. -/
theorem quotesAt_succ_iff {c : Char} {text name : Text} {position : Nat} :
    wording.QuotesAt (c :: text) (position + 1) name ↔ wording.QuotesAt text position name :=
  ⟨fun h => ⟨h.isRun, h.stands⟩, fun h => ⟨h.isRun, h.stands⟩⟩

/-- **The search finds the first message.** It goes on behind a place exactly if no message starts there. -/
theorem find?_eq_some_iff (h : wording.Closes) {text name : Text} :
    wording.find? text = some name ↔ wording.QuotesFirst text name := by
  induction text with
  | nil =>
    refine iff_of_false (by simp [find?]) ?_
    rintro ⟨position, hquotes, -⟩
    exact not_quotesAt_nil h position name hquotes
  | cons c text ih =>
    rw [find?]
    rcases hread : wording.readName? (c :: text) with _ | found
    · -- nothing starts here
      have hnone (other : Text) : ¬ wording.QuotesAt (c :: text) 0 other := by
        intro hquotes
        rw [(readName?_eq_some_iff h).2 hquotes] at hread
        contradiction
      rw [Option.none_or, ih]
      constructor
      · rintro ⟨position, hquotes, hfirst⟩
        refine ⟨position + 1, quotesAt_succ_iff.2 hquotes, ?_⟩
        rintro (_ | earlier) hearlier other hother
        · exact hnone other hother
        · exact hfirst earlier (by omega) other (quotesAt_succ_iff.1 hother)
      · rintro ⟨_ | position, hquotes, hfirst⟩
        · exact absurd hquotes (hnone name)
        · refine ⟨position, quotesAt_succ_iff.1 hquotes, fun earlier hearlier other hother => ?_⟩
          exact hfirst (earlier + 1) (by omega) other (quotesAt_succ_iff.2 hother)
    · have hfound : wording.QuotesAt (c :: text) 0 found := (readName?_eq_some_iff h).1 hread
      rw [Option.some_or, Option.some_inj]
      constructor
      · rintro rfl
        exact ⟨0, hfound, fun earlier hearlier => absurd hearlier (Nat.not_lt_zero earlier)⟩
      · rintro ⟨_ | position, hquotes, hfirst⟩
        · rw [(readName?_eq_some_iff h).2 hquotes] at hread
          exact (Option.some.inj hread).symm
        · exact absurd hfound (hfirst 0 (Nat.succ_pos position) found)

/-- Nothing is found where no message stands, and only there. -/
theorem find?_eq_none_iff (h : wording.Closes) {text : Text} :
    wording.find? text = none ↔ ¬ wording.Quotes text := by
  constructor
  · rintro hnone ⟨position, name, hquotes⟩
    induction text generalizing position with
    | nil => exact not_quotesAt_nil h position name hquotes
    | cons c text ih =>
      obtain ⟨hread, hrest⟩ := Option.or_eq_none_iff.1 hnone
      obtain _ | position := position
      · rw [(readName?_eq_some_iff h).2 hquotes] at hread
        contradiction
      · exact ih hrest position (quotesAt_succ_iff.1 hquotes)
  · intro hnot
    refine Option.eq_none_iff_forall_ne_some.2 fun name hname => hnot ?_
    obtain ⟨position, hquotes, -⟩ := (find?_eq_some_iff h).1 hname
    exact ⟨position, name, hquotes⟩

end Wording

/-- **A message is read by its first wording, and the wording for a name goes before that for a type.** If the
wording for a name stands anywhere in the message, the name at the first such place is read, even behind the
wording for a type. Otherwise it is the name at the first place where the wording for a type stands, and without
one nothing is read. The missing names of two lists of messages are those of the first list, and behind them those
of the second one that are not among them. -/
theorem missingName?_exact (message : Text) :
    (∀ name, missingName? message = some name ↔
      Wording.missingValue.QuotesFirst message name ∨
        ¬ Wording.missingValue.Quotes message ∧ Wording.missingType.QuotesFirst message name) ∧
    (missingName? message = none ↔
      ¬ Wording.missingValue.Quotes message ∧ ¬ Wording.missingType.Quotes message) ∧
    ∀ (first second : List Text) (index : SymbolIndex),
      Advice.indexedNames (first ++ second) index = Advice.indexedNames first index ++
        (Advice.indexedNames second index).filter
          fun name => !(Advice.indexedNames first index).contains name := by
  have hvalue := Wording.closes_missingValue
  have htype := Wording.closes_missingType
  refine ⟨fun name => ?_, ?_, fun first second index => ?_⟩
  · rw [missingName?, Option.or_eq_some_iff, Wording.find?_eq_some_iff hvalue, Wording.find?_eq_none_iff hvalue,
      Wording.find?_eq_some_iff htype]
  · rw [missingName?, Option.or_eq_none_iff, Wording.find?_eq_none_iff hvalue, Wording.find?_eq_none_iff htype]
  · rw [Advice.indexedNames, List.filterMap_append, List.filter_append, eraseDups_append_filter]
    rfl

/-- A wording that breaks off and starts again inside itself, behind one for a type. -/
example :
    missingName? ("The type or namespace name 'A' could not be found. The name 'The name 'b".toList ++
      "' does not exist in the current context; The name 'c' does not exist in the current context".toList) =
        some ['b'] := by
  decide +kernel

end UsingAdvisor
