import UsingAdvisor.Proofs.Text.Lines
import UsingAdvisor.Text.Padding

/-!
# Lines and fields are read back

Texts without line feeds that are joined by line feeds are the lines of the whole (`lines_join`). A line may have
several fields with spaces between them, and any number of spaces counts as one separator. A field that is padded
to its column and followed by a space is read back at any width, also where it is wider than the column
(`fields_pad`).
-/

namespace UsingAdvisor.Text

/-- Texts that are joined by line feeds are the lines of the whole. -/
theorem lines_join {texts : List Text} (hne : texts ≠ []) (h : ∀ text ∈ texts, '\n' ∉ text) :
    lines (join ['\n'] texts) = texts := by
  induction texts with
  | nil => contradiction
  | cons text texts ih =>
    obtain ⟨htext, htexts⟩ := List.forall_mem_cons.1 h
    obtain _ | ⟨next, texts⟩ := texts
    · exact lines_of_not_mem htext
    · rw [join, List.append_assoc, List.singleton_append, lines_append_lineFeed, lines_of_not_mem htext,
        ih (List.cons_ne_nil _ _) htexts, List.singleton_append]

/-- The parts of a text between its runs of spaces. There is always at least one, and it is empty where a run
stands at the front or at the end of the text. -/
def fields : Text → List Text
  | [] => [[]]
  | c :: text =>
    if c = ' ' then
      if text.head? = some ' ' then fields text else [] :: fields text
    else match fields text with
      | [] => [[c]]
      | part :: parts => (c :: part) :: parts

/-- What stands in front of a text without a space between them belongs to its first field. -/
theorem fields_append_of_not_mem {word text part : Text} {parts : List Text} (hspace : ' ' ∉ word)
    (h : fields text = part :: parts) : fields (word ++ text) = (word ++ part) :: parts := by
  induction word with
  | nil => exact h
  | cons c word ih =>
    obtain ⟨hc, hword⟩ := not_or.1 (mt List.mem_cons.2 hspace)
    rw [List.cons_append, fields, if_neg (Ne.symm hc), ih hword]
    rfl

theorem fields_of_not_mem {word : Text} (h : ' ' ∉ word) : fields word = [word] := by
  have hfields := fields_append_of_not_mem h (rfl : fields [] = [[]])
  rwa [List.append_nil] at hfields

/-- A run of spaces ends one field and starts another. -/
theorem fields_spaces (n : Nat) {rest : Text} (h : rest.head? ≠ some ' ') :
    fields (List.replicate n ' ' ++ ' ' :: rest) = [] :: fields rest := by
  induction n with
  | zero => rw [List.replicate_zero, List.nil_append, fields, if_pos rfl, if_neg h]
  | succ n ih =>
    have hmore : (List.replicate n ' ' ++ ' ' :: rest).head? = some ' ' := by
      obtain _ | n := n <;> rfl
    rw [List.replicate_succ, List.cons_append, fields, if_pos rfl, if_pos hmore, ih]

/-- **A padded column is read back**, whether its field is narrower or wider than the column. -/
theorem fields_pad (width : Nat) {part rest : Text} (hpart : ' ' ∉ part) (hrest : rest.head? ≠ some ' ') :
    fields (pad .left width part ++ ' ' :: rest) = part :: fields rest := by
  rw [pad, List.append_assoc, fields_append_of_not_mem hpart (fields_spaces _ hrest), List.append_nil]

end UsingAdvisor.Text
