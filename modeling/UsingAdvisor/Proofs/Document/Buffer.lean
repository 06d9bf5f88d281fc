import UsingAdvisor.Proofs.Document.Offset

/-!
# Changes on a buffer

A buffer gives up the characters of a stretch only if the ends of the stretch are in order and in the text, and takes
new ones only at a place in the text. A change with a range asks both of it, first for the stretch between the two
offsets of the range and then for the new text at the smaller one (`Change.perform?`). The buffer never refuses:
offsets never leave the text, and the smaller one is still in the text when the stretch is gone. Main statement:
`changes_in_range`.
-/

namespace UsingAdvisor.Document

namespace Buffer

/-- The text without the stretch from `first` up to `last`. Without such a stretch the buffer refuses. -/
def remove? (first last : Nat) (text : Text) : Option Text :=
  if first ≤ last ∧ last ≤ text.length then some (text.take first ++ text.drop last) else none

/-- The text with `inserted` behind its first `place` characters. Without as many characters the buffer refuses. -/
def insert? (place : Nat) (inserted text : Text) : Option Text :=
  if place ≤ text.length then some (text.take place ++ (inserted ++ text.drop place)) else none

/-- The start of a stretch is in the text when the stretch is gone. -/
theorem le_length_of_removed {first last : Nat} {text : Text} (hfirst : first ≤ last) (hlast : last ≤ text.length) :
    first ≤ (text.take first ++ text.drop last).length := by
  rw [List.length_append, List.length_take_of_le (Nat.le_trans hfirst hlast)]
  exact Nat.le_add_right _ _

/-- **A stretch is replaced by removing it and inserting at its start.** -/
theorem insert?_of_remove? {first last : Nat} {text : Text} (hfirst : first ≤ last) (hlast : last ≤ text.length)
    (inserted : Text) :
    (remove? first last text).bind (insert? first inserted) = some (splice text first last inserted) := by
  have hlength : (text.take first).length = first := List.length_take_of_le (Nat.le_trans hfirst hlast)
  rw [remove?, if_pos ⟨hfirst, hlast⟩, Option.bind_some, insert?, if_pos (le_length_of_removed hfirst hlast),
    List.take_left' hlength, List.drop_left' hlength, splice]

end Buffer

/-- The document after a change is carried out on a buffer, unless the buffer refuses. -/
def Change.perform? (change : Change) (text : Text) : Option Text :=
  match change.range with
  | none => some change.newText
  | some range =>
    let first := offset text range.start
    let last := offset text range.stop
    (Buffer.remove? (min first last) (max first last) text).bind
      (Buffer.insert? (min first last) change.newText)

/-- The document after several changes, unless the buffer refuses one of them. -/
def performAll? (changes : List Change) (text : Text) : Option Text :=
  changes.foldlM (fun text change => change.perform? text) text

/-- The offsets of a range are in the text, the smaller one first. -/
theorem offsets_in_range (text : Text) (range : Range) :
    min (offset text range.start) (offset text range.stop) ≤ max (offset text range.start) (offset text range.stop) ∧
      max (offset text range.start) (offset text range.stop) ≤ text.length := by
  have hstart := offset_le_length text range.start
  have hstop := offset_le_length text range.stop
  omega

/-- **The buffer refuses no change**, and holds what the document is after it. -/
theorem Change.perform?_eq (change : Change) (text : Text) : change.perform? text = some (change.apply text) := by
  obtain ⟨range, newText⟩ := change
  cases range with
  | none => rfl
  | some range =>
    obtain ⟨hfirst, hlast⟩ := offsets_in_range text range
    exact Buffer.insert?_of_remove? hfirst hlast newText

/-- The ends of a range may come in either order. -/
theorem Change.apply_swap (range : Range) (newText text : Text) :
    Change.apply ⟨some ⟨range.stop, range.start⟩, newText⟩ text = Change.apply ⟨some range, newText⟩ text := by
  simp only [Change.apply, Edit.apply]
  rw [Nat.min_comm, Nat.max_comm]

/-- **The buffer refuses none of several changes**, each of which is to the result of those before it. -/
theorem performAll?_eq (changes : List Change) (text : Text) :
    performAll? changes text = some (applyChanges changes text) := by
  rw [performAll?, applyChanges]
  induction changes generalizing text with
  | nil => rfl
  | cons change changes ih =>
    rw [List.foldlM_cons, change.perform?_eq, Option.bind_eq_bind, Option.bind_some, ih, List.foldl_cons]

/-- **Changes are always in range.** A later position has no smaller offset, and no offset leaves the text. Whatever
the ends of its range, a change removes a stretch whose ends are in order and in the text, and inserts at a place that
is in the text when the stretch is gone. So the buffer does not refuse it, and holds then the text in front of the
smaller offset, the new text, and the text behind the larger one, whichever end the range gives first. Nor does the
buffer refuse any of a sequence of changes. -/
theorem changes_in_range (text : Text) :
    (∀ first second : Position, first.le second →
      offset text first ≤ offset text second ∧ offset text second ≤ text.length) ∧
    (∀ (range : Range) (newText : Text),
      let first := min (offset text range.start) (offset text range.stop)
      let last := max (offset text range.start) (offset text range.stop)
      let change : Change := ⟨some range, newText⟩
      (first ≤ last ∧ last ≤ text.length ∧ first ≤ (text.take first ++ text.drop last).length) ∧
      change.perform? text = some (change.apply text) ∧
      change.apply text = text.take first ++ (newText ++ text.drop last) ∧
      Change.apply ⟨some ⟨range.stop, range.start⟩, newText⟩ text = change.apply text) ∧
    ∀ changes : List Change, performAll? changes text = some (applyChanges changes text) := by
  refine ⟨fun first second h => ⟨offset_mono text h, offset_le_length text second⟩, ?_,
    fun changes => performAll?_eq changes text⟩
  intro range newText first last change
  obtain ⟨hfirst, hlast⟩ := offsets_in_range text range
  exact ⟨⟨hfirst, hlast, Buffer.le_length_of_removed hfirst hlast⟩, change.perform?_eq text, rfl,
    Change.apply_swap range newText text⟩

end UsingAdvisor.Document
