import UsingAdvisor.Document.Edit
import UsingAdvisor.Url

/-!
# Open documents

The texts of the documents that a client has open, by their URLs. Main statements: `get?_set` and
`get?_erase` (what is written under one URL is read back under it and leaves the others alone).
-/

namespace UsingAdvisor

/-- The open documents. A URL counts where it occurs first. -/
abbrev Documents := List (Url × Text)

namespace Documents

/-- The text of an open document. -/
def get? : Documents → Url → Option Text
  | [], _ => none
  | (key, text) :: rest, url => if url = key then some text else get? rest url

/-- The documents without one of them. -/
def erase (documents : Documents) (url : Url) : Documents :=
  documents.filter fun entry => entry.1 != url

/-- The documents with the text of one of them. -/
def set (documents : Documents) (url : Url) (text : Text) : Documents :=
  (url, text) :: documents.erase url

/-- The documents after changes to one of them. A document that is not open is opened empty. -/
def change (documents : Documents) (url : Url) (changes : List Document.Change) : Documents :=
  documents.set url (Document.applyChanges changes ((documents.get? url).getD []))

/-- A closed document has no text, and the others keep theirs. -/
theorem get?_erase (documents : Documents) (url other : Url) :
    (documents.erase url).get? other = if other = url then none else documents.get? other := by
  induction documents with
  | nil => simp [erase, get?]
  | cons entry rest ih =>
    obtain ⟨key, text⟩ := entry
    simp only [erase] at ih ⊢
    by_cases hkey : key = url
    · simp only [hkey, bne_self_eq_false, Bool.false_eq_true, not_false_eq_true,
        List.filter_cons_of_neg, ih, get?]
      split <;> rfl
    · simp only [bne_iff_ne, ne_eq, hkey, not_false_eq_true, List.filter_cons_of_pos, get?, ih]
      by_cases hother : other = key
      · simp [hother, hkey]
      · simp [hother]

/-- What is written is read back, and the other documents keep their texts. -/
theorem get?_set (documents : Documents) (url other : Url) (text : Text) :
    (documents.set url text).get? other =
      if other = url then some text else documents.get? other := by
  by_cases h : other = url
  · simp [set, get?, h]
  · simp [set, get?, h, get?_erase]

end Documents

end UsingAdvisor
