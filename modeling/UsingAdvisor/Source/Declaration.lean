import UsingAdvisor.Symbol
import UsingAdvisor.Text.Word

/-!
# Type declarations

A declaration is one of the four keywords, not preceded by a word character, at least one space or
tab, and a name: a capital letter of ASCII and the longest run of word characters after it. Main
statement: `read?_length_lt`, by which the list of a text's declarations is found in one pass.
-/

namespace UsingAdvisor.Source

open Text

/-- A type declaration: its kind and its name. -/
structure Declaration where
  kind : SymbolKind
  name : Text
  deriving DecidableEq, Repr

namespace Declaration

/-- The kind whose keyword stands in front of the text, and what follows the keyword. -/
def readKind? (text : Text) : Option (SymbolKind × Text) :=
  SymbolKind.all.findSome? fun kind => (dropFront? kind.keyword text).map (kind, ·)

/-- The type name in front of the text, and what follows it. -/
def readName? : Text → Option (Text × Text)
  | [] => none
  | c :: text => if isCapital c then some (c :: (wordRun text).1, (wordRun text).2) else none

/-- The declaration in front of the text, and what follows it. -/
def read? (text : Text) : Option (Declaration × Text) :=
  match readKind? text with
  | none => none
  | some (kind, spaced) =>
    match dropBlanks? spaced with
    | none => none
    | some named => (readName? named).map fun (name, rest) => (⟨kind, name⟩, rest)

/-- A keyword is not empty, so less is left after it. -/
theorem readKind?_length_lt {text rest : Text} {kind : SymbolKind}
    (h : readKind? text = some (kind, rest)) : rest.length < text.length := by
  unfold readKind? at h
  obtain ⟨found, -, hfound⟩ := List.exists_of_findSome?_eq_some h
  obtain ⟨after, hafter, hpair⟩ := Option.map_eq_some_iff.1 hfound
  obtain ⟨rfl, rfl⟩ := Prod.mk.inj hpair
  rw [dropFront?_eq_some_iff] at hafter
  have := found.keyword_length_pos
  simp only [hafter, List.length_append]
  omega

/-- Dropping spaces and tabs leaves less of the text. -/
theorem dropBlanks?_length_le {text rest : Text} (h : dropBlanks? text = some rest) :
    rest.length ≤ text.length := by
  cases text with
  | nil => simp [dropBlanks?] at h
  | cons c text =>
    simp only [dropBlanks?, Option.ite_none_right_eq_some, Option.some.injEq] at h
    obtain ⟨-, rfl⟩ := h
    exact Nat.le_trans (List.dropWhile_sublist _).length_le (by simp)

/-- Reading a name leaves less of the text. -/
theorem readName?_length_le {text name rest : Text} (h : readName? text = some (name, rest)) :
    rest.length ≤ text.length := by
  cases text with
  | nil => simp [readName?] at h
  | cons c text =>
    simp only [readName?, wordRun, Option.ite_none_right_eq_some, Option.some.injEq,
      Prod.mk.injEq] at h
    obtain ⟨-, -, rfl⟩ := h
    exact Nat.le_trans (List.dropWhile_sublist _).length_le (by simp)

/-- Reading a declaration leaves less of the text. -/
theorem read?_length_lt {text rest : Text} {declaration : Declaration}
    (h : read? text = some (declaration, rest)) : rest.length < text.length := by
  unfold read? at h
  split at h
  · contradiction
  next kind spaced hkind =>
    split at h
    · contradiction
    next named hnamed =>
      obtain ⟨⟨name, after⟩, hname, hpair⟩ := Option.map_eq_some_iff.1 h
      obtain ⟨-, rfl⟩ := Prod.mk.inj hpair
      have hkind := readKind?_length_lt hkind
      have hnamed := dropBlanks?_length_le hnamed
      have hname := readName?_length_le hname
      omega

/-- The declaration in front of the text, unless a word character stands in front of it, inside or
after which no keyword starts. -/
def readUnless? (inWord : Bool) (text : Text) : Option (Declaration × Text) :=
  if inWord then none else read? text

/-- Reading a declaration leaves less of the text, wherever the text stands. -/
theorem readUnless?_length_lt {inWord : Bool} {text rest : Text} {declaration : Declaration}
    (h : readUnless? inWord text = some (declaration, rest)) : rest.length < text.length := by
  simp only [readUnless?, Option.ite_none_left_eq_some] at h
  exact read?_length_lt h.2

/-- The declarations of a text, in order. `inWord` tells whether a word character stands in front
of the text, in which case no keyword starts there. -/
def listFrom (inWord : Bool) : Text → List Declaration
  | [] => []
  | c :: text =>
    match h : readUnless? inWord (c :: text) with
    | some (declaration, rest) =>
      have := readUnless?_length_lt h
      declaration :: listFrom true rest
    | none => listFrom (isWord c) text
termination_by text => text.length
decreasing_by
  · exact this
  · exact Nat.lt_succ_self _

end Declaration

/-- The type declarations of a text, in order. -/
def declarations (text : Text) : List Declaration :=
  Declaration.listFrom false text

end UsingAdvisor.Source
