import UsingAdvisor.Source.Declaration
import UsingAdvisor.Proofs.Text.Stop

/-!
# Declarations line by line

A declaration never goes on behind a line feed: neither a keyword nor a name has one in it, and no line feed is
among the blanks between them. Behind a line feed no word goes on either, so that a keyword may start there. The
declarations of two texts with a line feed between them are therefore those of the one and those of the other
(`declarations_append_lineFeed`).

A keyword has a blank behind it, so a text without blanks declares nothing (`listFrom_of_not_blank`).
-/

namespace UsingAdvisor.Source

open Text (dropFront? dropBlanks? isBlank isWord)

namespace Declaration

/-! ### One search after another -/

/-- The first declaration ahead, and those behind it. -/
theorem listFrom_of_some {inWord : Bool} {text rest : Text} {declaration : Declaration}
    (h : readUnless? inWord text = some (declaration, rest)) :
    listFrom inWord text = declaration :: listFrom true rest := by
  have hlength := readUnless?_length_lt h
  cases text with
  | nil => simp at hlength
  | cons c text =>
    rw [listFrom]
    split
    next found after hsome =>
      obtain ⟨rfl, rfl⟩ := Prod.mk.inj (Option.some.inj (h.symm.trans hsome))
      rfl
    next hnone => rw [h] at hnone; cases hnone

/-- Where no declaration starts, the search goes on with the next character. -/
theorem listFrom_of_none {inWord : Bool} {c : Char} {text : Text}
    (h : readUnless? inWord (c :: text) = none) :
    listFrom inWord (c :: text) = listFrom (isWord c) text := by
  rw [listFrom]
  split
  next found after hsome => rw [h] at hsome; cases hsome
  next => rfl

/-! ### Reading in front of a line feed -/

theorem readKind?_stop (front back : Text) :
    readKind? (front ++ '\n' :: back) =
      (readKind? front).map fun read => (read.1, read.2 ++ '\n' :: back) := by
  have hkeyword (kind : SymbolKind) : '\n' ∉ kind.keyword := by cases kind <;> decide
  rw [readKind?, readKind?, List.map_findSome?]
  refine congrArg (SymbolKind.all.findSome? ·) (funext fun kind => ?_)
  rw [Text.dropFront?_stop (hkeyword kind), Function.comp_apply, Option.map_map, Option.map_map]
  rfl

theorem readName?_stop (front back : Text) :
    readName? (front ++ '\n' :: back) =
      (readName? front).map fun read => (read.1, read.2 ++ '\n' :: back) := by
  cases front with
  | nil => rfl
  | cons c front =>
    rw [List.cons_append, readName?, readName?, Text.wordRun_stop Text.stops_lineFeed]
    split <;> rfl

/-- A declaration is read in front of the line feed. -/
theorem read?_stop (front back : Text) :
    read? (front ++ '\n' :: back) =
      (read? front).map fun read => (read.1, read.2 ++ '\n' :: back) := by
  rw [read?, readKind?_stop, read?]
  cases readKind? front with
  | none => rfl
  | some kind =>
    simp only [Option.map_some, Text.dropBlanks?_stop Text.stops_lineFeed]
    cases dropBlanks? kind.2 with
    | none => rfl
    | some named =>
      simp only [Option.map_some, readName?_stop, Option.map_map]
      rfl

theorem readUnless?_stop (inWord : Bool) (front back : Text) :
    readUnless? inWord (front ++ '\n' :: back) =
      (readUnless? inWord front).map fun read => (read.1, read.2 ++ '\n' :: back) := by
  rw [readUnless?, readUnless?]
  split
  · rfl
  · exact read?_stop front back

/-! ### Declarations of two texts -/

/-- The search starts anew behind a line feed. -/
theorem listFrom_append_lineFeed (inWord : Bool) (front back : Text) :
    listFrom inWord (front ++ '\n' :: back) = listFrom inWord front ++ listFrom false back := by
  fun_induction listFrom inWord front with
  | case1 inWord =>
    have hnone : readUnless? inWord ('\n' :: back) = none := by
      refine (readUnless?_stop inWord [] back).trans ?_
      cases inWord <;> rfl
    have hfeed : isWord '\n' = false := Text.stops_lineFeed.isWord
    rw [List.nil_append, listFrom_of_none hnone, hfeed, List.nil_append]
  | case2 inWord c front declaration rest hfound _ ih =>
    have hboth : readUnless? inWord (c :: front ++ '\n' :: back) =
        some (declaration, rest ++ '\n' :: back) := by
      rw [readUnless?_stop, hfound, Option.map_some]
    rw [listFrom_of_some hboth, ih, List.cons_append]
  | case3 inWord c front hnone ih =>
    have hboth : readUnless? inWord (c :: front ++ '\n' :: back) = none := by
      rw [readUnless?_stop, hnone, Option.map_none]
    rw [List.cons_append] at hboth ⊢
    rw [listFrom_of_none hboth, ih]

/-! ### Texts without declarations -/

/-- No declaration starts in a word. -/
theorem listFrom_word {word : Text} (h : word.all isWord = true) (text : Text) :
    listFrom true (word ++ text) = listFrom true text := by
  induction word with
  | nil => rfl
  | cons c word ih =>
    rw [List.all_cons, Bool.and_eq_true] at h
    obtain ⟨hc, hword⟩ := h
    rw [List.cons_append, listFrom_of_none rfl, hc, ih hword]

/-- A declaration has a blank in it, behind its keyword. -/
theorem read?_of_not_blank {text : Text} (h : ∀ c ∈ text, isBlank c = false) : read? text = none := by
  rw [read?]
  cases hkind : readKind? text with
  | none => rfl
  | some read =>
    obtain ⟨found, -, hfound⟩ := List.exists_of_findSome?_eq_some hkind
    obtain ⟨spaced, hspaced, rfl⟩ := Option.map_eq_some_iff.1 hfound
    have htext : text = found.keyword ++ spaced := Text.dropFront?_eq_some_iff.1 hspaced
    have hblanks : dropBlanks? spaced = none := by
      cases spaced with
      | nil => rfl
      | cons c spaced => rw [dropBlanks?, if_neg (by simp [h c (by simp [htext])])]
    simp only [hblanks]

theorem listFrom_of_not_blank {text : Text} (h : ∀ c ∈ text, isBlank c = false) (inWord : Bool) :
    listFrom inWord text = [] := by
  induction text generalizing inWord with
  | nil => rw [listFrom]
  | cons c text ih =>
    have hnone : readUnless? inWord (c :: text) = none := by
      rw [readUnless?, read?_of_not_blank h, ite_self]
    rw [listFrom_of_none hnone, ih fun d hd => h d (List.mem_cons_of_mem c hd)]

end Declaration

/-- **The declarations of two texts with a line feed between them** are those of the one and those of the
other. -/
theorem declarations_append_lineFeed (front back : Text) :
    declarations (front ++ '\n' :: back) = declarations front ++ declarations back :=
  Declaration.listFrom_append_lineFeed false front back

end UsingAdvisor.Source
