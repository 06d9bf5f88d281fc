import UsingAdvisor.Proofs.Source.Declarations
import UsingAdvisor.Proofs.Text.Runs

/-!
# Declarations in their places

A declaration that is read in front of a text stands there: its keyword, spaces or tabs, and a name that goes on
as far as word characters do (`Declaration.read?_eq_some_iff`). So whether a declaration stands at a place can be
told there alone. `occurrences` are the declarations of a text in their places, each place looked at on its own,
without a search that goes on behind the last declaration found. The search still finds them all, since no keyword
starts inside a declaration: a word goes on at every letter of the keyword but the first, and of the name as well;
a blank is the first letter of no keyword, and neither is the capital letter that the name starts with
(`Occurrence.map_declaration_listFrom`). Main statement: `declarations_exact`.
-/

namespace UsingAdvisor

/-- A capital letter with a run of word characters behind it. -/
def IsTypeName (name : Text) : Prop :=
  ∃ first rest, name = first :: rest ∧ Text.isCapital first = true ∧
    ∀ c ∈ rest, Text.isWord c = true

/-- Capital letters are word characters. -/
theorem Text.isWord_of_isCapital {c : Char} (h : isCapital c = true) : isWord c = true := by
  have hletters : ∀ n ∈ List.range' 65 26, isWord (Char.ofNat n) = true := by decide +kernel
  simp only [isCapital, Bool.and_eq_true, decide_eq_true_eq, Char.le_def, UInt32.le_iff_toNat_le] at h
  have hrange : c.toNat ∈ List.range' 65 26 := List.mem_range'_1.2 ⟨h.1, Nat.lt_succ_of_le h.2⟩
  simpa using hletters c.toNat hrange

theorem IsTypeName.ne_nil {name : Text} (h : IsTypeName name) : name ≠ [] := by
  obtain ⟨first, rest, rfl, -, -⟩ := h
  exact List.cons_ne_nil first rest

/-- The name of a type is a run of word characters. -/
theorem IsTypeName.isWord {name : Text} (h : IsTypeName name) : ∀ c ∈ name, Text.isWord c = true := by
  obtain ⟨first, rest, rfl, hfirst, hrest⟩ := h
  exact List.forall_mem_cons.2 ⟨Text.isWord_of_isCapital hfirst, hrest⟩

namespace Source

open Text (IsGap IsSpaced dropBlanks? dropFront? isBlank isCapital isWord wordRun)

namespace Declaration

/-! ### One declaration -/

/-- The declaration stands in front of the text, with `rest` behind it: its keyword and at least one space or tab,
and its name, which is as long as it can be. -/
structure Heads (declaration : Declaration) (text rest : Text) : Prop where
  name : IsTypeName declaration.name
  ends : ∀ c ∈ rest.head?, isWord c = false
  text_eq : ∃ spaced, IsSpaced declaration.kind.keyword spaced ∧ text = spaced ++ (declaration.name ++ rest)

/-- A kind is read where its keyword stands. -/
theorem readKind?_eq_some_iff {text rest : Text} {kind : SymbolKind} :
    readKind? text = some (kind, rest) ↔ text = kind.keyword ++ rest := by
  constructor
  · intro h
    obtain ⟨found, -, hfound⟩ := List.exists_of_findSome?_eq_some h
    obtain ⟨after, hafter, hpair⟩ := Option.map_eq_some_iff.1 hfound
    obtain ⟨rfl, rfl⟩ := Prod.mk.inj hpair
    exact Text.dropFront?_eq_some_iff.1 hafter
  · rintro rfl
    -- no keyword is the front of another one
    cases kind <;> rfl

/-- A name is read where a capital letter stands, and goes on as far as word characters do. -/
theorem readName?_eq_some_iff {text name rest : Text} :
    readName? text = some (name, rest) ↔
      text = name ++ rest ∧ IsTypeName name ∧ ∀ c ∈ rest.head?, isWord c = false := by
  constructor
  · intro h
    cases text with
    | nil => cases h
    | cons first text =>
      obtain ⟨hfirst, hread⟩ := Option.ite_none_right_eq_some.1 h
      obtain ⟨rfl, rfl⟩ := Prod.mk.inj (Option.some.inj hread)
      obtain ⟨htext, hrun, hrest⟩ := Text.wordRun_eq_iff.1 (rfl : wordRun text = _)
      exact ⟨congrArg (first :: ·) htext, ⟨first, _, rfl, hfirst, hrun⟩, hrest⟩
  · rintro ⟨rfl, ⟨first, run, rfl, hfirst, hrun⟩, hrest⟩
    rw [List.cons_append, readName?, if_pos hfirst, Text.wordRun_eq_iff.2 ⟨rfl, hrun, hrest⟩]

/-- **A declaration is read where one stands.** -/
theorem read?_eq_some_iff {text rest : Text} {declaration : Declaration} :
    read? text = some (declaration, rest) ↔ declaration.Heads text rest := by
  constructor
  · intro h
    rw [read?] at h
    split at h
    next => contradiction
    next kind spaced hkind =>
      split at h
      next => contradiction
      next named hnamed =>
        obtain ⟨⟨name, after⟩, hname, hpair⟩ := Option.map_eq_some_iff.1 h
        obtain ⟨rfl, rfl⟩ := Prod.mk.inj hpair
        obtain ⟨gap, hne, hgap, rfl, -⟩ := Text.exists_of_dropBlanks? hnamed
        obtain ⟨rfl, htype, hends⟩ := readName?_eq_some_iff.1 hname
        refine ⟨htype, hends, kind.keyword ++ gap, ⟨gap, hne, hgap, rfl⟩, ?_⟩
        rw [readKind?_eq_some_iff.1 hkind, List.append_assoc]
  · rintro ⟨htype, hends, spaced, ⟨gap, hne, hgap, rfl⟩, rfl⟩
    have hkind : readKind? (declaration.kind.keyword ++ gap ++ (declaration.name ++ rest)) =
        some (declaration.kind, gap ++ (declaration.name ++ rest)) :=
      readKind?_eq_some_iff.2 (List.append_assoc ..)
    have hgap : dropBlanks? (gap ++ (declaration.name ++ rest)) = some (declaration.name ++ rest) := by
      obtain ⟨first, run, hname, hfirst, -⟩ := htype
      have hunindented : Text.Unindented (declaration.name ++ rest) :=
        hname ▸ Text.unindented_of_isWord (Text.isWord_of_isCapital hfirst) (run ++ rest)
      rw [hgap.dropBlanks?_append hne, hunindented.dropBlanks_eq]
    have hname : readName? (declaration.name ++ rest) = some (declaration.name, rest) :=
      readName?_eq_some_iff.2 ⟨rfl, htype, hends⟩
    simp only [read?, hkind, hgap, hname, Option.map_some]

/-- Where no keyword starts, there is no declaration. -/
theorem read?_eq_none {c : Char} (h : ∀ kind : SymbolKind, kind.keyword.head? ≠ some c) (text : Text) :
    read? (c :: text) = none := by
  refine Option.eq_none_iff_forall_ne_some.2 fun read hread => ?_
  obtain ⟨-, -, spaced, ⟨gap, -, -, rfl⟩, htext⟩ := read?_eq_some_iff.1 hread
  obtain ⟨letter, word, hkeyword⟩ := List.exists_cons_of_length_pos read.1.kind.keyword_length_pos
  rw [hkeyword, List.cons_append, List.cons_append] at htext
  obtain ⟨rfl, -⟩ := List.cons.inj htext
  exact h read.1.kind (by rw [hkeyword, List.head?_cons])

end Declaration

/-! ### Occurrences -/

/-- A declaration in its place in a text. -/
structure Occurrence where
  /-- The text in front of the keyword. -/
  front : Text
  declaration : Declaration
  /-- The text behind the name. -/
  rest : Text
  deriving DecidableEq, Repr

namespace Occurrence

/-- Where the keyword starts. -/
def position (occurrence : Occurrence) : Nat :=
  occurrence.front.length

/-- The declaration stands at the place in the text, and no word goes on there. -/
structure StandsIn (occurrence : Occurrence) (text : Text) : Prop where
  apart : ∀ c ∈ occurrence.front.getLast?, isWord c = false
  heads : ∃ ahead, text = occurrence.front ++ ahead ∧ occurrence.declaration.Heads ahead occurrence.rest

/-- Whether a word goes on behind these characters, the nearest one first. -/
def inWord (behind : Text) : Bool :=
  behind.head?.any isWord

/-- The declarations ahead in their places. At each place a declaration is looked for, also inside of others. -/
def listFrom (behind : Text) : (ahead : Text) → List Occurrence
  | [] => []
  | c :: ahead =>
    match Declaration.readUnless? (inWord behind) (c :: ahead) with
    | some (declaration, rest) => ⟨behind.reverse, declaration, rest⟩ :: listFrom (c :: behind) ahead
    | none => listFrom (c :: behind) ahead

/-- Where no declaration stands, the next place is looked at. -/
theorem listFrom_cons {behind ahead : Text} {c : Char}
    (h : Declaration.readUnless? (inWord behind) (c :: ahead) = none) :
    listFrom behind (c :: ahead) = listFrom (c :: behind) ahead := by
  rw [listFrom, h]

/-- Where a declaration stands, it comes first. -/
theorem listFrom_of_some {behind ahead rest : Text} {c : Char} {declaration : Declaration}
    (h : Declaration.readUnless? (inWord behind) (c :: ahead) = some (declaration, rest)) :
    listFrom behind (c :: ahead) = ⟨behind.reverse, declaration, rest⟩ :: listFrom (c :: behind) ahead := by
  rw [listFrom, h]

/-! ### No declaration inside another one -/

/-- No declaration starts where a word goes on. -/
theorem listFrom_word {behind word : Text} (hbehind : inWord behind = true) (hword : ∀ c ∈ word, isWord c = true)
    (rest : Text) : listFrom behind (word ++ rest) = listFrom (word.reverse ++ behind) rest := by
  induction word generalizing behind with
  | nil => rfl
  | cons c word ih =>
    obtain ⟨hc, hword⟩ := List.forall_mem_cons.1 hword
    have hnone : Declaration.readUnless? (inWord behind) (c :: (word ++ rest)) = none := by
      rw [hbehind, Declaration.readUnless?, if_pos rfl]
    have hinside : inWord (c :: behind) = true := hc
    rw [List.cons_append, listFrom_cons hnone, ih hinside hword, List.reverse_cons, List.append_assoc,
      List.singleton_append]

/-- Keywords start with small letters. -/
theorem head?_keyword_ne {c : Char} (h : isWord c = false ∨ isCapital c = true) (kind : SymbolKind) :
    kind.keyword.head? ≠ some c := by
  intro hhead
  cases kind <;> cases hhead <;> rcases h with h | h <;> exact absurd h (by decide)

/-- No declaration starts with a character that starts no keyword. -/
theorem listFrom_cons_of_ne {behind : Text} {c : Char} (h : ∀ kind : SymbolKind, kind.keyword.head? ≠ some c)
    (rest : Text) : listFrom behind (c :: rest) = listFrom (c :: behind) rest := by
  refine listFrom_cons ?_
  rw [Declaration.readUnless?, Declaration.read?_eq_none h, ite_self]

/-- No declaration starts in a gap. -/
theorem listFrom_gap {behind gap : Text} (hgap : IsGap gap) (rest : Text) :
    listFrom behind (gap ++ rest) = listFrom (gap.reverse ++ behind) rest := by
  induction gap generalizing behind with
  | nil => rfl
  | cons c gap ih =>
    obtain ⟨hc, hgap⟩ := List.forall_mem_cons.1 hgap
    have hkeyword := head?_keyword_ne (.inl (Text.isWord_of_isBlank hc).1)
    rw [List.cons_append, listFrom_cons_of_ne hkeyword, ih hgap, List.reverse_cons, List.append_assoc,
      List.singleton_append]

/-- No declaration starts in the name of a type, except in front of it. -/
theorem listFrom_name {behind name : Text} (h : IsTypeName name) (rest : Text) :
    listFrom behind (name ++ rest) = listFrom (name.reverse ++ behind) rest := by
  obtain ⟨first, run, rfl, hfirst, hrun⟩ := h
  have hkeyword := head?_keyword_ne (.inr hfirst)
  have hinside : inWord (first :: behind) = true := Text.isWord_of_isCapital hfirst
  rw [List.cons_append, listFrom_cons_of_ne hkeyword, listFrom_word hinside hrun, List.reverse_cons,
    List.append_assoc, List.singleton_append]

/-- **A declaration stands first, and the others stand behind it.** -/
theorem listFrom_declaration {behind ahead rest : Text} {declaration : Declaration}
    (h : Declaration.readUnless? (inWord behind) ahead = some (declaration, rest)) :
    ∃ behind', inWord behind' = true ∧
      listFrom behind ahead = ⟨behind.reverse, declaration, rest⟩ :: listFrom behind' rest := by
  obtain ⟨-, hread⟩ := Option.ite_none_left_eq_some.1 h
  obtain ⟨hname, -, spaced, ⟨gap, -, hgap, rfl⟩, htext⟩ := Declaration.read?_eq_some_iff.1 hread
  obtain ⟨letter, word, hkeyword⟩ := List.exists_cons_of_length_pos declaration.kind.keyword_length_pos
  have hletters : ∀ c ∈ letter :: word, isWord c = true := by
    have hall : declaration.kind.keyword.all isWord = true := by cases declaration.kind <;> decide
    exact hkeyword ▸ List.all_eq_true.1 hall
  obtain ⟨hletter, hword⟩ := List.forall_mem_cons.1 hletters
  rw [hkeyword, List.append_assoc, List.cons_append] at htext
  have hinside : inWord (letter :: behind) = true := hletter
  -- behind its first letter: the rest of the keyword, the gap, and the name
  refine ⟨declaration.name.reverse ++ (gap.reverse ++ (word.reverse ++ letter :: behind)), ?_, ?_⟩
  · rw [inWord, List.head?_append, ← List.getLast?_eq_head?_reverse,
      List.getLast?_eq_some_getLast hname.ne_nil, Option.some_or]
    exact hname.isWord _ (List.getLast_mem hname.ne_nil)
  · rw [htext] at h ⊢
    rw [listFrom_of_some h, listFrom_word hinside hword, listFrom_gap hgap, listFrom_name hname]

/-- The declarations that the search finds are those in their places. -/
theorem map_declaration_listFrom {inside : Bool} {behind : Text} (h : inWord behind = inside) (ahead : Text) :
    (listFrom behind ahead).map Occurrence.declaration = Declaration.listFrom inside ahead := by
  fun_induction Declaration.listFrom inside ahead generalizing behind with
  | case1 inside => rfl
  | case2 inside c ahead declaration rest hread _ ih =>
    obtain ⟨behind', hinside, hlist⟩ := listFrom_declaration (h ▸ hread)
    rw [hlist, List.map_cons, ih hinside]
  | case3 inside c ahead hread ih =>
    rw [listFrom_cons (h ▸ hread)]
    exact ih rfl

/-! ### All places -/

/-- **The declarations ahead are all that stand ahead where no word goes on.** -/
theorem mem_listFrom_iff {behind ahead : Text} {occurrence : Occurrence} :
    occurrence ∈ listFrom behind ahead ↔ ∃ between further, occurrence.front = behind.reverse ++ between ∧
      ahead = between ++ further ∧
      Declaration.readUnless? (inWord (between.reverse ++ behind)) further =
        some (occurrence.declaration, occurrence.rest) := by
  induction ahead generalizing behind with
  | nil =>
    refine iff_of_false List.not_mem_nil ?_
    rintro ⟨between, further, -, hahead, hread⟩
    obtain ⟨-, rfl⟩ := List.append_eq_nil_iff.1 hahead.symm
    exact Nat.not_lt_zero _ (Declaration.readUnless?_length_lt hread)
  | cons c ahead ih =>
    have hcons : occurrence ∈ listFrom behind (c :: ahead) ↔
        (occurrence.front = behind.reverse ∧ Declaration.readUnless? (inWord behind) (c :: ahead) =
          some (occurrence.declaration, occurrence.rest)) ∨ occurrence ∈ listFrom (c :: behind) ahead := by
      cases hread : Declaration.readUnless? (inWord behind) (c :: ahead) with
      | none => simp [listFrom_cons hread]
      | some read =>
        rw [listFrom_of_some hread, List.mem_cons]
        cases occurrence
        simp [Prod.ext_iff, and_comm, eq_comm]
    rw [hcons, ih]
    constructor
    · rintro (⟨hfront, hread⟩ | ⟨between, further, hfront, rfl, hread⟩)
      · exact ⟨[], c :: ahead, by rw [hfront, List.append_nil], rfl, hread⟩
      · exact ⟨c :: between, further, by simpa using hfront, rfl, by simpa using hread⟩
    · rintro ⟨between, further, hfront, hahead, hread⟩
      cases between with
      | nil =>
        rw [List.append_nil] at hfront
        exact .inl ⟨hfront, hahead ▸ hread⟩
      | cons d between =>
        obtain ⟨rfl, rfl⟩ := List.cons.inj hahead
        exact .inr ⟨between, further, by simpa using hfront, rfl, by simpa using hread⟩

/-- Places are looked at in order. -/
theorem pairwise_listFrom (behind ahead : Text) :
    (listFrom behind ahead).Pairwise fun first second => first.position < second.position := by
  induction ahead generalizing behind with
  | nil => exact .nil
  | cons c ahead ih =>
    cases hread : Declaration.readUnless? (inWord behind) (c :: ahead) with
    | none =>
      rw [listFrom_cons hread]
      exact ih (c :: behind)
    | some read =>
      rw [listFrom_of_some hread]
      refine List.pairwise_cons.2 ⟨fun occurrence hoccurrence => ?_, ih (c :: behind)⟩
      obtain ⟨between, further, hfront, -⟩ := mem_listFrom_iff.1 hoccurrence
      rw [position, position, hfront, List.length_append, List.length_reverse, List.length_reverse,
        List.length_cons]
      omega

end Occurrence

/-- The declarations of a text in their places, in order. -/
def occurrences (text : Text) : List Occurrence :=
  Occurrence.listFrom [] text

/-- **The search finds the declarations in their places, all of them.** -/
theorem declarations_eq_map_occurrences (text : Text) :
    declarations text = (occurrences text).map Occurrence.declaration :=
  have hinside : Occurrence.inWord [] = false := rfl
  (Occurrence.map_declaration_listFrom hinside text).symm

/-- **The places of declarations are those where one stands and no word goes on.** -/
theorem mem_occurrences_iff {text : Text} {occurrence : Occurrence} :
    occurrence ∈ occurrences text ↔ occurrence.StandsIn text := by
  have hinside (front : Text) :
      Occurrence.inWord front.reverse = false ↔ ∀ c ∈ front.getLast?, isWord c = false := by
    rw [Occurrence.inWord, ← List.getLast?_eq_head?_reverse]
    cases front.getLast? <;> simp
  rw [occurrences, Occurrence.mem_listFrom_iff]
  constructor
  · rintro ⟨between, further, hfront, rfl, hread⟩
    obtain ⟨houtside, hread⟩ := Option.ite_none_left_eq_some.1 hread
    rw [List.reverse_nil, List.nil_append] at hfront
    rw [List.append_nil, Bool.not_eq_true, hinside, ← hfront] at houtside
    exact ⟨houtside, further, by rw [hfront], Declaration.read?_eq_some_iff.1 hread⟩
  · rintro ⟨houtside, further, rfl, hheads⟩
    refine ⟨occurrence.front, further, rfl, rfl, ?_⟩
    rw [List.append_nil, Declaration.readUnless?, (hinside _).2 houtside, if_neg Bool.false_ne_true,
      Declaration.read?_eq_some_iff.2 hheads]

/-- At the position in the text a keyword starts, where no word goes on, and behind it stand spaces or tabs, at
least one, and a capital letter. -/
def DeclaresAt (text : Text) (position : Nat) : Prop :=
  ∃ (front : Text) (kind : SymbolKind) (gap : Text) (letter : Char) (behind : Text),
    text = front ++ (kind.keyword ++ (gap ++ letter :: behind)) ∧ front.length = position ∧
      (∀ c ∈ front.getLast?, isWord c = false) ∧ gap ≠ [] ∧ IsGap gap ∧ isCapital letter = true

/-- A declaration stands wherever a keyword with a capital letter does, since the word of the letter ends
somewhere. -/
theorem exists_occurrence_iff {text : Text} {position : Nat} :
    (∃ occurrence ∈ occurrences text, occurrence.position = position) ↔ DeclaresAt text position := by
  constructor
  · rintro ⟨occurrence, hoccurrence, rfl⟩
    obtain ⟨houtside, ahead, rfl, hheads⟩ := mem_occurrences_iff.1 hoccurrence
    obtain ⟨⟨letter, run, hname, hletter, -⟩, -, spaced, ⟨gap, hne, hgap, rfl⟩, rfl⟩ := hheads
    refine ⟨occurrence.front, occurrence.declaration.kind, gap, letter, run ++ occurrence.rest, ?_, rfl, houtside,
      hne, hgap, hletter⟩
    rw [hname, List.cons_append, List.append_assoc]
  · rintro ⟨front, kind, gap, letter, behind, rfl, rfl, houtside, hne, hgap, hletter⟩
    obtain ⟨⟨run, rest⟩, hread⟩ : ∃ read, wordRun behind = read := ⟨_, rfl⟩
    obtain ⟨rfl, hrun, hrest⟩ := Text.wordRun_eq_iff.1 hread
    refine ⟨⟨front, ⟨kind, letter :: run⟩, rest⟩, mem_occurrences_iff.2 ⟨houtside, _, rfl, ?_⟩, rfl⟩
    refine ⟨⟨letter, run, rfl, hletter, hrun⟩, hrest, kind.keyword ++ gap, ⟨gap, hne, hgap, rfl⟩, ?_⟩
    rw [List.append_assoc, List.cons_append]

/-- **Every declaration is found, and each one once.** The declarations of a text are listed in ascending order of
position. They are at exactly the positions where a keyword starts that has no word character in front of it, and
spaces or tabs and a capital letter behind it; the name goes on from that letter as far as word characters do. The
declarations of two texts with a line feed between them are those of the one and those of the other. -/
theorem declarations_exact (text : Text) :
    declarations text = (occurrences text).map Occurrence.declaration ∧
    (occurrences text).Pairwise (fun first second => first.position < second.position) ∧
    (∀ position, (∃ occurrence ∈ occurrences text, occurrence.position = position) ↔
      DeclaresAt text position) ∧
    (∀ occurrence, occurrence ∈ occurrences text ↔ occurrence.StandsIn text) ∧
    ∀ back, declarations (text ++ '\n' :: back) = declarations text ++ declarations back :=
  ⟨declarations_eq_map_occurrences text, Occurrence.pairwise_listFrom [] text, fun _ => exists_occurrence_iff,
    fun _ => mem_occurrences_iff, declarations_append_lineFeed text⟩

/-- A keyword in a word, one with a small letter behind it, one right behind another, and one in a name. -/
example :
    (occurrences "subclass A; enum b struct class \tEnum struct _struct Größe".toList).map
      (fun occurrence => (occurrence.position, occurrence.declaration)) =
        [(26, ⟨.classType, "Enum".toList⟩)] := by
  decide +kernel

end Source

end UsingAdvisor
