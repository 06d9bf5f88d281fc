import UsingAdvisor.Proofs.Repetition
import UsingAdvisor.Proofs.Scope

/-!
# Enclosing namespaces in order

Each header of a text brings in its namespace and the ancestors of that, the innermost first, but for those that an
earlier header has brought in. So the namespaces that enclose a text are told by the headers that mention them first
(`firstMention`): those of an earlier header are listed before those of a later one, and of one header the inner ones
before the outer ones (`pairwise_listedBefore`). Main statement: `enclosing_exact`.
-/

namespace UsingAdvisor

open Text (stripMark)

/-! ### Ancestors -/

/-- The namespace `outer` is what stands in front of one of the dots of `inner`. -/
def IsAncestor (outer inner : Text) : Prop :=
  ∃ rest, inner = outer ++ '.' :: rest

/-- The namespace `parent` is what stands in front of the last dot of `home`. -/
def IsParent (parent home : Text) : Prop :=
  ∃ last, '.' ∉ last ∧ home = parent ++ '.' :: last

instance (home name : Text) : Decidable (Encloses home name) :=
  decidable_of_iff ((lineage name).contains home = true) (List.contains_iff_mem.trans mem_lineage_iff)

theorem IsParent.isAncestor {parent home : Text} (h : IsParent parent home) : IsAncestor parent home := by
  obtain ⟨last, -, heq⟩ := h
  exact ⟨last, heq⟩

theorem IsAncestor.length_lt {outer inner : Text} (h : IsAncestor outer inner) : outer.length < inner.length := by
  obtain ⟨rest, rfl⟩ := h
  simp

/-- What is around a namespace is around all that is inside of it. -/
theorem IsAncestor.encloses {outer inner name : Text} (h : IsAncestor outer inner) (hinner : Encloses inner name) :
    Encloses outer name := by
  obtain ⟨rest, rfl⟩ := h
  rcases hinner with rfl | ⟨more, rfl⟩
  · exact .inr ⟨rest, rfl⟩
  · exact .inr ⟨rest ++ '.' :: more, by simp⟩

/-- Of the ancestors of a name, those that come later are inside of those that come earlier. -/
theorem pairwise_ancestors (name : Text) : (ancestors name).Pairwise IsAncestor := by
  induction name with
  | nil => exact .nil
  | cons c name ih =>
    have hlonger : ((ancestors name).map (c :: ·)).Pairwise IsAncestor := by
      refine List.pairwise_map.2 (ih.imp fun {outer inner} h => ?_)
      obtain ⟨rest, rfl⟩ := h
      exact ⟨rest, rfl⟩
    by_cases hdot : c = '.'
    · rw [ancestors, if_pos hdot]
      refine List.pairwise_cons.2 ⟨fun inner hinner => ?_, hlonger⟩
      obtain ⟨longer, -, rfl⟩ := List.mem_map.1 hinner
      exact ⟨longer, by rw [hdot, List.nil_append]⟩
    · rw [ancestors, if_neg hdot]
      exact hlonger

/-- **A lineage goes outwards.** -/
theorem pairwise_lineage (name : Text) : (lineage name).Pairwise fun inner outer => IsAncestor outer inner := by
  refine List.pairwise_cons.2 ⟨fun outer houter => ?_, List.pairwise_reverse.2 (pairwise_ancestors name)⟩
  exact mem_ancestors_iff.1 (List.mem_reverse.1 houter)

theorem nodup_lineage (name : Text) : (lineage name).Nodup :=
  (pairwise_lineage name).imp fun h heq => absurd (heq ▸ h).length_lt (Nat.lt_irrefl _)

/-! ### First mentions -/

/-- The number of the first name that a namespace encloses. -/
def firstMention (names : List Text) (home : Text) : Nat :=
  names.findIdx fun name => decide (Encloses home name)

theorem firstMention_lt_iff {names : List Text} {home : Text} :
    firstMention names home < names.length ↔ ∃ name ∈ names, Encloses home name := by
  simp [firstMention, List.findIdx_lt_length]

/-- What is around a namespace is mentioned where this is mentioned. -/
theorem IsAncestor.firstMention_le {outer inner : Text} (h : IsAncestor outer inner) (names : List Text) :
    firstMention names outer ≤ firstMention names inner := by
  refine List.findIdx_le_findIdx fun name _ hname => ?_
  rw [decide_eq_true_eq] at hname ⊢
  exact h.encloses hname

/-- A further name does not change where others have mentioned a namespace. -/
theorem firstMention_append_of_mem {names : List Text} {home : Text} (h : ∃ name ∈ names, Encloses home name)
    (further : Text) : firstMention (names ++ [further]) home = firstMention names home := by
  have hlt := firstMention_lt_iff.2 h
  rw [firstMention] at hlt
  rw [firstMention, List.findIdx_append, if_pos hlt, firstMention]

/-- What a further name is the first to mention has its number. -/
theorem firstMention_append_of_not_mem {names : List Text} {home further : Text}
    (h : ¬ ∃ name ∈ names, Encloses home name) (hfurther : Encloses home further) :
    firstMention (names ++ [further]) home = names.length := by
  have hnot := mt firstMention_lt_iff.1 h
  rw [firstMention] at hnot
  rw [firstMention, List.findIdx_append, if_neg hnot]
  simp [List.findIdx_cons, hfurther]

/-! ### The order of the list -/

/-- The one namespace is mentioned earlier, or it is mentioned together with the other one and inside of it. -/
def ListedBefore (names : List Text) (first second : Text) : Prop :=
  firstMention names first < firstMention names second ∨
    firstMention names first = firstMention names second ∧ IsAncestor second first

theorem ListedBefore.asymm {names : List Text} {first second : Text} (h : ListedBefore names first second) :
    ¬ ListedBefore names second first := by
  rcases h with hearlier | ⟨hsame, hinside⟩
  · rintro (hlater | ⟨heq, -⟩)
    · exact Nat.lt_asymm hearlier hlater
    · exact Nat.ne_of_gt hearlier heq
  · rintro (hlater | ⟨-, houtside⟩)
    · exact Nat.ne_of_gt hlater hsame
    · exact Nat.lt_asymm hinside.length_lt houtside.length_lt

/-- The namespaces that names and their ancestors are, without repetitions. -/
def lineages (names : List Text) : List Text :=
  (names.flatMap lineage).eraseDups

theorem mem_flatMap_lineage_iff {names : List Text} {home : Text} :
    home ∈ names.flatMap lineage ↔ ∃ name ∈ names, Encloses home name := by
  simp only [List.mem_flatMap, mem_lineage_iff]

/-- **A further name goes to the end**, with those of its ancestors that have not been mentioned. -/
theorem lineages_append (names : List Text) (further : Text) :
    lineages (names ++ [further]) =
      lineages names ++ (lineage further).filter fun home => !(names.flatMap lineage).contains home := by
  have hnew : ((lineage further).removeAll (names.flatMap lineage)).Nodup := (nodup_lineage further).filter _
  rw [lineages, List.flatMap_append, List.flatMap_singleton, List.eraseDups_append, eraseDups_of_nodup hnew]
  rfl

/-- **Namespaces are listed in the order of their first mentions, and inner ones before outer ones.** -/
theorem pairwise_listedBefore (names : List Text) : (lineages names).Pairwise (ListedBefore names) := by
  induction names using append_induction with
  | nil => exact .nil
  | append names further ih =>
    -- what is listed already keeps its number, and what is new has the number of the further name
    have hold {home : Text} (h : home ∈ lineages names) :
        firstMention (names ++ [further]) home = firstMention names home ∧
          firstMention names home < names.length := by
      have hmentioned := mem_flatMap_lineage_iff.1 (List.mem_eraseDups.1 h)
      exact ⟨firstMention_append_of_mem hmentioned further, firstMention_lt_iff.2 hmentioned⟩
    have hnew {home : Text}
        (h : home ∈ (lineage further).filter fun home => !(names.flatMap lineage).contains home) :
        firstMention (names ++ [further]) home = names.length := by
      obtain ⟨hfurther, hnot⟩ := List.mem_filter.1 h
      refine firstMention_append_of_not_mem (fun hmentioned => ?_) (mem_lineage_iff.1 hfurther)
      simp [mem_flatMap_lineage_iff.2 hmentioned] at hnot
    rw [lineages_append, List.pairwise_append]
    refine ⟨ih.imp_of_mem fun {first second} hfirst hsecond h => ?_,
      ((pairwise_lineage further).filter _).imp_of_mem fun {first second} hfirst hsecond h => ?_,
      fun first hfirst second hsecond => .inl ?_⟩
    · rw [ListedBefore, (hold hfirst).1, (hold hsecond).1]
      exact h
    · exact .inr ⟨(hnew hfirst).trans (hnew hsecond).symm, h⟩
    · rw [(hold hfirst).1, hnew hsecond]
      exact (hold hfirst).2

/-! ### Enclosing namespaces -/

/-- The namespaces that the headers of a text declare, in order. -/
def declaredNames (text : Text) : List Text :=
  (Source.headers (stripMark text)).map Source.Header.name

theorem enclosing_eq_lineages (text : Text) : enclosing text = lineages (declaredNames text) := by
  rw [lineages, declaredNames, List.flatMap_map]
  rfl

/-- What is listed before something else has the lower position. -/
theorem idxOf_lt_of_listedBefore {text first second : Text} (hfirst : first ∈ enclosing text)
    (hsecond : second ∈ enclosing text) (h : ListedBefore (declaredNames text) first second) :
    (enclosing text).idxOf first < (enclosing text).idxOf second := by
  have hordered : (enclosing text).Pairwise (ListedBefore (declaredNames text)) := by
    rw [enclosing_eq_lineages]
    exact pairwise_listedBefore _
  refine idxOf_lt_of_pairwise hordered hfirst hsecond (fun heq => ?_) h.asymm
  rw [heq] at h
  exact h.asymm h

/-- The namespaces that enclose a text are told by the places where headers stand. -/
theorem mem_enclosing_iff_standsIn {text home : Text} :
    home ∈ enclosing text ↔
      ∃ place : Source.Place, place.StandsIn (stripMark text) ∧ Encloses home place.header.name := by
  rw [mem_enclosing_iff, Source.headers_eq_map_places]
  constructor
  · rintro ⟨header, hheader, hhome⟩
    obtain ⟨place, hplace, rfl⟩ := List.mem_map.1 hheader
    exact ⟨place, Source.mem_places_iff.1 hplace, hhome⟩
  · rintro ⟨place, hplace, hhome⟩
    exact ⟨place.header, List.mem_map_of_mem (Source.mem_places_iff.2 hplace), hhome⟩

/-- **The namespaces that enclose a text are those of its headers and their ancestors**, each listed once. The
parent of each is one of them: it comes later, or an earlier header has mentioned it already. What an earlier header
is the first to mention comes before what a later one is the first to mention. -/
theorem enclosing_exact (text : Text) :
    let position := fun home => (enclosing text).idxOf home
    let mention := firstMention (declaredNames text)
    (enclosing text).Nodup ∧
    (∀ place : Source.Place, place.StandsIn (stripMark text) → place.header.name ∈ enclosing text) ∧
    (∀ home, home ∈ enclosing text ↔ ∃ place : Source.Place, place.StandsIn (stripMark text) ∧
      (home = place.header.name ∨ ∃ rest, place.header.name = home ++ '.' :: rest)) ∧
    (∀ home ∈ enclosing text, ∀ parent, IsParent parent home →
      parent ∈ enclosing text ∧ (position home < position parent ∨ mention parent < mention home)) ∧
    ∀ first ∈ enclosing text, ∀ second ∈ enclosing text, mention first < mention second →
      position first < position second := by
  intro position mention
  refine ⟨nodup_eraseDups _, fun place hplace => mem_enclosing_iff_standsIn.2 ⟨place, hplace, .inl rfl⟩,
    fun home => mem_enclosing_iff_standsIn, ?_, ?_⟩
  · intro home hhome parent hparent
    obtain ⟨place, hplace, hencloses⟩ := mem_enclosing_iff_standsIn.1 hhome
    have hmember : parent ∈ enclosing text :=
      mem_enclosing_iff_standsIn.2 ⟨place, hplace, hparent.isAncestor.encloses hencloses⟩
    refine ⟨hmember, ?_⟩
    rcases Nat.lt_or_eq_of_le (hparent.isAncestor.firstMention_le (declaredNames text)) with hearlier | hsame
    · exact .inr hearlier
    · exact .inl (idxOf_lt_of_listedBefore hhome hmember (.inr ⟨hsame.symm, hparent.isAncestor⟩))
  · exact fun first hfirst second hsecond hmention => idxOf_lt_of_listedBefore hfirst hsecond (.inl hmention)

/-- Headers that share ancestors. -/
example :
    enclosing "namespace A.B.C {}\nnamespace A.D;\nnamespace A.B;\nnamespace E.A {}\n".toList =
      ["A.B.C".toList, "A.B".toList, "A".toList, "A.D".toList, "E.A".toList, "E".toList] := by
  decide +kernel

end UsingAdvisor
