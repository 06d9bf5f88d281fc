import UsingAdvisor.Proofs.Text.Stop

/-!
# The parts of dotted names

A dotted name is read from its front to its end, one character after another. Taken apart at its dots it is a
list of parts, each of them a non-empty run of word characters, and any such parts joined by dots are a dotted
name. Main statement: `isDotted_iff_exists_parts`.
-/

namespace UsingAdvisor.Text

/-- A non-empty run of word characters. -/
structure IsRun (part : Text) : Prop where
  ne_nil : part ≠ []
  word : ∀ c ∈ part, isWord c = true

/-- The first of several texts, and the others, each behind a separator. -/
theorem join_cons (separator text : Text) (texts : List Text) :
    join separator (text :: texts) = text ++ texts.flatMap (separator ++ ·) := by
  induction texts generalizing text with
  | nil => simp [join]
  | cons next texts ih => rw [join, ih, List.flatMap_cons, List.append_assoc, List.append_assoc]

/-- A run of word characters continues a name. -/
theorem nameTail_append_of_word {run : Text} (hrun : ∀ c ∈ run, isWord c = true) (rest : Text) :
    nameTail (run ++ rest) = (run ++ (nameTail rest).1, (nameTail rest).2) := by
  induction run with
  | nil => rfl
  | cons c run ih =>
    obtain ⟨hc, hrun⟩ := List.forall_mem_cons.1 hrun
    have hdot : c ≠ '.' := by rintro rfl; exact absurd hc (by decide)
    rw [List.cons_append, nameTail_cons_of_ne_dot hdot, if_pos hc, ih hrun]
    rfl

/-- What continues a name from end to end is a run of word characters, and parts behind dots. -/
theorem nameTail_eq_self_iff {text : Text} :
    nameTail text = (text, []) ↔ ∃ (run : Text) (parts : List Text), (∀ c ∈ run, isWord c = true) ∧
      (∀ part ∈ parts, IsRun part) ∧ text = run ++ parts.flatMap (['.'] ++ ·) := by
  constructor
  · intro h
    fun_induction nameTail text with
    | case1 => exact ⟨[], [], by simp, by simp, rfl⟩
    | case2 c text hc ih =>
      simp only [Prod.mk.injEq, List.cons.injEq, true_and] at h
      obtain ⟨run, parts, hrun, hparts, htext⟩ := ih (Prod.ext h.1 h.2)
      have hpart : IsRun (c :: run) :=
        ⟨List.cons_ne_nil c run, List.forall_mem_cons.2 ⟨hc, hrun⟩⟩
      exact ⟨[], (c :: run) :: parts, by simp, List.forall_mem_cons.2 ⟨hpart, hparts⟩, by simp [htext]⟩
    | case3 c text hc => simp only [Prod.mk.injEq, reduceCtorEq, false_and] at h
    | case4 c text hdot hc ih =>
      simp only [Prod.mk.injEq, List.cons.injEq, true_and] at h
      obtain ⟨run, parts, hrun, hparts, htext⟩ := ih (Prod.ext h.1 h.2)
      exact ⟨c :: run, parts, List.forall_mem_cons.2 ⟨hc, hrun⟩, hparts, by simp [htext]⟩
    | case5 c text hdot hc => simp only [Prod.mk.injEq, reduceCtorEq, false_and] at h
  · rintro ⟨run, parts, hrun, hparts, rfl⟩
    induction parts generalizing run with
    | nil => rw [nameTail_append_of_word hrun]; rfl
    | cons part parts ih =>
      obtain ⟨hpart, hothers⟩ := List.forall_mem_cons.1 hparts
      obtain ⟨c, more, rfl⟩ := List.exists_cons_of_ne_nil hpart.ne_nil
      obtain ⟨hc, hmore⟩ := List.forall_mem_cons.1 hpart.word
      have htail : nameTail ('.' :: c :: (more ++ parts.flatMap (['.'] ++ ·))) =
          ('.' :: c :: (more ++ parts.flatMap (['.'] ++ ·)), []) := by
        rw [nameTail, if_pos hc, ih more hmore hothers]
      rw [nameTail_append_of_word hrun]
      simp only [List.flatMap_cons, List.cons_append, List.nil_append] at htail ⊢
      rw [htail]

/-- **A dotted name is non-empty runs of word characters, at least one, with dots between them.** -/
theorem isDotted_iff_exists_parts {name : Text} :
    IsDotted name ↔ ∃ parts, parts ≠ [] ∧ (∀ part ∈ parts, IsRun part) ∧ name = join ['.'] parts := by
  constructor
  · intro h
    obtain ⟨c, rest, rfl, hc⟩ := h.exists_eq_cons
    rw [IsDotted, dottedName?, if_pos hc] at h
    simp only [Option.some.injEq, Prod.mk.injEq, List.cons.injEq, true_and] at h
    obtain ⟨run, parts, hrun, hparts, rfl⟩ := nameTail_eq_self_iff.1 (Prod.ext h.1 h.2)
    have hpart : IsRun (c :: run) := ⟨List.cons_ne_nil c run, List.forall_mem_cons.2 ⟨hc, hrun⟩⟩
    refine ⟨(c :: run) :: parts, List.cons_ne_nil _ _, List.forall_mem_cons.2 ⟨hpart, hparts⟩, ?_⟩
    rw [join_cons, List.cons_append]
  · rintro ⟨parts, hne, hparts, rfl⟩
    obtain ⟨part, parts, rfl⟩ := List.exists_cons_of_ne_nil hne
    obtain ⟨hpart, hothers⟩ := List.forall_mem_cons.1 hparts
    obtain ⟨c, run, rfl⟩ := List.exists_cons_of_ne_nil hpart.ne_nil
    obtain ⟨hc, hrun⟩ := List.forall_mem_cons.1 hpart.word
    have htail := nameTail_eq_self_iff.2 ⟨run, parts, hrun, hothers, rfl⟩
    rw [IsDotted, join_cons, List.cons_append, dottedName?, if_pos hc, htail]

end UsingAdvisor.Text
