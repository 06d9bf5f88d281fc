import UsingAdvisor.FileTree
import UsingAdvisor.Proofs.FilePath.Steps

/-!
# Where paths lead

The ways through a file tree, links followed, as a relation (`Leads`), which is what `walk` computes
(`leads_iff_walk`). A way that goes on from where another one ends may be added to it (`Leads.append`), and dots
on a way may be left out (`Leads.filter`). Hence two spellings of one path lead to the same place, if they lead
anywhere (`locate?_eq_of_components_eq`), and what is listed below a directory is reached through the path of
the directory (`locate?_join`).
-/

namespace UsingAdvisor.FileTree

open FilePath (dot)

/-! ### Nodes at locations -/

namespace Node

theorem at?_append (first second : Location) (node : Node) :
    node.at? (first ++ second) = (node.at? first).bind (at? second) := by
  induction first generalizing node with
  | nil => rfl
  | cons name first ih =>
    rw [List.cons_append, at?, at?, Option.bind_assoc]
    exact congrArg _ (funext ih)

/-- Nothing is below a link. -/
theorem at?_link_ne_file (target : FilePath) (location : Location) (content : Bytes) :
    (link target).at? location ≠ some (file content) := by
  cases location <;> simp [at?, child?, entries]

end Node

/-! ### Ways -/

variable {root : Node} {links : Nat} {here middle last : Location}

/-- Steps lead from one location to another, with at most `links` links followed on the way. -/
inductive Leads (root : Node) : (links : Nat) → (here : Location) → (steps : List Bytes) →
    (last : Location) → Prop
  | stop (links : Nat) (here : Location) : Leads root links here [] here
  | stay {links : Nat} {here last : Location} {steps : List Bytes} {entries : List (Bytes × Node)}
      (hhere : root.at? here = some (.directory entries)) (rest : Leads root links here steps last) :
      Leads root links here ([dot] :: steps) last
  | leave {links : Nat} {here last : Location} {steps : List Bytes} {entries : List (Bytes × Node)}
      (hhere : root.at? here = some (.directory entries))
      (rest : Leads root links here.dropLast steps last) :
      Leads root links here ([dot, dot] :: steps) last
  | follow {links : Nat} {here last : Location} {step : Bytes} {steps : List Bytes}
      {entries : List (Bytes × Node)} {target : FilePath}
      (hhere : root.at? here = some (.directory entries)) (hdot : step ≠ [dot])
      (hdots : step ≠ [dot, dot]) (hlink : root.at? (here ++ [step]) = some (.link target))
      (rest : Leads root links (if FilePath.isAbsolute target then [] else here)
        (FilePath.steps target ++ steps) last) :
      Leads root (links + 1) here (step :: steps) last
  | enter {links : Nat} {here last : Location} {step : Bytes} {steps : List Bytes}
      {entries : List (Bytes × Node)} {node : Node}
      (hhere : root.at? here = some (.directory entries)) (hdot : step ≠ [dot])
      (hdots : step ≠ [dot, dot]) (hnode : root.at? (here ++ [step]) = some node)
      (hlink : ∀ target, node ≠ .link target) (rest : Leads root links (here ++ [step]) steps last) :
      Leads root links here (step :: steps) last

/-- A way is what is computed, if a link at the end is to be followed or there are no links at all. -/
theorem Leads.walk_eq {follow : Bool} {steps : List Bytes} (way : Leads root links here steps last)
    (h : follow = true ∨ ∀ location target, root.at? location ≠ some (.link target)) :
    walk root follow links here steps = some last := by
  induction way with
  | stop => rw [walk]
  | stay hhere rest ih => rw [walk]; simp [hhere, ih]
  | leave hhere rest ih => rw [walk]; simp [hhere, ih]
  | follow hhere hdot hdots hlink rest ih =>
    rcases h with rfl | hfree
    · rw [walk]
      simp [hhere, hdot, hdots, hlink, ih]
    · exact absurd hlink (hfree _ _)
  | enter hhere hdot hdots hnode hlink rest ih =>
    rw [walk]
    simp [hhere, hdot, hdots, hnode, ih]

theorem Leads.walk {steps : List Bytes} (way : Leads root links here steps last) :
    walk root true links here steps = some last :=
  way.walk_eq (.inl rfl)

/-- What is computed is a way, a link at the end not being followed where there is none. -/
theorem leads_of_walk {follow : Bool} {steps : List Bytes}
    (h : walk root follow links here steps = some last)
    (hlast : follow = false → ∀ target, root.at? last ≠ some (.link target)) :
    Leads root links here steps last := by
  fun_induction walk root follow links here steps with
  | case1 => cases h; exact .stop _ _
  | case2 _ _ _ _ hhere ih => exact .stay hhere (ih h)
  | case3 _ _ _ _ hhere _ ih => exact .leave hhere (ih h)
  | case4 => cases h
  | case5 _ _ _ _ _ _ _ _ target hlink hend =>
    cases h
    exact absurd hlink (hlast (Bool.eq_false_iff.2 hend.2) target)
  | case6 => cases h
  | case7 _ _ _ _ hhere hdot hdots _ hlink _ _ _ ih => exact .follow hhere hdot hdots hlink (ih h)
  | case8 _ _ _ _ _ hhere hdot hdots _ hlink hnode ih =>
    exact .enter hhere hdot hdots hnode hlink (ih h)
  | case9 => cases h

theorem leads_iff_walk {steps : List Bytes} :
    Leads root links here steps last ↔ walk root true links here steps = some last :=
  ⟨Leads.walk, fun h => leads_of_walk h nofun⟩

/-- Steps lead to one place at most. -/
theorem Leads.unique {steps : List Bytes} {other : Location} (way : Leads root links here steps last)
    (second : Leads root links here steps other) : last = other :=
  Option.some.inj ((leads_iff_walk.1 way).symm.trans (leads_iff_walk.1 second))

/-- A way may be added to one that ends where it starts, if it needs no links of its own. -/
theorem Leads.append {steps more : List Bytes} (way : Leads root links here steps middle)
    (onward : ∀ links, Leads root links middle more last) :
    Leads root links here (steps ++ more) last := by
  induction way with
  | stop links => exact onward links
  | stay hhere _ ih => exact .stay hhere (ih onward)
  | leave hhere _ ih => exact .leave hhere (ih onward)
  | follow hhere hdot hdots hlink _ ih =>
    exact .follow hhere hdot hdots hlink (List.append_assoc .. ▸ ih onward)
  | enter hhere hdot hdots hnode hlink _ ih => exact .enter hhere hdot hdots hnode hlink (ih onward)

/-- A dot on the way may be left out. -/
theorem Leads.without_dot {before after : List Bytes}
    (way : Leads root links here (before ++ [dot] :: after) last) :
    Leads root links here (before ++ after) last := by
  generalize hsteps : before ++ [dot] :: after = steps at way
  induction way generalizing before with
  | stop => cases before <;> cases hsteps
  | stay hhere rest ih =>
    cases before with
    | nil => cases hsteps; exact rest
    | cons step before => cases hsteps; exact .stay hhere (ih rfl)
  | leave hhere rest ih =>
    cases before with
    | nil => cases hsteps
    | cons step before => cases hsteps; exact .leave hhere (ih rfl)
  | follow hhere hdot hdots hlink rest ih =>
    cases before with
    | nil => cases hsteps; exact absurd rfl hdot
    | cons step before =>
      -- the steps of the target come in front of those before the dot
      rw [List.cons_append] at hsteps ⊢
      cases hsteps
      refine .follow hhere hdot hdots hlink ?_
      rw [← List.append_assoc]
      exact ih (List.append_assoc ..)
  | enter hhere hdot hdots hnode hlink rest ih =>
    cases before with
    | nil => cases hsteps; exact absurd rfl hdot
    | cons step before => cases hsteps; exact .enter hhere hdot hdots hnode hlink (ih rfl)

/-- All dots from some place on may be left out. -/
theorem Leads.append_filter {before steps : List Bytes}
    (way : Leads root links here (before ++ steps) last) :
    Leads root links here (before ++ steps.filter (· != [dot])) last := by
  induction steps generalizing before with
  | nil => exact way
  | cons step steps ih =>
    by_cases hdot : step = [dot]
    · subst hdot
      exact ih way.without_dot
    · rw [List.filter_cons_of_pos (by simpa using hdot), List.append_cons]
      exact ih (List.append_cons .. ▸ way)

/-- All dots on the way may be left out. -/
theorem Leads.filter {steps : List Bytes} (way : Leads root links here steps last) :
    Leads root links here (steps.filter (· != [dot])) last :=
  append_filter (List.nil_append steps ▸ way)

/-- Names lead down to the file that is at their location. -/
theorem leads_names {node : Node} {below : Location} {content : Bytes} (links : Nat)
    (hhere : root.at? here = some node) (hfile : node.at? below = some (.file content))
    (hnames : ∀ name ∈ below, FilePath.isName name = true) :
    Leads root links here below (here ++ below) := by
  induction below generalizing here node with
  | nil => rw [List.append_nil]; exact .stop _ _
  | cons name below ih =>
    obtain ⟨hname, hbelow⟩ := List.forall_mem_cons.1 hnames
    rw [Node.at?] at hfile
    obtain ⟨child, hchild, hrest⟩ := Option.bind_eq_some_iff.1 hfile
    have hnext : root.at? (here ++ [name]) = some child := by
      rw [Node.at?_append, hhere, Option.bind_some, Node.at?, hchild]
      rfl
    cases node with
    | file => cases hchild
    | link => cases hchild
    | directory entries =>
      have hleads := FilePath.leadsOn_of_isName hname
      rw [List.append_cons]
      refine .enter hhere ?_ ?_ hnext ?_ (ih hnext hrest hbelow)
      · rintro rfl
        cases hleads
      · rintro rfl
        cases hname
      · rintro target rfl
        exact Node.at?_link_ne_file target below content hrest

/-! ### Spelled paths -/

/-- Where a path leads is where its steps lead from its start. -/
theorem locate?_eq_some_iff {tree : FileTree} {path : FilePath} :
    tree.locate? true path = some last ↔ path ≠ [] ∧
      Leads tree.root 40 (if FilePath.isAbsolute path then [] else tree.here) (FilePath.steps path) last := by
  rw [locate?, leads_iff_walk]
  by_cases hpath : path = [] <;> simp [hpath]

/-- **Spellings of one path lead to one place, if they lead anywhere.** -/
theorem locate?_eq_of_components_eq {tree : FileTree} {first second : FilePath} {other : Location}
    (hsame : FilePath.components first = FilePath.components second)
    (hfirst : tree.locate? true first = some last) (hsecond : tree.locate? true second = some other) :
    last = other := by
  obtain ⟨-, hfirst⟩ := locate?_eq_some_iff.1 hfirst
  obtain ⟨-, hsecond⟩ := locate?_eq_some_iff.1 hsecond
  have habsolute : FilePath.isAbsolute first = FilePath.isAbsolute second := by
    rw [Bool.eq_iff_iff, FilePath.isAbsolute_iff, FilePath.isAbsolute_iff, hsame]
  have hsteps : (FilePath.steps first).filter (· != [dot]) = (FilePath.steps second).filter (· != [dot]) := by
    rw [FilePath.filter_steps, FilePath.filter_steps, hsame]
  have hway := hfirst.filter
  rw [hsteps, habsolute] at hway
  exact hway.unique hsecond.filter

/-- A path that does not lead to a link leads to what it names. -/
theorem locate?_true_of_false {tree : FileTree} {path : FilePath} {node : Node}
    (h : tree.locate? false path = some last) (hnode : tree.root.at? last = some node)
    (hlink : ∀ target, node ≠ .link target) : tree.locate? true path = some last := by
  rw [locate?] at h
  by_cases hpath : path = []
  · rw [if_pos hpath] at h; cases h
  · rw [if_neg hpath] at h
    refine locate?_eq_some_iff.2 ⟨hpath, leads_of_walk h fun _ target hlast => hlink target ?_⟩
    exact Option.some.inj (hnode.symm.trans hlast)

/-- **What is below a directory is reached through its path.** -/
theorem locate?_join {tree : FileTree} {directory : FilePath} {node : Node} {below : Location}
    {content : Bytes} (hdirectory : tree.locate? true directory = some last)
    (hnode : tree.root.at? last = some node) (hfile : node.at? below = some (.file content))
    (hnames : ∀ name ∈ below, FilePath.isName name = true) :
    tree.locate? true (FilePath.join directory below) = some (last ++ below) := by
  obtain ⟨hne, hway⟩ := locate?_eq_some_iff.1 hdirectory
  cases below with
  | nil => rw [List.append_nil]; exact hdirectory
  | cons name names =>
    refine locate?_eq_some_iff.2 ⟨?_, ?_⟩
    · rw [FilePath.join]
      simp [hne]
    · rw [FilePath.steps_join directory hnames, FilePath.isAbsolute_join hne]
      refine Leads.append ?_ fun links => leads_names links hnode hfile hnames
      rcases FilePath.steps_eq_or directory with hsteps | hsteps
      · exact hsteps ▸ hway
      · rw [hsteps] at hway
        have hway := hway.without_dot
        rwa [List.append_nil] at hway

end UsingAdvisor.FileTree
