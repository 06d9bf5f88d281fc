import UsingAdvisor.Proofs.FileTree.Walk

/-!
# Where ways end

A path that names a file ends with the name that the file has in its directory (`getLast?_of_fileName?`): dots at
the end of a path ask for a directory, and a link at the end is no file. In a tree without links a path names what
it leads to (`named?_of_linkFree`), and its names are the names on the way there (`eq_append_of_linkFree`).
-/

namespace UsingAdvisor

namespace FilePath

/-- What is a name is no dot and not two dots. -/
theorem ne_dots_of_component? {part name : Bytes} (h : component? part = some (.name name)) :
    part = name ∧ name ≠ [dot] ∧ name ≠ [dot, dot] := by
  rw [component?] at h
  split at h
  next => cases h
  next hnone =>
    split at h
    next => cases h
    next hparent =>
      cases h
      exact ⟨rfl, fun hdot => hnone (.inr hdot), hparent⟩

/-- A name of a path is one of its parts. -/
theorem exists_part_of_mem_components {path : FilePath} {name : Bytes} (h : .name name ∈ components path) :
    ∃ part ∈ parts path, component? part = some (.name name) := by
  have hfront : .name name ∉ front path := fun hmem =>
    Option.some_ne_none name (List.filterMap_eq_nil_iff.1 (filterMap_step?_front path) _ hmem)
  rw [components_eq, List.mem_append, or_iff_right hfront] at h
  exact List.mem_filterMap.1 h

theorem ne_dots_of_mem_components {path : FilePath} {name : Bytes} (h : .name name ∈ components path) :
    name ≠ [dot] ∧ name ≠ [dot, dot] := by
  obtain ⟨part, -, hpart⟩ := exists_part_of_mem_components h
  exact (ne_dots_of_component? hpart).2

/-- What a path has for a name can be the name of a file. -/
theorem isName_of_mem_components {path : FilePath} {name : Bytes} (h : .name name ∈ components path) :
    isName name = true := by
  obtain ⟨part, hpart, hname⟩ := exists_part_of_mem_components h
  obtain ⟨rfl, -, -⟩ := ne_dots_of_component? hname
  simp [isName, slash_not_mem_of_mem_parts hpart, hname]

/-- A part that is not two dots stands for a name, if it stands for a component. -/
theorem exists_name_of_component? {part : Bytes} {component : Component} (h : component? part = some component)
    (hparent : component ≠ .parent) : ∃ name, component = .name name := by
  rw [component?] at h
  split at h
  next => cases h
  next =>
    split at h
    next => exact absurd (Option.some.inj h).symm hparent
    next => exact ⟨part, (Option.some.inj h).symm⟩

/-- Names are told by their steps. -/
theorem map_name_filterMap_step? {names : List Component}
    (h : ∀ component ∈ names, ∃ name, component = .name name) :
    (names.filterMap Component.step?).map .name = names := by
  induction names with
  | nil => rfl
  | cons component names ih =>
    obtain ⟨⟨name, rfl⟩, hrest⟩ := List.forall_mem_cons.1 h
    rw [List.filterMap_cons, Component.step?, List.map_cons, ih hrest]

/-- Without two dots in it a path is its front and the names of its steps. -/
theorem components_of_not_mem_parent {path : FilePath} (h : .parent ∉ components path) :
    components path = front path ++ ((components path).filterMap Component.step?).map .name := by
  rw [components_eq] at h
  have hnames : ∀ component ∈ (parts path).filterMap component?, ∃ name, component = .name name := by
    intro component hmem
    obtain ⟨part, -, hpart⟩ := List.mem_filterMap.1 hmem
    refine exists_name_of_component? hpart ?_
    rintro rfl
    exact h (List.mem_append_right _ hmem)
  rw [components_eq, List.filterMap_append, filterMap_step?_front, List.nil_append, map_name_filterMap_step? hnames]

/-- The front of a path tells where it starts. -/
theorem isAbsolute_iff_front (path : FilePath) : isAbsolute path = true ↔ front path = [.root] := by
  rw [front]
  split
  next h => simp [h]
  next h => split <;> simp [h]

theorem fileName?_eq_some_iff {path : FilePath} {name : Bytes} :
    fileName? path = some name ↔ (components path).getLast? = some (.name name) := by
  rw [fileName?]
  split
  next found hfound => rw [hfound, Option.some.injEq, Option.some.injEq, Component.name.injEq]
  next hnone => exact iff_of_false (Option.some_ne_none name).symm (hnone name)

/-- A path below a directory has the last name for its file name, if there is one. -/
theorem fileName?_join {directory : FilePath} (hne : directory ≠ []) {names : List Bytes} {name : Bytes}
    (h : ∀ part ∈ names, isName part = true) (hlast : names.getLast? = some name) :
    fileName? (join directory names) = some name := by
  rw [fileName?_eq_some_iff, components_join hne h, List.getLast?_append, List.getLast?_map, hlast]
  rfl

/-- A path with a file name ends with that name, or with a dot. -/
theorem getLast?_steps {path : FilePath} {name : Bytes} (h : fileName? path = some name) :
    (steps path).getLast? = some name ∨ (steps path).getLast? = some [dot] := by
  obtain ⟨above, habove⟩ := List.getLast?_eq_some_iff.1 (fileName?_eq_some_iff.1 h)
  have hfilter := filter_steps path
  rw [habove, List.filterMap_append] at hfilter
  rcases (steps path).eq_nil_or_concat with hnil | ⟨before, step, hsteps⟩
  · rw [hnil] at hfilter
    exact absurd hfilter.symm (by simp [Component.step?])
  · rw [hsteps, List.concat_eq_append, List.filter_append] at hfilter
    rw [hsteps, List.concat_eq_append, List.getLast?_concat]
    by_cases hdot : step = [dot]
    · exact .inr (by rw [hdot])
    · have hkept : [step].filter (· != [dot]) = [step] := by simp [hdot]
      rw [hkept] at hfilter
      exact .inl (congrArg some (List.append_singleton_inj.1 hfilter).2)

end FilePath

namespace FileTree

open FilePath (dot)

variable {root : Node} {links : Nat} {here last : Location} {steps : List Bytes}

/-- Another step in front of the last one. -/
theorem getLast?_of_cons {step name : Bytes} (h : (step :: steps).getLast? = some name) (hne : step ≠ name) :
    steps.getLast? = some name := by
  cases steps with
  | nil => exact absurd (Option.some.inj h) hne
  | cons next steps => rwa [List.getLast?_cons_cons] at h

/-- A dot at the end asks for a directory. -/
theorem Leads.exists_entries_of_dot (way : Leads root links here steps last)
    (hdot : steps.getLast? = some [dot]) : ∃ entries, root.at? last = some (.directory entries) := by
  induction way with
  | stop => cases hdot
  | @stay links here last steps entries hhere rest ih =>
    cases steps with
    | nil => cases rest; exact ⟨entries, hhere⟩
    | cons step steps => exact ih (by rwa [List.getLast?_cons_cons] at hdot)
  | leave hhere rest ih => exact ih (getLast?_of_cons hdot (by decide))
  | follow hhere hne _ hlink rest ih =>
    exact ih (by rw [List.getLast?_append, getLast?_of_cons hdot hne, Option.some_or])
  | enter hhere hne _ hnode hlink rest ih => exact ih (getLast?_of_cons hdot hne)

/-- A way that ends with a name, and does not follow a link there, leads to something of that name. -/
theorem getLast?_of_walk {name : Bytes} (h : walk root false links here steps = some last)
    (hname : steps.getLast? = some name) (hdot : name ≠ [dot]) (hdots : name ≠ [dot, dot]) :
    last.getLast? = some name := by
  fun_induction walk root false links here steps with
  | case1 => cases hname
  | case2 links here steps entries hhere ih => exact ih h (getLast?_of_cons hname (Ne.symm hdot))
  | case3 links here steps entries hhere hne ih => exact ih h (getLast?_of_cons hname (Ne.symm hdots))
  | case4 => cases h
  | case5 links here step steps entries hhere hne hnes target hlink hend =>
    rw [hend.1] at hname
    rw [← Option.some.inj h, ← Option.some.inj hname, List.getLast?_concat]
    rfl
  | case6 => cases h
  | case7 here step steps entries hhere hne hnes target hlink hend links start ih =>
    -- the link is followed, so that it is not what the last name names
    have hrest : steps.getLast? = some name := by
      cases steps with
      | nil => exact absurd ⟨rfl, Bool.false_ne_true⟩ hend
      | cons next steps => rwa [List.getLast?_cons_cons] at hname
    exact ih h (by rw [List.getLast?_append, hrest, Option.some_or])
  | case8 links here step steps entries hhere hne hnes node hlink hnode ih =>
    cases steps with
    | nil =>
      rw [walk] at h
      rw [← Option.some.inj h, ← Option.some.inj hname, List.getLast?_concat]
      rfl
    | cons next steps => exact ih h (by rwa [List.getLast?_cons_cons] at hname)
  | case9 => cases h

/-- **A path that names a file ends with the name that the file has in its directory.** -/
theorem getLast?_of_fileName? {tree : FileTree} {path : FilePath} {content name : Bytes}
    (h : tree.locate? false path = some last) (hfile : tree.root.at? last = some (.file content))
    (hname : FilePath.fileName? path = some name) : last.getLast? = some name := by
  have hmem : .name name ∈ FilePath.components path :=
    List.mem_of_getLast? (FilePath.fileName?_eq_some_iff.1 hname)
  obtain ⟨hdot, hdots⟩ := FilePath.ne_dots_of_mem_components hmem
  have hway := locate?_true_of_false h hfile (by simp)
  obtain ⟨hne, hway⟩ := locate?_eq_some_iff.1 hway
  rcases FilePath.getLast?_steps hname with hlast | hlast
  · rw [locate?, if_neg hne] at h
    exact getLast?_of_walk h hlast hdot hdots
  · obtain ⟨entries, hdirectory⟩ := hway.exists_entries_of_dot hlast
    rw [hfile] at hdirectory
    cases hdirectory

/-! ### Trees without links -/

namespace Node

mutual

/-- Whether a node is no link, and no link is below it. -/
def linkFree : Node → Bool
  | file _ => true
  | link _ => false
  | directory entries => linkFreeEntries entries

/-- Whether no link is among entries or below them. -/
def linkFreeEntries : List (Bytes × Node) → Bool
  | [] => true
  | (_, node) :: rest => node.linkFree && linkFreeEntries rest

end

theorem linkFree_of_mem {entries : List (Bytes × Node)} {entry : Bytes × Node}
    (h : linkFreeEntries entries = true) (hmem : entry ∈ entries) : entry.2.linkFree = true := by
  induction entries with
  | nil => cases hmem
  | cons first rest ih =>
    obtain ⟨hfirst, hrest⟩ := (Bool.and_eq_true _ _ ▸ h : first.2.linkFree = true ∧ linkFreeEntries rest = true)
    rcases List.mem_cons.1 hmem with rfl | hmem
    · exact hfirst
    · exact ih hrest hmem

/-- No node below such a node is a link. -/
theorem at?_ne_link {node : Node} (h : node.linkFree = true) (location : Location) (target : FilePath) :
    node.at? location ≠ some (.link target) := by
  induction location generalizing node with
  | nil =>
    rintro hlink
    cases hlink
    cases h
  | cons name location ih =>
    intro hlink
    obtain ⟨child, hchild, hrest⟩ := Option.bind_eq_some_iff.1 hlink
    have hmem := mem_entries_of_child? hchild
    cases node with
    | file => cases hmem
    | link => cases hmem
    | directory entries => exact ih (linkFree_of_mem h hmem) hrest

end Node

/-- Names lead down from where they start, in a tree without links. -/
theorem Leads.eq_append (way : Leads root links here steps last) (free : root.linkFree = true)
    (hnames : [dot, dot] ∉ steps) : last = here ++ steps.filter (· != [dot]) := by
  induction way with
  | stop => exact (List.append_nil _).symm
  | stay hhere rest ih => exact ih (mt (List.mem_cons_of_mem _) hnames)
  | leave hhere rest ih => exact absurd List.mem_cons_self hnames
  | follow hhere hdot hdots hlink rest ih => exact absurd hlink (Node.at?_ne_link free _ _)
  | @enter links here last step steps entries node hhere hdot hdots hnode hlink rest ih =>
    have hkept : (step :: steps).filter (· != [dot]) = step :: steps.filter (· != [dot]) :=
      List.filter_cons_of_pos (by simpa using hdot)
    rw [ih (mt (List.mem_cons_of_mem _) hnames), hkept, List.append_assoc, List.singleton_append]

/-- In a tree without links a path names what it leads to. -/
theorem named?_of_linkFree {tree : FileTree} {path : FilePath} (free : tree.root.linkFree = true)
    (h : tree.locate? true path = some last) : tree.named? path = tree.root.at? last := by
  obtain ⟨hne, hway⟩ := locate?_eq_some_iff.1 h
  rw [named?, locate?, if_neg hne]
  simp only [hway.walk_eq (.inr (Node.at?_ne_link free)), Option.bind_some]

/-- **Where a path without two dots leads in a tree without links** is told by its components: it starts at the
root or where relative paths start, and its names follow. -/
theorem eq_append_of_linkFree {tree : FileTree} {path : FilePath} (free : tree.root.linkFree = true)
    (hparent : .parent ∉ FilePath.components path) (h : tree.locate? true path = some last) :
    last = (if FilePath.isAbsolute path then [] else tree.here) ++
      (FilePath.components path).filterMap FilePath.Component.step? := by
  obtain ⟨-, hway⟩ := locate?_eq_some_iff.1 h
  rw [← FilePath.filter_steps]
  refine hway.eq_append free fun hmem => ?_
  -- two dots among the steps would be a component, and no name is two dots
  have hkept : [dot, dot] ∈ (FilePath.steps path).filter (· != [dot]) :=
    List.mem_filter.2 ⟨hmem, by decide⟩
  rw [FilePath.filter_steps] at hkept
  obtain ⟨component, hcomponent, hstep⟩ := List.mem_filterMap.1 hkept
  cases component with
  | root => cases hstep
  | current => cases hstep
  | parent => exact hparent hcomponent
  | name bytes => exact (FilePath.ne_dots_of_mem_components hcomponent).2 (Option.some.inj hstep)

end FileTree

end UsingAdvisor
