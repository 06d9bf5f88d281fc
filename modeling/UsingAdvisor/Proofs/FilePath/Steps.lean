import UsingAdvisor.FilePath

/-!
# The steps of a path

Paths that are spelled differently may be the same by their components. What they then have in common is
where they start (`isAbsolute_iff`) and their steps, dots apart (`filter_steps`). The steps to a place below a
directory are those to the directory and the names below it, without a dot in between (`steps_join`), and so are
its components (`components_join`).
-/

namespace UsingAdvisor.FilePath

/-! ### Parts -/

theorem parts_ne_nil (path : FilePath) : parts path ≠ [] := by
  cases path with
  | nil => simp [parts]
  | cons byte path =>
    rw [parts]
    split
    · simp
    · split <;> simp

/-- A slash separates the parts in front of it from those behind it. -/
theorem parts_append_slash (first second : FilePath) :
    parts (first ++ slash :: second) = parts first ++ parts second := by
  induction first with
  | nil => simp [parts]
  | cons byte first ih =>
    rw [List.cons_append, parts, parts, ih]
    split
    · rfl
    · cases hparts : parts first with
      | nil => exact absurd hparts (parts_ne_nil first)
      | cons part rest => rfl

theorem parts_of_not_mem {part : Bytes} (h : slash ∉ part) : parts part = [part] := by
  induction part with
  | nil => rfl
  | cons byte part ih =>
    obtain ⟨hbyte, hpart⟩ := not_or.1 (mt List.mem_cons.2 h)
    rw [parts, if_neg (Ne.symm hbyte), ih hpart]

/-- Names are the parts of the path that they make. -/
theorem parts_names {name : Bytes} {names : List Bytes} (h : ∀ part ∈ name :: names, slash ∉ part) :
    parts (name ++ names.flatMap (slash :: ·)) = name :: names := by
  obtain ⟨hname, hnames⟩ := List.forall_mem_cons.1 h
  induction names generalizing name with
  | nil => rw [List.flatMap_nil, List.append_nil, parts_of_not_mem hname]
  | cons next names ih =>
    obtain ⟨hnext, hrest⟩ := List.forall_mem_cons.1 hnames
    rw [List.flatMap_cons, List.cons_append, parts_append_slash, parts_of_not_mem hname,
      ih hnames hnext hrest]
    rfl

/-- A part holds no slash. -/
theorem slash_not_mem_of_mem_parts {path : FilePath} {part : Bytes} (h : part ∈ parts path) : slash ∉ part := by
  induction path generalizing part with
  | nil =>
    rw [List.mem_singleton.1 h]
    exact List.not_mem_nil
  | cons byte path ih =>
    obtain ⟨first, rest, hparts⟩ := List.exists_cons_of_ne_nil (parts_ne_nil path)
    rw [parts, hparts] at h
    split at h
    next =>
      rcases List.mem_cons.1 h with rfl | hpart
      · exact List.not_mem_nil
      · exact ih (hparts ▸ hpart)
    next hbyte =>
      rcases List.mem_cons.1 h with rfl | hpart
      · exact fun hslash => (List.mem_cons.1 hslash).elim (fun heq => hbyte heq.symm)
          (ih (hparts ▸ List.mem_cons_self))
      · exact ih (hparts ▸ List.mem_cons_of_mem _ hpart)

/-- A path that ends with a slash has an empty part at its end. -/
theorem getLast?_parts {path : FilePath} (h : path.getLast? = some slash) :
    (parts path).getLast? = some [] := by
  obtain ⟨front, rfl⟩ := List.getLast?_eq_some_iff.1 h
  rw [parts_append_slash, List.getLast?_append]
  rfl

/-- The steps of a path are its parts, but for empty ones, and a dot where a slash is at its end. -/
theorem steps_eq_or (path : FilePath) :
    steps path = (parts path).filter (· != []) ∨
      steps path = (parts path).filter (· != []) ++ [[dot]] := by
  rw [steps]
  split
  · exact .inr rfl
  · exact .inl rfl

/-! ### Components -/

/-- The step that a component is, if it is one. -/
def Component.step? : Component → Option Bytes
  | root => none
  | current => none
  | parent => some [dot, dot]
  | name bytes => some bytes

/-- Whether a part is a step that leads on. -/
def leadsOn (part : Bytes) : Bool :=
  part != [] && part != [dot]

/-- A part is a component if it leads on, and its step is the part itself. -/
theorem component?_bind_step? (part : Bytes) :
    (component? part).bind Component.step? = Option.guard leadsOn part := by
  rw [component?]
  by_cases hnone : part = [] ∨ part = [dot]
  · rw [if_pos hnone]
    rcases hnone with rfl | rfl <;> rfl
  · rw [if_neg hnone]
    obtain ⟨hempty, hdot⟩ := not_or.1 hnone
    have hleads : leadsOn part = true := by simp [leadsOn, hempty, hdot]
    rw [Option.guard_pos hleads]
    split
    next hparent => rw [hparent]; rfl
    next => rfl

/-- The steps of the components that parts stand for are the parts that lead on. -/
theorem filterMap_component?_step? (parts : List Bytes) :
    (parts.filterMap component?).filterMap Component.step? = parts.filter leadsOn := by
  rw [List.filterMap_filterMap, funext component?_bind_step?, List.filterMap_eq_filter]

/-- The component in front of those that the parts stand for. -/
def front (path : FilePath) : List Component :=
  if isAbsolute path then [.root]
  else if (parts path).head? = some [dot] then [.current]
  else []

/-- The front of a path is no step. -/
theorem filterMap_step?_front (path : FilePath) : (front path).filterMap Component.step? = [] := by
  rw [front]
  split
  · rfl
  · split <;> rfl

theorem components_eq (path : FilePath) :
    components path = front path ++ (parts path).filterMap component? := by
  cases path with
  | nil => rfl
  | cons byte path =>
    simp only [components, front, isAbsolute, List.head?_cons, beq_iff_eq, Option.some.injEq]
    split
    · rfl
    · split <;> rfl

/-- **The components of a path tell its steps, dots apart.** -/
theorem filter_steps (path : FilePath) :
    (steps path).filter (· != [dot]) = (components path).filterMap Component.step? := by
  have hsteps : (steps path).filter (· != [dot]) =
      ((parts path).filter (· != [])).filter (· != [dot]) := by
    rcases steps_eq_or path with h | h
    · rw [h]
    · rw [h, List.filter_append]
      exact List.append_nil _
  rw [components_eq, List.filterMap_append, filterMap_step?_front, List.nil_append, filterMap_component?_step?,
    hsteps, List.filter_filter]
  refine List.filter_congr fun part _ => ?_
  rw [leadsOn, Bool.and_comm]

/-- The slash at the front of a path stands for no part. -/
theorem component?_ne_root (part : Bytes) : component? part ≠ some .root := by
  rw [component?]
  split
  · simp
  · split <;> simp

/-- The components of a path tell where it starts. -/
theorem isAbsolute_iff (path : FilePath) :
    isAbsolute path = true ↔ .root ∈ components path := by
  have hparts : Component.root ∉ (parts path).filterMap component? := by
    intro hroot
    obtain ⟨part, -, hpart⟩ := List.mem_filterMap.1 hroot
    exact component?_ne_root part hpart
  rw [components_eq, List.mem_append, or_iff_left hparts, front]
  split
  next h => simp [h]
  next h => split <;> simp [h]

/-- A slash at the end of a path counts for nothing. -/
theorem components_append_slash {path : FilePath} (hne : path ≠ []) :
    components (path ++ [slash]) = components path := by
  obtain ⟨byte, rest, rfl⟩ := List.exists_cons_of_ne_nil hne
  obtain ⟨part, more, hparts⟩ := List.exists_cons_of_ne_nil (parts_ne_nil (byte :: rest))
  have hfront : front (byte :: rest ++ [slash]) = front (byte :: rest) := by
    rw [front, front, parts_append_slash, hparts]
    rfl
  rw [components_eq, components_eq, hfront, parts_append_slash, List.filterMap_append]
  exact congrArg (front (byte :: rest) ++ ·) (List.append_nil _)

/-- Paths with the same components have the same extension. -/
theorem hasExtension_of_components_eq {first second : FilePath} (h : components first = components second)
    (extension : Text) : hasExtension first extension = hasExtension second extension := by
  rw [hasExtension, hasExtension, extension?, extension?, fileName?, fileName?, h]

/-! ### Paths below a directory -/

theorem slash_not_mem_of_isName {name : Bytes} (h : isName name = true) : slash ∉ name := by
  simp only [isName, Bool.and_eq_true, Bool.not_eq_true'] at h
  simpa using h.1

theorem leadsOn_of_isName {name : Bytes} (h : isName name = true) : leadsOn name = true := by
  simp only [isName, Bool.and_eq_true, beq_iff_eq] at h
  have hstep := component?_bind_step? name
  rw [h.2] at hstep
  exact (Option.guard_eq_some_iff.1 hstep.symm).2

/-- A path below a directory starts where the path of the directory does. -/
theorem isAbsolute_join {directory : FilePath} (h : directory ≠ []) (below : List Bytes) :
    isAbsolute (join directory below) = isAbsolute directory := by
  cases directory with
  | nil => exact absurd rfl h
  | cons byte directory => cases below <;> rfl

/-- The parts of a path below a directory: those of the directory, but for empty ones, and the names. -/
theorem exists_parts_join (directory : FilePath) {name : Bytes} {names : List Bytes}
    (h : ∀ part ∈ name :: names, isName part = true) :
    ∃ front, parts (join directory (name :: names)) = front ++ name :: names ∧
      front.filter (· != []) = (parts directory).filter (· != []) ∧ front.head? = (parts directory).head? := by
  have hnames : parts (name ++ names.flatMap (slash :: ·)) = name :: names :=
    parts_names fun part hpart => slash_not_mem_of_isName (h part hpart)
  rw [join]
  by_cases hlast : directory.getLast? = some slash
  · obtain ⟨above, rfl⟩ := List.getLast?_eq_some_iff.1 hlast
    refine ⟨parts above, ?_, ?_, ?_⟩
    · rw [if_pos hlast, List.append_nil, List.append_assoc, List.append_assoc, List.singleton_append,
        parts_append_slash, hnames]
    · rw [parts_append_slash, List.filter_append]
      exact (List.append_nil _).symm
    · obtain ⟨part, rest, hparts⟩ := List.exists_cons_of_ne_nil (parts_ne_nil above)
      rw [parts_append_slash, hparts]
      rfl
  · refine ⟨parts directory, ?_, rfl, rfl⟩
    rw [if_neg hlast, List.append_assoc, List.append_assoc, List.singleton_append, parts_append_slash,
      hnames]

/-- **The steps to a place below a directory.** They are the parts of the directory that are not empty, and
then the names below it. -/
theorem steps_join (directory : FilePath) {name : Bytes} {names : List Bytes}
    (h : ∀ part ∈ name :: names, isName part = true) :
    steps (join directory (name :: names)) =
      (parts directory).filter (· != []) ++ name :: names := by
  obtain ⟨front, hparts, hfront, -⟩ := exists_parts_join directory h
  have hne (part : Bytes) (hpart : part ∈ name :: names) : (part != []) = true :=
    (Bool.and_eq_true _ _ ▸ leadsOn_of_isName (h part hpart)).1
  have hlast : (join directory (name :: names)).getLast? ≠ some slash := by
    intro hslash
    have hempty := getLast?_parts hslash
    rw [hparts, List.getLast?_append, List.getLast?_cons, Option.some_or] at hempty
    have hmem : [] ∈ name :: names := List.mem_of_getLast? (List.getLast?_cons.trans hempty)
    exact absurd (hne [] hmem) (by decide)
  rw [steps, if_neg hlast, hparts, List.filter_append, hfront, List.filter_eq_self.2 hne]

/-- Names are components. -/
theorem filterMap_component?_names {names : List Bytes} (h : ∀ name ∈ names, isName name = true) :
    names.filterMap component? = names.map .name := by
  induction names with
  | nil => rfl
  | cons name names ih =>
    obtain ⟨hname, hnames⟩ := List.forall_mem_cons.1 h
    simp only [isName, Bool.and_eq_true, beq_iff_eq] at hname
    rw [List.filterMap_cons_some hname.2, ih hnames, List.map_cons]

/-- Empty parts are no components. -/
theorem filterMap_component?_filter (parts : List Bytes) :
    (parts.filter (· != [])).filterMap component? = parts.filterMap component? := by
  rw [List.filterMap_filter]
  refine congrArg (List.filterMap · parts) (funext fun part => ?_)
  by_cases hempty : part = []
  · rw [hempty]
    rfl
  · rw [if_pos (by simpa using hempty)]

/-- **The components of a path below a directory**: those of the directory, and the names. -/
theorem components_join {directory : FilePath} (hne : directory ≠ []) {names : List Bytes}
    (h : ∀ name ∈ names, isName name = true) :
    components (join directory names) = components directory ++ names.map .name := by
  cases names with
  | nil => exact (List.append_nil _).symm
  | cons name names =>
    obtain ⟨above, hparts, hfilter, hhead⟩ := exists_parts_join directory h
    obtain ⟨part, rest, hdirectory⟩ := List.exists_cons_of_ne_nil (parts_ne_nil directory)
    have hfront : front (join directory (name :: names)) = front directory := by
      rw [hdirectory, List.head?_cons] at hhead
      rw [front, front, isAbsolute_join hne, hparts, hdirectory, List.head?_append, hhead, Option.some_or,
        List.head?_cons]
    have habove : above.filterMap component? = (parts directory).filterMap component? := by
      rw [← filterMap_component?_filter, hfilter, filterMap_component?_filter]
    rw [components_eq, components_eq directory, hfront, hparts, List.filterMap_append, habove,
      filterMap_component?_names h, List.append_assoc]

end UsingAdvisor.FilePath
