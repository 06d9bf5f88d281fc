import UsingAdvisor.Proofs.FileTree.Files
import UsingAdvisor.Proofs.Order
import UsingAdvisor.Proofs.Repetition
import UsingAdvisor.Workspace

/-!
# The source files of a workspace

Below a root the files of one node are listed (`mem_filesBelow_iff`). The source files are listed in ascending
order (`sourceFiles_ascending`), each of them leads to a file (`reached?_of_mem_sourceFiles`), and but for their
spelling they depend on which roots there are, not on the order in which the roots are given nor on how often
(`components_sourceFiles_congr`). What is read through them depends on neither (`readText?_sourceFiles_congr`).
-/

namespace UsingAdvisor.Workspace

variable {tree : FileTree} {options : ScanOptions}

/-! ### Files below a root -/

/-- The node at which the files below a root are looked for: the one that the root names, or, where that is a
link, the directory that the link leads to. Below a link that leads to no directory nothing is looked for. -/
inductive StartsAt (tree : FileTree) (root : FilePath) : FileTree.Node → Prop
  | named {node : FileTree.Node} (hnode : tree.named? root = some node)
      (hlink : ∀ target, node ≠ .link target) : StartsAt tree root node
  | followed {target : FilePath} {entries : List (Bytes × FileTree.Node)}
      (hlink : tree.named? root = some (.link target))
      (hdirectory : tree.reached? root = some (.directory entries)) :
      StartsAt tree root (.directory entries)

/-- A path is listed below a root if it is spelled from the root on, has the extension of source files, and
leads from the node of the root to one of the files below it. -/
theorem mem_filesBelow_iff {root path : FilePath} :
    path ∈ filesBelow tree options root ↔ ∃ node below, StartsAt tree root node ∧
      below ∈ node.files (options.excluded.map Bytes.ofText) ∧ path = FilePath.join root below ∧
      FilePath.hasExtension path options.extension = true := by
  have hlisted (node : FileTree.Node) : path ∈ ((node.files (options.excluded.map Bytes.ofText)).map
      (FilePath.join root)).filter (fun path => FilePath.hasExtension path options.extension) ↔
      ∃ below, below ∈ node.files (options.excluded.map Bytes.ofText) ∧ path = FilePath.join root below ∧
        FilePath.hasExtension path options.extension = true := by
    simp only [List.mem_filter, List.mem_map, eq_comm (a := path), and_assoc, ← exists_and_right]
  rw [filesBelow]
  simp only
  -- the three cases of a root: it is not there, it is a link, it is a file or a directory
  split
  next hnone =>
    refine iff_of_false List.not_mem_nil ?_
    rintro ⟨_, _, ⟨hnode, -⟩ | ⟨hlink, -⟩, -⟩
    · rw [hnone] at hnode; cases hnode
    · rw [hnone] at hlink; cases hlink
  next target hlink =>
    split
    next entries hreached =>
      rw [hlisted]
      constructor
      · rintro ⟨below, hbelow⟩
        exact ⟨_, below, .followed hlink hreached, hbelow⟩
      · rintro ⟨_, below, ⟨hnode, hnot⟩ | ⟨-, hdirectory⟩, hbelow⟩
        · exact absurd (Option.some.inj (hnode.symm.trans hlink)) (hnot target)
        · cases hreached.symm.trans hdirectory
          exact ⟨below, hbelow⟩
    next hreached =>
      refine iff_of_false List.not_mem_nil ?_
      rintro ⟨_, _, ⟨hnode, hnot⟩ | ⟨-, hdirectory⟩, -⟩
      · exact hnot target (Option.some.inj (hnode.symm.trans hlink))
      · exact hreached _ hdirectory
  next node hlink hnamed =>
    rw [hlisted]
    constructor
    · rintro ⟨below, hbelow⟩
      exact ⟨node, below, .named hnamed hlink, hbelow⟩
    · rintro ⟨_, below, ⟨hnode, -⟩ | ⟨hlinked, -⟩, hbelow⟩
      · cases hnamed.symm.trans hnode
        exact ⟨below, hbelow⟩
      · exact absurd (Option.some.inj (hnamed.symm.trans hlinked)) (hlink _)

/-- A root leads to the node at which the files below it are looked for. -/
theorem StartsAt.exists_location {root : FilePath} {node : FileTree.Node} (h : StartsAt tree root node) :
    ∃ location, tree.locate? true root = some location ∧ tree.root.at? location = some node := by
  cases h with
  | named hnode hlink =>
    obtain ⟨location, hlocation, hnode⟩ := Option.bind_eq_some_iff.1 hnode
    exact ⟨location, FileTree.locate?_true_of_false hlocation hnode hlink, hnode⟩
  | followed hlink hdirectory => exact Option.bind_eq_some_iff.1 hdirectory

/-- The node at which files are looked for is well formed. -/
theorem StartsAt.wellFormed {root : FilePath} {node : FileTree.Node} (h : StartsAt tree root node) :
    node.wellFormed = true := by
  obtain ⟨location, -, hnode⟩ := h.exists_location
  exact FileTree.Node.wellFormed_at? tree.wellFormed hnode

/-- **A path that is listed leads to a file.** -/
theorem locate?_of_mem_filesBelow {root path : FilePath} (h : path ∈ filesBelow tree options root) :
    ∃ location content, tree.locate? true path = some location ∧
      tree.root.at? location = some (.file content) := by
  obtain ⟨node, below, hstart, hbelow, rfl, -⟩ := mem_filesBelow_iff.1 h
  obtain ⟨location, hroot, hnode⟩ := hstart.exists_location
  obtain ⟨content, hfile⟩ := ((FileTree.Node.mem_files_iff hstart.wellFormed).1 hbelow).isFile
  have hnames := FileTree.Node.isName_of_at? hstart.wellFormed hfile
  refine ⟨location ++ below, content, FileTree.locate?_join hroot hnode hfile hnames, ?_⟩
  rw [FileTree.Node.at?_append, hnode]
  exact hfile

/-! ### Ascending paths -/

/-- The order of paths up to spelling. -/
theorem components_strictOrder : StrictOrder (dictionary FilePath.componentBefore) :=
  FilePath.componentBefore_strictOrder.dictionary

/-- Without repeats the same paths are left but for their spelling. -/
theorem mem_components_dropRepeats (paths : List FilePath) (components : List FilePath.Component) :
    components ∈ (dropRepeats paths).map FilePath.components ↔
      components ∈ paths.map FilePath.components := by
  fun_induction dropRepeats paths with
  | case1 => rfl
  | case2 => rfl
  | case3 path next rest hsame ih =>
    have heq : path.components = next.components := eq_of_beq hsame
    rw [ih]
    simp [heq]
  | case4 path next rest _ ih =>
    rw [List.map_cons, List.mem_cons, ih, ← List.mem_cons, ← List.map_cons]

theorem dropRepeats_sublist (paths : List FilePath) : (dropRepeats paths).Sublist paths := by
  fun_induction dropRepeats paths with
  | case1 => exact .slnil
  | case2 => exact .refl _
  | case3 path next rest _ ih => exact ih.trans (.cons_cons path (List.sublist_cons_self next rest))
  | case4 path next rest _ ih => exact ih.cons_cons path

/-- Where no path comes before one in front of it, those left without repeats ascend. -/
theorem pairwise_dropRepeats {paths : List FilePath}
    (h : paths.Pairwise fun first second => FilePath.precedes second first = false) :
    (dropRepeats paths).Pairwise fun first second => FilePath.precedes first second = true := by
  fun_induction dropRepeats paths with
  | case1 => exact .nil
  | case2 => exact List.pairwise_singleton ..
  | case3 path next rest _ ih => exact ih (h.sublist (.cons_cons path (List.sublist_cons_self next rest)))
  | case4 path next rest hdiffer ih =>
    obtain ⟨hpath, hrest⟩ := List.pairwise_cons.1 h
    refine List.pairwise_cons.2 ⟨fun other hother => ?_, ih hrest⟩
    -- the next path is another one and does not come before this one, so it comes after it, and no
    -- later path comes before the next
    have hne : path.components ≠ next.components := fun heq => hdiffer (beq_iff_eq.2 heq)
    have hnext : FilePath.precedes path next = true := by
      rcases components_strictOrder.total hne with hbefore | hafter
      · exact hbefore
      · have hnot := hpath next List.mem_cons_self
        rw [FilePath.precedes, hafter] at hnot
        cases hnot
    rcases List.mem_cons.1 ((dropRepeats_sublist _).subset hother) with rfl | hother
    · exact hnext
    · exact components_strictOrder.trans_not hnext ((List.pairwise_cons.1 hrest).1 other hother)

/-- **The source files are listed in ascending order.** -/
theorem sourceFiles_ascending (tree : FileTree) (roots : List FilePath) (options : ScanOptions) :
    (sourceFiles tree roots options).Pairwise fun first second =>
      FilePath.precedes first second = true := by
  refine pairwise_dropRepeats ((List.pairwise_mergeSort ?_ ?_ _).imp fun h => by simpa using h)
  · intro first second third hfirst hsecond
    simp only [Bool.not_eq_true'] at hfirst hsecond ⊢
    exact components_strictOrder.not_trans hfirst hsecond
  · intro first second
    cases h : FilePath.precedes second first with
    | false => rfl
    | true =>
      have hnot := components_strictOrder.asymm h
      simp [FilePath.precedes, hnot]

/-- A source file is listed below one of the roots. -/
theorem exists_of_mem_sourceFiles {roots : List FilePath} {path : FilePath}
    (h : path ∈ sourceFiles tree roots options) : ∃ root ∈ roots, path ∈ filesBelow tree options root :=
  List.mem_flatMap.1 (List.mem_mergeSort.1 ((dropRepeats_sublist _).subset h))

/-- All that is listed below the roots is among the source files, but for its spelling. -/
theorem mem_components_sourceFiles {roots : List FilePath} {components : List FilePath.Component} :
    components ∈ (sourceFiles tree roots options).map FilePath.components ↔
      ∃ root ∈ roots, components ∈ (filesBelow tree options root).map FilePath.components := by
  rw [sourceFiles, mem_components_dropRepeats]
  simp only [List.mem_map, List.mem_mergeSort, List.mem_flatMap]
  constructor
  · rintro ⟨path, ⟨root, hroot, hpath⟩, rfl⟩
    exact ⟨root, hroot, path, hpath, rfl⟩
  · rintro ⟨root, hroot, path, hpath, rfl⟩
    exact ⟨path, ⟨root, hroot, hpath⟩, rfl⟩

/-- As many files are listed as there are paths below the roots, spellings of one path counted once. -/
theorem length_sourceFiles (tree : FileTree) (roots : List FilePath) (options : ScanOptions) :
    (sourceFiles tree roots options).length =
      ((roots.flatMap (filesBelow tree options)).map FilePath.components).eraseDups.length := by
  have hnodup : ((sourceFiles tree roots options).map FilePath.components).Nodup :=
    components_strictOrder.nodup (List.pairwise_map.2 (sourceFiles_ascending tree roots options))
  have hperm := (List.perm_ext_iff_of_nodup hnodup (nodup_eraseDups
    ((roots.flatMap (filesBelow tree options)).map FilePath.components))).2 fun components => by
    rw [List.mem_eraseDups, mem_components_sourceFiles, List.map_flatMap, List.mem_flatMap]
  rw [← hperm.length_eq, List.length_map]

/-- **The source files depend, but for their spelling, on which roots there are.** -/
theorem components_sourceFiles_congr {roots others : List FilePath}
    (h : ∀ root, root ∈ roots ↔ root ∈ others) :
    (sourceFiles tree roots options).map FilePath.components =
      (sourceFiles tree others options).map FilePath.components := by
  refine components_strictOrder.eq_of_mem_iff ?_ ?_ fun components => ?_
  · exact List.pairwise_map.2 (sourceFiles_ascending tree roots options)
  · exact List.pairwise_map.2 (sourceFiles_ascending tree others options)
  · rw [mem_components_sourceFiles, mem_components_sourceFiles]
    simp only [h]

/-! ### Reading source files -/

/-- A source file is a file, so its text is missing only where its bytes are no text. -/
theorem reached?_of_mem_sourceFiles {roots : List FilePath} {path : FilePath}
    (h : path ∈ sourceFiles tree roots options) :
    ∃ content, tree.reached? path = some (.file content) ∧
      tree.readText? path = Bytes.toText? content := by
  obtain ⟨root, -, hpath⟩ := exists_of_mem_sourceFiles h
  obtain ⟨location, content, hlocation, hfile⟩ := locate?_of_mem_filesBelow hpath
  have hreached : tree.reached? path = some (.file content) := by
    rw [FileTree.reached?, hlocation]
    exact hfile
  exact ⟨content, hreached, by rw [FileTree.readText?, hreached]⟩

/-- Through two spellings of a source file the same text is read. -/
theorem readText?_eq_of_components_eq {roots others : List FilePath} {first second : FilePath}
    (hfirst : first ∈ sourceFiles tree roots options) (hsecond : second ∈ sourceFiles tree others options)
    (hsame : FilePath.components first = FilePath.components second) :
    tree.readText? first = tree.readText? second := by
  obtain ⟨_, -, hfirst⟩ := exists_of_mem_sourceFiles hfirst
  obtain ⟨_, -, hsecond⟩ := exists_of_mem_sourceFiles hsecond
  obtain ⟨location, _, hlocation, -⟩ := locate?_of_mem_filesBelow hfirst
  obtain ⟨other, _, hother, -⟩ := locate?_of_mem_filesBelow hsecond
  have heq : location = other := FileTree.locate?_eq_of_components_eq hsame hlocation hother
  rw [FileTree.readText?, FileTree.readText?, FileTree.reached?, FileTree.reached?, hlocation, hother, heq]

/-- **The texts of a workspace depend on which roots there are.** -/
theorem readText?_sourceFiles_congr {roots others : List FilePath}
    (h : ∀ root, root ∈ roots ↔ root ∈ others) :
    (sourceFiles tree roots options).map tree.readText? =
      (sourceFiles tree others options).map tree.readText? :=
  map_eq_of_map_eq (components_sourceFiles_congr h) fun _ hfirst _ hsecond hsame =>
    readText?_eq_of_components_eq hfirst hsecond hsame

end UsingAdvisor.Workspace
