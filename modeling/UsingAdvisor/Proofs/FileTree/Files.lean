import UsingAdvisor.Proofs.FileTree.Walk

/-!
# The files below a node

What is listed below a node are the ways down to its files. A way leads from directory to directory, over no
link, and below the node itself it enters no directory with an excluded name (`LeadsToFile`). The listing is
found by recursion on the entries of directories, and a way is told by the nodes that stand on it; main
statement: `mem_files_iff` (the two are the same in a well-formed node).
-/

namespace UsingAdvisor.FileTree.Node

/-! ### Nodes on the way to a node -/

theorem child?_of_mem {entries : List (Bytes × Node)} {name : Bytes} {child : Node}
    (h : wellFormedEntries entries = true) (hmem : (name, child) ∈ entries) :
    (directory entries).child? name = some child := by
  rw [child?, Node.entries]
  induction entries with
  | nil => contradiction
  | cons entry rest ih =>
    obtain ⟨other, node⟩ := entry
    obtain ⟨-, -, hfresh, hrest⟩ := wellFormedEntries_cons.1 h
    rw [List.lookup_cons]
    rcases List.mem_cons.1 hmem with heq | hlater
    · cases heq
      simp
    · have hne : name ≠ other := by
        rintro rfl
        exact hfresh (List.mem_map_of_mem hlater)
      rw [beq_false_of_ne hne]
      exact ih hrest hlater

/-- Where something is below a node, the node is a directory. -/
theorem exists_entries_of_at?_cons {node found : Node} {name : Bytes} {location : Location}
    (h : node.at? (name :: location) = some found) : ∃ entries, node = directory entries := by
  cases node with
  | directory entries => exact ⟨entries, rfl⟩
  | file | link => cases h

/-- A node below a well-formed one is well formed. -/
theorem wellFormed_at? {node found : Node} {location : Location} (hnode : node.wellFormed = true)
    (h : node.at? location = some found) : found.wellFormed = true := by
  induction location generalizing node with
  | nil => cases h; exact hnode
  | cons name location ih =>
    obtain ⟨child, hchild, hfound⟩ := Option.bind_eq_some_iff.1 h
    exact ih (wellFormed_of_mem (wellFormedEntries_entries hnode) (mem_entries_of_child? hchild)) hfound

/-- The location of a node below a well-formed one consists of names. -/
theorem isName_of_at? {node found : Node} {location : Location} (hnode : node.wellFormed = true)
    (h : node.at? location = some found) : ∀ name ∈ location, FilePath.isName name = true := by
  induction location generalizing node with
  | nil => simp
  | cons name location ih =>
    obtain ⟨child, hchild, hfound⟩ := Option.bind_eq_some_iff.1 h
    have hmem := mem_entries_of_child? hchild
    have hentries := wellFormedEntries_entries hnode
    exact List.forall_mem_cons.2 ⟨isName_of_mem hentries hmem, ih (wellFormed_of_mem hentries hmem) hfound⟩

/-! ### Ways down to files -/

/-- A way down from a node to a regular file. All nodes above the end are directories, so that it leads over
no link, and none of these directories, the node itself apart, has an excluded name. -/
structure LeadsToFile (excluded : List Bytes) (node : Node) (below : Location) : Prop where
  /-- A regular file is at the end. -/
  isFile : ∃ content, node.at? below = some (.file content)
  /-- Each node above the end is a directory. -/
  directories : ∀ above, above <+: below → above ≠ below →
    ∃ entries, node.at? above = some (.directory entries)
  /-- The names of the directories that are entered. -/
  entered : ∀ name ∈ below.dropLast, name ∉ excluded

/-- All nodes above a node are directories. -/
theorem exists_entries_of_prefix {node found : Node} {above below : Location}
    (h : node.at? below = some found) (habove : above <+: below) (hne : above ≠ below) :
    ∃ entries, node.at? above = some (.directory entries) := by
  obtain ⟨rest, rfl⟩ := habove
  cases rest with
  | nil => exact absurd (List.append_nil above).symm hne
  | cons name rest =>
    rw [at?_append] at h
    obtain ⟨middle, hmiddle, hrest⟩ := Option.bind_eq_some_iff.1 h
    obtain ⟨entries, rfl⟩ := exists_entries_of_at?_cons hrest
    exact ⟨entries, hmiddle⟩

theorem leadsToFile_iff {excluded : List Bytes} {node : Node} {below : Location} :
    LeadsToFile excluded node below ↔
      (∃ content, node.at? below = some (.file content)) ∧ ∀ name ∈ below.dropLast, name ∉ excluded :=
  ⟨fun way => ⟨way.isFile, way.entered⟩, fun ⟨⟨content, hfile⟩, hentered⟩ =>
    ⟨⟨content, hfile⟩, fun _ => exists_entries_of_prefix hfile, hentered⟩⟩

/-- A way into a directory goes on below one of its entries, which is excluded only where it is a file. -/
theorem leadsToFile_cons_iff {excluded : List Bytes} {entries : List (Bytes × Node)} {name : Bytes}
    {rest : Location} (h : wellFormedEntries entries = true) :
    LeadsToFile excluded (directory entries) (name :: rest) ↔
      ∃ child, (name, child) ∈ entries ∧ (child.isDirectory = true → name ∉ excluded) ∧
        LeadsToFile excluded child rest := by
  rw [leadsToFile_iff]
  constructor
  · rintro ⟨⟨content, hfile⟩, hentered⟩
    obtain ⟨child, hchild, hrest⟩ := Option.bind_eq_some_iff.1 hfile
    refine ⟨child, mem_entries_of_child? hchild, fun hdirectory => ?_, leadsToFile_iff.2
      ⟨⟨content, hrest⟩, fun other hother => ?_⟩⟩
    · -- the way goes on below a directory, so that its name is not the last one
      cases rest with
      | nil => cases hrest; cases hdirectory
      | cons next rest => exact hentered name List.mem_cons_self
    · cases rest with
      | nil => cases hother
      | cons next rest => exact hentered other (List.mem_cons_of_mem _ hother)
  · rintro ⟨child, hmem, hname, way⟩
    obtain ⟨content, hrest⟩ := way.isFile
    have hfile : (directory entries).at? (name :: rest) = some (.file content) := by
      rw [at?, child?_of_mem h hmem]
      exact hrest
    refine ⟨⟨content, hfile⟩, ?_⟩
    cases rest with
    | nil => simp
    | cons next rest =>
      obtain ⟨_, rfl⟩ := exists_entries_of_at?_cons hrest
      exact List.forall_mem_cons.2 ⟨hname rfl, way.entered⟩

/-- What is listed below the entries of a directory is listed below one of them. -/
theorem mem_filesOf_iff {excluded : List Bytes} {entries : List (Bytes × Node)} {below : Location} :
    below ∈ filesOf excluded entries ↔ ∃ name child rest, below = name :: rest ∧ (name, child) ∈ entries ∧
      (child.isDirectory = true → name ∉ excluded) ∧ rest ∈ files excluded child := by
  induction entries with
  | nil => simp [filesOf]
  | cons entry others ih =>
    obtain ⟨name, child⟩ := entry
    rw [filesOf, List.mem_append, ih]
    constructor
    · rintro (h | ⟨other, node, rest, rfl, hmem, hnode, hrest⟩)
      · split at h
        next => cases h
        next hentered =>
          obtain ⟨rest, hrest, rfl⟩ := List.mem_map.1 h
          exact ⟨name, child, rest, rfl, List.mem_cons_self, by simpa using hentered, hrest⟩
      · exact ⟨other, node, rest, rfl, List.mem_cons_of_mem _ hmem, hnode, hrest⟩
    · rintro ⟨other, node, rest, rfl, hmem, hnode, hrest⟩
      rcases List.mem_cons.1 hmem with heq | hmem
      · cases heq
        refine .inl ?_
        rw [if_neg (by simpa using hnode)]
        exact List.mem_map_of_mem hrest
      · exact .inr ⟨other, node, rest, rfl, hmem, hnode, hrest⟩

/-- **What is listed below a node are the ways down to its files.** -/
theorem mem_files_iff {excluded : List Bytes} {node : Node} {below : Location}
    (hnode : node.wellFormed = true) :
    below ∈ node.files excluded ↔ LeadsToFile excluded node below := by
  induction below generalizing node with
  | nil =>
    rw [leadsToFile_iff]
    cases node with
    | file content => simp [files, at?]
    | link target => simp [files, at?]
    | directory entries =>
      rw [files, mem_filesOf_iff]
      simp [at?]
  | cons name below ih =>
    cases node with
    | file | link =>
      refine iff_of_false (by simp [files]) fun way => ?_
      obtain ⟨_, hfile⟩ := way.isFile
      cases hfile
    | directory entries =>
      rw [wellFormed] at hnode
      rw [files, mem_filesOf_iff, leadsToFile_cons_iff hnode]
      constructor
      · rintro ⟨_, child, _, heq, hmem, hname, hrest⟩
        cases heq
        exact ⟨child, hmem, hname, (ih (wellFormed_of_mem hnode hmem)).1 hrest⟩
      · rintro ⟨child, hmem, hname, way⟩
        exact ⟨name, child, below, rfl, hmem, hname, (ih (wellFormed_of_mem hnode hmem)).2 way⟩

end UsingAdvisor.FileTree.Node
