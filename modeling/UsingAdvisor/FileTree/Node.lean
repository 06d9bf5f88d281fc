import UsingAdvisor.FilePath

/-!
# Files, directories and links

What a file system holds, without a place to start from. A node is well formed if the entries of each
directory have names that can be names, all different. Main statements: `wellFormed_write` and
`wellFormed_erase` (what is written or removed by name leaves a well-formed node well formed).
-/

namespace UsingAdvisor

/-- The names on the way from the root of a file tree to a place in it. -/
abbrev Location := List Bytes

namespace FileTree

/-- A file, a directory or a link. -/
inductive Node where
  | file (content : Bytes)
  | directory (entries : List (Bytes × Node))
  | link (target : FilePath)
  deriving Repr

namespace Node

mutual

/-- Whether the entries of every directory have different names that can be names. -/
def wellFormed : Node → Bool
  | file _ => true
  | link _ => true
  | directory entries => wellFormedEntries entries

/-- Whether entries have different names that can be names, and well-formed nodes. -/
def wellFormedEntries : List (Bytes × Node) → Bool
  | [] => true
  | (name, node) :: rest =>
    FilePath.isName name && node.wellFormed && !(rest.map (·.1)).contains name &&
      wellFormedEntries rest

end

/-- The entries of a directory. Nothing else has any. -/
def entries : Node → List (Bytes × Node)
  | directory entries => entries
  | _ => []

/-- Whether a node is a directory. -/
def isDirectory : Node → Bool
  | directory _ => true
  | _ => false

/-- The entry of a name. -/
def child? (name : Bytes) (node : Node) : Option Node :=
  node.entries.lookup name

/-- The node at a location below this one. Links are not followed. -/
def at? : Location → Node → Option Node
  | [], node => some node
  | name :: location, node => (node.child? name).bind (at? location)

/-- The entries with one of them written. A new name goes to the end. -/
def setEntry (name : Bytes) (child : Node) : List (Bytes × Node) → List (Bytes × Node)
  | [] => [(name, child)]
  | entry :: rest =>
    if entry.1 = name then (name, child) :: rest else entry :: setEntry name child rest

/-- The tree with a node written at a location. Directories on the way are made as needed. -/
def write : Node → Location → (child : Node) → Node
  | _, [], child => child
  | node, name :: location, child =>
    let below := (node.child? name).getD (directory [])
    directory (setEntry name (below.write location child) node.entries)

/-- The tree without the node at a location, and all that is below it. -/
def erase : Node → Location → Node
  | _, [] => directory []
  | node, [name] => directory (node.entries.filter fun entry => entry.1 != name)
  | node, name :: next :: location =>
    match node.child? name with
    | none => node
    | some child => directory (setEntry name (child.erase (next :: location)) node.entries)

mutual

/-- The locations of the regular files below a node, the node itself being one if it is a file. A
directory with an excluded name is not entered, and a link is neither listed nor followed. -/
def files (excluded : List Bytes) : Node → List Location
  | file _ => [[]]
  | link _ => []
  | directory entries => filesOf excluded entries

/-- The locations of the regular files of the entries of a directory. -/
def filesOf (excluded : List Bytes) : List (Bytes × Node) → List Location
  | [] => []
  | (name, node) :: rest =>
    let found :=
      if node.isDirectory && excluded.contains name then []
      else (files excluded node).map (name :: ·)
    found ++ filesOf excluded rest

end

/-! ### Well-formed nodes -/

/-- Well-formed entries, one by one. -/
theorem wellFormedEntries_cons {name : Bytes} {node : Node} {rest : List (Bytes × Node)} :
    wellFormedEntries ((name, node) :: rest) = true ↔
      FilePath.isName name = true ∧ node.wellFormed = true ∧ name ∉ rest.map (·.1) ∧
        wellFormedEntries rest = true := by
  simp [wellFormedEntries, and_assoc]

/-- The names after an entry is written: those before, and the new one. -/
theorem mem_map_setEntry {name other : Bytes} {child : Node} {entries : List (Bytes × Node)} :
    other ∈ (setEntry name child entries).map (·.1) ↔ other = name ∨ other ∈ entries.map (·.1) := by
  induction entries with
  | nil => simp [setEntry]
  | cons entry rest ih =>
    simp only [setEntry]
    split
    next h => simp [h]
    next h => rw [List.map_cons, List.mem_cons, ih, List.map_cons, List.mem_cons, or_left_comm]

/-- Writing an entry leaves entries well formed. -/
theorem wellFormedEntries_setEntry {name : Bytes} {child : Node} {entries : List (Bytes × Node)}
    (hname : FilePath.isName name = true) (hchild : child.wellFormed = true)
    (h : wellFormedEntries entries = true) :
    wellFormedEntries (setEntry name child entries) = true := by
  induction entries with
  | nil => simp [setEntry, wellFormedEntries, hname, hchild]
  | cons entry rest ih =>
    obtain ⟨hentry, hnode, hfresh, hrest⟩ := wellFormedEntries_cons.1 h
    simp only [setEntry]
    split
    next heq => exact wellFormedEntries_cons.2 ⟨hname, hchild, heq ▸ hfresh, hrest⟩
    next hne =>
      refine wellFormedEntries_cons.2 ⟨hentry, hnode, fun hmem => ?_, ih hrest⟩
      rcases mem_map_setEntry.1 hmem with heq | hmem
      · exact hne heq
      · exact hfresh hmem

/-- Leaving out entries leaves entries well formed. -/
theorem wellFormedEntries_filter {keep : Bytes × Node → Bool} {entries : List (Bytes × Node)}
    (h : wellFormedEntries entries = true) : wellFormedEntries (entries.filter keep) = true := by
  induction entries with
  | nil => exact h
  | cons entry rest ih =>
    obtain ⟨hentry, hnode, hfresh, hrest⟩ := wellFormedEntries_cons.1 h
    rw [List.filter_cons]
    split
    · refine wellFormedEntries_cons.2 ⟨hentry, hnode, fun hmem => hfresh ?_, ih hrest⟩
      exact (List.filter_sublist.map _).subset hmem
    · exact ih hrest

/-- The entries of a well-formed node are well formed. -/
theorem wellFormedEntries_entries {node : Node} (h : node.wellFormed = true) :
    wellFormedEntries node.entries = true := by
  cases node with
  | file => rfl
  | link => rfl
  | directory entries => simpa [wellFormed, Node.entries] using h

/-- An entry of well-formed entries is well formed. -/
theorem wellFormed_of_mem {entries : List (Bytes × Node)} {entry : Bytes × Node}
    (h : wellFormedEntries entries = true) (hmem : entry ∈ entries) :
    entry.2.wellFormed = true := by
  induction entries with
  | nil => contradiction
  | cons first rest ih =>
    obtain ⟨-, hnode, -, hrest⟩ := wellFormedEntries_cons.1 h
    rcases List.mem_cons.1 hmem with rfl | hmem
    · exact hnode
    · exact ih hrest hmem

/-- The name of a well-formed entry is a name. -/
theorem isName_of_mem {entries : List (Bytes × Node)} {entry : Bytes × Node}
    (h : wellFormedEntries entries = true) (hmem : entry ∈ entries) :
    FilePath.isName entry.1 = true := by
  induction entries with
  | nil => contradiction
  | cons first rest ih =>
    obtain ⟨hname, -, -, hrest⟩ := wellFormedEntries_cons.1 h
    rcases List.mem_cons.1 hmem with rfl | hmem
    · exact hname
    · exact ih hrest hmem

/-- The entry of a name is one of the entries. -/
theorem mem_entries_of_child? {name : Bytes} {node child : Node}
    (h : node.child? name = some child) : (name, child) ∈ node.entries := by
  obtain ⟨before, after, heq, -⟩ := List.lookup_eq_some_iff.1 h
  simp [heq]

/-- Writing a well-formed node leaves a tree well formed. -/
theorem wellFormed_write {node child : Node} {location : Location}
    (hlocation : ∀ name ∈ location, FilePath.isName name = true)
    (hchild : child.wellFormed = true) (h : node.wellFormed = true) :
    (node.write location child).wellFormed = true := by
  induction location generalizing node with
  | nil => exact hchild
  | cons name location ih =>
    have hbelow : ((node.child? name).getD (directory [])).wellFormed = true := by
      cases hfound : node.child? name with
      | none => rfl
      | some found =>
        exact wellFormed_of_mem (wellFormedEntries_entries h) (mem_entries_of_child? hfound)
    exact wellFormedEntries_setEntry (hlocation name (by simp))
      (ih (fun next hnext => hlocation next (by simp [hnext])) hbelow) (wellFormedEntries_entries h)

/-- Removing a node leaves a tree well formed. -/
theorem wellFormed_erase {node : Node} {location : Location} (h : node.wellFormed = true) :
    (node.erase location).wellFormed = true := by
  fun_induction erase node location with
  | case1 => rfl
  | case2 node name => exact wellFormedEntries_filter (wellFormedEntries_entries h)
  | case3 => exact h
  | case4 node name next location child hfound ih =>
    have hmem := mem_entries_of_child? hfound
    have hentries := wellFormedEntries_entries h
    exact wellFormedEntries_setEntry (isName_of_mem hentries hmem)
      (ih (wellFormed_of_mem hentries hmem)) hentries

end Node

end FileTree

end UsingAdvisor
