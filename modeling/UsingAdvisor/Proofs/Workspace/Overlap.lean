import Mathlib.Data.List.Nodup
import Mathlib.Data.List.Perm.Subperm
import UsingAdvisor.Proofs.FileTree.Ends
import UsingAdvisor.Proofs.Workspace.Index

/-!
# Roots that overlap

One of the roots of a workspace may lie below another one, and both then list the files below it. Such a file is
listed once if both roots are spelled alike, the lower one with the names between them behind the upper one
(`SpelledAlike`), and twice otherwise, since it is by their components that paths are compared
(`nodup_locations_iff`). No more files are scanned than there are in the tree as long as none is listed twice
(`filesScanned_le`). Roots without two dots that start alike are spelled alike in a tree without links
(`spelledAlike_of_front`). Main statement: `overlap_iff`.
-/

namespace UsingAdvisor.Workspace

open FilePath (components)

/-! ### Common files -/

/-- The file at `below` is listed below a root. -/
structure Lists (tree : FileTree) (options : ScanOptions) (root : FilePath) (below : Location) : Prop where
  isFile : ∃ node, StartsAt tree root node ∧ below ∈ node.files (options.excluded.map Bytes.ofText)
  hasExtension : FilePath.hasExtension (FilePath.join root below) options.extension = true

/-- Two roots have a file in common: the second one lies at `between` below the first, and the file at `below`
is listed below both. -/
structure Share (tree : FileTree) (options : ScanOptions) (first second : FilePath) (between below : Location) :
    Prop where
  places : ∃ upper, tree.locate? true first = some upper ∧ tree.locate? true second = some (upper ++ between)
  upper : Lists tree options first (between ++ below)
  lower : Lists tree options second below

/-- Roots that have a file in common are spelled alike: the names between them are what the lower one has more
than the upper one. -/
def SpelledAlike (tree : FileTree) (options : ScanOptions) (roots : List FilePath) : Prop :=
  ∀ first ∈ roots, ∀ second ∈ roots, ∀ between below, Share tree options first second between below →
    components second = components first ++ between.map .name

variable {tree : FileTree} {options : ScanOptions} {roots : List FilePath}

theorem mem_filesBelow_iff_lists {root path : FilePath} :
    path ∈ filesBelow tree options root ↔
      ∃ below, Lists tree options root below ∧ path = FilePath.join root below := by
  rw [mem_filesBelow_iff]
  constructor
  · rintro ⟨node, below, hstart, hbelow, rfl, hextension⟩
    exact ⟨below, ⟨⟨node, hstart, hbelow⟩, hextension⟩, rfl⟩
  · rintro ⟨below, ⟨⟨node, hstart, hbelow⟩, hextension⟩, rfl⟩
    exact ⟨node, below, hstart, hbelow, rfl, hextension⟩

/-- A listed file has its root's place and components, and the names below the root behind them. -/
theorem Lists.exists_place {root : FilePath} {below : Location} (h : Lists tree options root below) :
    ∃ place, tree.locate? true root = some place ∧
      tree.locate? true (FilePath.join root below) = some (place ++ below) ∧
      components (FilePath.join root below) = components root ++ below.map .name := by
  obtain ⟨node, hstart, hbelow⟩ := h.isFile
  obtain ⟨place, hplace, hnode⟩ := hstart.exists_location
  obtain ⟨content, hfile⟩ := ((FileTree.Node.mem_files_iff hstart.wellFormed).1 hbelow).isFile
  have hnames := FileTree.Node.isName_of_at? hstart.wellFormed hfile
  have hne := (FileTree.locate?_eq_some_iff.1 hplace).1
  exact ⟨place, hplace, FileTree.locate?_join hplace hnode hfile hnames, FilePath.components_join hne hnames⟩

/-- Such a file is a source file in one of its spellings. -/
theorem Lists.exists_mem_sourceFiles {root : FilePath} {below : Location} (h : Lists tree options root below)
    (hroot : root ∈ roots) :
    ∃ file ∈ sourceFiles tree roots options, components file = components (FilePath.join root below) ∧
      tree.locate? true file = tree.locate? true (FilePath.join root below) := by
  have hpath : FilePath.join root below ∈ filesBelow tree options root :=
    mem_filesBelow_iff_lists.2 ⟨below, h, rfl⟩
  have hcomponents : components (FilePath.join root below) ∈ (sourceFiles tree roots options).map components :=
    mem_components_sourceFiles.2 ⟨root, hroot, List.mem_map_of_mem hpath⟩
  obtain ⟨file, hfile, hsame⟩ := List.mem_map.1 hcomponents
  obtain ⟨other, -, hother⟩ := exists_of_mem_sourceFiles hfile
  obtain ⟨location, -, hlocation, -⟩ := locate?_of_mem_filesBelow hother
  obtain ⟨place, -, hplace, -⟩ := h.exists_place
  refine ⟨file, hfile, hsame, ?_⟩
  rw [hlocation, hplace, FileTree.locate?_eq_of_components_eq hsame hlocation hplace]

/-- A file that is listed below two roots is listed in one spelling, if the roots are spelled alike. -/
theorem components_eq_of_spelledAlike (alike : SpelledAlike tree options roots) {first second : FilePath}
    (hfirst : first ∈ roots) (hsecond : second ∈ roots) {upper lower between below : Location}
    (hupper : tree.locate? true first = some upper) (hlower : tree.locate? true second = some lower)
    (hplace : lower = upper ++ between) (hlists : Lists tree options first (between ++ below))
    (hlists' : Lists tree options second below) :
    components (FilePath.join first (between ++ below)) = components (FilePath.join second below) := by
  have share : Share tree options first second between below :=
    ⟨⟨upper, hupper, hplace ▸ hlower⟩, hlists, hlists'⟩
  obtain ⟨-, -, -, hcomponents⟩ := hlists.exists_place
  obtain ⟨-, -, -, hcomponents'⟩ := hlists'.exists_place
  rw [hcomponents, hcomponents', alike first hfirst second hsecond between below share, List.map_append,
    List.append_assoc]

/-- **No file of the tree is listed twice if and only if roots with a file in common are spelled alike.** -/
theorem nodup_locations_iff (tree : FileTree) (options : ScanOptions) (roots : List FilePath) :
    ((sourceFiles tree roots options).map (tree.locate? true)).Nodup ↔ SpelledAlike tree options roots := by
  constructor
  · intro hnodup first hfirst second hsecond between below share
    obtain ⟨upper, hupper, hlower⟩ := share.places
    obtain ⟨place, hplace, hlocation, hcomponents⟩ := share.upper.exists_place
    obtain ⟨place', hplace', hlocation', hcomponents'⟩ := share.lower.exists_place
    obtain ⟨file, hfile, hsame, hwhere⟩ := share.upper.exists_mem_sourceFiles hfirst
    obtain ⟨file', hfile', hsame', hwhere'⟩ := share.lower.exists_mem_sourceFiles hsecond
    -- both paths lead to the file, so that they are one and the same in the list
    have hone : tree.locate? true file = tree.locate? true file' := by
      obtain rfl : place = upper := Option.some.inj (hplace.symm.trans hupper)
      obtain rfl : place' = place ++ between := Option.some.inj (hplace'.symm.trans hlower)
      rw [hwhere, hwhere', hlocation, hlocation', List.append_assoc]
    have heq : file = file' := List.inj_on_of_nodup_map hnodup hfile hfile' hone
    rw [← heq, hsame, hcomponents, hcomponents', List.map_append, ← List.append_assoc] at hsame'
    exact (List.append_cancel_right hsame').symm
  · intro alike
    refine List.pairwise_map.2 ((sourceFiles_ascending tree roots options).imp_of_mem ?_)
    intro path other hpath hother hbefore hwhere
    obtain ⟨first, hfirst, hpath⟩ := exists_of_mem_sourceFiles hpath
    obtain ⟨second, hsecond, hother⟩ := exists_of_mem_sourceFiles hother
    obtain ⟨below, hlists, rfl⟩ := mem_filesBelow_iff_lists.1 hpath
    obtain ⟨below', hlists', rfl⟩ := mem_filesBelow_iff_lists.1 hother
    obtain ⟨place, hplace, hlocation, -⟩ := hlists.exists_place
    obtain ⟨place', hplace', hlocation', -⟩ := hlists'.exists_place
    rw [hlocation, hlocation', Option.some.injEq] at hwhere
    -- one of the roots lies below the other one
    have hsame : components (FilePath.join first below) = components (FilePath.join second below') := by
      rcases List.append_eq_append_iff.1 hwhere with ⟨between, hbetween, rfl⟩ | ⟨between, hbetween, rfl⟩
      · exact components_eq_of_spelledAlike alike hfirst hsecond hplace hplace' hbetween hlists hlists'
      · exact (components_eq_of_spelledAlike alike hsecond hfirst hplace' hplace hbetween hlists' hlists).symm
    rw [FilePath.precedes, hsame, components_strictOrder.irrefl] at hbefore
    exact Bool.noConfusion hbefore

/-! ### Files of the tree -/

/-- The places of the source files of a tree, whatever directories they are in. -/
def sourcePlaces (tree : FileTree) (options : ScanOptions) : List Location :=
  (tree.root.files []).filter fun place =>
    FilePath.hasExtension (FilePath.join [FilePath.slash] place) options.extension

/-- A listed file has the name in its path for its name in the tree. -/
theorem Lists.getLast?_place {root : FilePath} {below place : Location} {name : Bytes}
    (h : Lists tree options root below) (hplace : tree.locate? true (FilePath.join root below) = some place)
    (hname : FilePath.fileName? (FilePath.join root below) = some name) : place.getLast? = some name := by
  obtain ⟨upper, -, hlocation, hcomponents⟩ := h.exists_place
  obtain rfl : upper ++ below = place := Option.some.inj (hlocation.symm.trans hplace)
  obtain ⟨node, hstart, hbelow⟩ := h.isFile
  rcases below.eq_nil_or_concat with rfl | ⟨above, last, rfl⟩
  · -- the root is the file itself
    obtain ⟨content, hfile⟩ := ((FileTree.Node.mem_files_iff hstart.wellFormed).1 hbelow).isFile
    cases hstart with
    | followed => cases hfile
    | named hnode hlink =>
      obtain ⟨location, hlocated, hnode⟩ := Option.bind_eq_some_iff.1 hnode
      have hsame := FileTree.locate?_true_of_false hlocated hnode hlink
      obtain rfl : location = upper ++ [] := Option.some.inj (hsame.symm.trans hlocation)
      cases hfile
      exact FileTree.getLast?_of_fileName? hlocated hnode hname
  · rw [FilePath.fileName?_eq_some_iff, hcomponents, List.concat_eq_append, List.map_append,
      ← List.append_assoc, List.map_singleton, List.getLast?_concat, Option.some.injEq,
      FilePath.Component.name.injEq] at hname
    rw [List.concat_eq_append, ← List.append_assoc, List.getLast?_concat, hname]

/-- A listed file is at the place of a source file of the tree. -/
theorem exists_mem_sourcePlaces {path : FilePath} (h : path ∈ sourceFiles tree roots options) :
    ∃ place ∈ sourcePlaces tree options, tree.locate? true path = some place := by
  obtain ⟨root, -, hlisted⟩ := exists_of_mem_sourceFiles h
  obtain ⟨place, content, hplace, hfile⟩ := locate?_of_mem_filesBelow hlisted
  obtain ⟨below, hlists, rfl⟩ := mem_filesBelow_iff_lists.1 hlisted
  refine ⟨place, List.mem_filter.2 ⟨?_, ?_⟩, hplace⟩
  · rw [FileTree.Node.mem_files_iff tree.wellFormed, FileTree.Node.leadsToFile_iff]
    exact ⟨⟨content, hfile⟩, fun _ _ => List.not_mem_nil⟩
  · have hextension := hlists.hasExtension
    obtain ⟨name, hname⟩ : ∃ name, FilePath.fileName? (FilePath.join root below) = some name := by
      rw [FilePath.hasExtension, FilePath.extension?] at hextension
      cases hname : FilePath.fileName? (FilePath.join root below) with
      | some name => exact ⟨name, rfl⟩
      | none => rw [hname] at hextension; cases hextension
    have hsame : FilePath.fileName? (FilePath.join [FilePath.slash] place) = some name :=
      FilePath.fileName?_join (by simp) (FileTree.Node.isName_of_at? tree.wellFormed hfile)
        (hlists.getLast?_place hplace hname)
    rw [FilePath.hasExtension, FilePath.extension?, hname] at hextension
    rw [FilePath.hasExtension, FilePath.extension?, hsame]
    exact hextension

/-- **As long as no file is listed twice, no more files are scanned than there are in the tree.** -/
theorem filesScanned_le (hnodup : ((sourceFiles tree roots options).map (tree.locate? true)).Nodup) :
    (buildIndex tree roots options).filesScanned ≤ (sourcePlaces tree options).length := by
  have hscanned : (buildIndex tree roots options).filesScanned ≤ (sourceFiles tree roots options).length := by
    rw [buildIndex_eq, SymbolIndex.filesScanned_ofSources]
    exact Nat.le_trans (List.length_filterMap_le _ _) (Nat.le_of_eq (List.length_map _))
  have hsubset : (sourceFiles tree roots options).map (tree.locate? true) ⊆
      (sourcePlaces tree options).map some := by
    refine List.forall_mem_map.2 fun path hpath => ?_
    obtain ⟨place, hplace, hlocation⟩ := exists_mem_sourcePlaces hpath
    rw [hlocation]
    exact List.mem_map_of_mem hplace
  have hplaces := (List.subperm_of_subset hnodup hsubset).length_le
  rw [List.length_map, List.length_map] at hplaces
  exact Nat.le_trans hscanned hplaces

/-- If a tree has one source file, all listed paths lead to it. -/
theorem locate?_of_mem_sourceFiles {place : Location} (hplace : sourcePlaces tree options = [place])
    {path : FilePath} (h : path ∈ sourceFiles tree roots options) : tree.locate? true path = some place := by
  obtain ⟨other, hother, hlocation⟩ := exists_mem_sourcePlaces h
  rw [hplace] at hother
  rw [hlocation, List.mem_singleton.1 hother]

/-- In a tree without links the files below a root are those of the node that it leads to. -/
theorem filesBelow_of_linkFree (free : tree.root.linkFree = true) {root : FilePath} {place : Location}
    {node : FileTree.Node} (hplace : tree.locate? true root = some place)
    (hnode : tree.root.at? place = some node) :
    filesBelow tree options root = ((node.files (options.excluded.map Bytes.ofText)).map
      (FilePath.join root)).filter fun path => FilePath.hasExtension path options.extension := by
  have hnamed : tree.named? root = some node := (FileTree.named?_of_linkFree free hplace).trans hnode
  cases node with
  | link target => exact absurd hnode (FileTree.Node.at?_ne_link free place target)
  | file content => simp only [filesBelow, hnamed]
  | directory entries => simp only [filesBelow, hnamed]

/-! ### Roots that start alike -/

/-- Roots without two dots that start alike are spelled alike, in a tree without links. -/
theorem spelledAlike_of_front (free : tree.root.linkFree = true)
    (hparent : ∀ root ∈ roots, .parent ∉ components root)
    (hfront : ∀ first ∈ roots, ∀ second ∈ roots, FilePath.front first = FilePath.front second) :
    SpelledAlike tree options roots := by
  intro first hfirst second hsecond between below share
  obtain ⟨upper, hupper, hlower⟩ := share.places
  have hsame : FilePath.front first = FilePath.front second := hfront first hfirst second hsecond
  have habsolute : FilePath.isAbsolute first = FilePath.isAbsolute second := by
    rw [Bool.eq_iff_iff, FilePath.isAbsolute_iff_front, FilePath.isAbsolute_iff_front, hsame]
  -- both places are names behind the same start
  have hupper := FileTree.eq_append_of_linkFree free (hparent first hfirst) hupper
  have hlower := FileTree.eq_append_of_linkFree free (hparent second hsecond) hlower
  rw [hupper, habsolute, List.append_assoc] at hlower
  have hnames := List.append_cancel_left hlower
  rw [FilePath.components_of_not_mem_parent (hparent second hsecond), ← hnames, List.map_append,
    ← List.append_assoc, ← hsame, ← FilePath.components_of_not_mem_parent (hparent first hfirst)]

/-- **What overlapping roots do.** No two listed paths lead to the same file of the tree if and only if roots with
a file in common are spelled alike, and then no more files are scanned than there are source files in the tree. In
a tree without links all roots are spelled alike that have no two dots in them and start alike: all at the root of
the file system, all at a dot, or all at a name. -/
theorem overlap_iff (tree : FileTree) (roots : List FilePath) (options : ScanOptions) :
    (((sourceFiles tree roots options).map (tree.locate? true)).Nodup ↔ SpelledAlike tree options roots) ∧
    (SpelledAlike tree options roots →
      (buildIndex tree roots options).filesScanned ≤ (sourcePlaces tree options).length) ∧
    (tree.root.linkFree = true → (∀ root ∈ roots, .parent ∉ components root) →
      (∀ first ∈ roots, ∀ second ∈ roots, FilePath.front first = FilePath.front second) →
      SpelledAlike tree options roots) := by
  have hnodup := nodup_locations_iff tree options roots
  exact ⟨hnodup, fun alike => filesScanned_le (hnodup.2 alike), spelledAlike_of_front⟩

/-- Two roots, one below the other, whose common file is listed once. -/
theorem overlap_nested :
    let tree : FileTree := ⟨.directory [(Bytes.ofText ['s', 'r', 'c'], .directory
      [(Bytes.ofText ['l', 'i', 'b'], .directory [(Bytes.ofText ['A', '.', 'c', 's'], .file [])])])],
      [], by decide +kernel⟩
    let roots := [Bytes.ofText ['s', 'r', 'c'], Bytes.ofText ['s', 'r', 'c', '/', '/', 'l', 'i', 'b', '/']]
    (tree.root.linkFree = true ∧ (∀ root ∈ roots, .parent ∉ components root) ∧
      ∀ first ∈ roots, ∀ second ∈ roots, FilePath.front first = FilePath.front second) ∧
    (roots.map fun root => (filesBelow tree ScanOptions.default root).length) = [1, 1] ∧
    ((sourceFiles tree roots ScanOptions.default).map (tree.locate? true)).Nodup ∧
    (buildIndex tree roots ScanOptions.default).filesScanned ≤ (sourcePlaces tree ScanOptions.default).length := by
  intro tree roots
  have free : tree.root.linkFree = true := by decide +kernel
  have parent : ∀ root ∈ roots, .parent ∉ components root := by decide +kernel
  have front : ∀ first ∈ roots, ∀ second ∈ roots, FilePath.front first = FilePath.front second := by
    decide +kernel
  have upper : tree.locate? true (Bytes.ofText ['s', 'r', 'c']) = some [Bytes.ofText ['s', 'r', 'c']] :=
    FileTree.locate?_eq_some_iff.2 ⟨by decide, .enter rfl (by decide) (by decide) rfl nofun (.stop _ _)⟩
  have lower : tree.locate? true (Bytes.ofText ['s', 'r', 'c', '/', '/', 'l', 'i', 'b', '/']) =
      some [Bytes.ofText ['s', 'r', 'c'], Bytes.ofText ['l', 'i', 'b']] :=
    FileTree.locate?_eq_some_iff.2 ⟨by decide, .enter rfl (by decide) (by decide) rfl nofun
      (.enter rfl (by decide) (by decide) rfl nofun (.stay rfl (.stop _ _)))⟩
  have lengths : (roots.map fun root => (filesBelow tree ScanOptions.default root).length) = [1, 1] := by
    simp only [roots, List.map_cons, List.map_nil, filesBelow_of_linkFree free upper rfl,
      filesBelow_of_linkFree free lower rfl]
    decide +kernel
  obtain ⟨hnodup, hscanned, halike⟩ := overlap_iff tree roots ScanOptions.default
  have alike : SpelledAlike tree ScanOptions.default roots := halike free parent front
  exact ⟨⟨free, parent, front⟩, lengths, hnodup.2 alike, hscanned alike⟩

/-- **A file that is scanned twice**: one root is spelled with a dot in front and the other one without. -/
theorem not_nodup_dot :
    let tree : FileTree := ⟨.directory [(Bytes.ofText ['a'],
      .directory [(Bytes.ofText ['X', '.', 'c', 's'], .file [])])], [], by decide +kernel⟩
    let roots := [Bytes.ofText ['a'], Bytes.ofText ['.', '/', 'a']]
    let place := [Bytes.ofText ['a'], Bytes.ofText ['X', '.', 'c', 's']]
    tree.root.linkFree = true ∧ (∀ root ∈ roots, tree.isDirectory root = true) ∧
    sourcePlaces tree ScanOptions.default = [place] ∧
    (sourceFiles tree roots ScanOptions.default).map (tree.locate? true) = [some place, some place] ∧
    (buildIndex tree roots ScanOptions.default).filesScanned = 2 := by
  intro tree roots place
  have free : tree.root.linkFree = true := by decide +kernel
  have plain : tree.locate? true (Bytes.ofText ['a']) = some [Bytes.ofText ['a']] :=
    FileTree.locate?_eq_some_iff.2 ⟨by decide, .enter rfl (by decide) (by decide) rfl nofun (.stop _ _)⟩
  have dotted : tree.locate? true (Bytes.ofText ['.', '/', 'a']) = some [Bytes.ofText ['a']] :=
    FileTree.locate?_eq_some_iff.2
      ⟨by decide, .stay rfl (.enter rfl (by decide) (by decide) rfl nofun (.stop _ _))⟩
  have directories : ∀ root ∈ roots, tree.isDirectory root = true := by
    refine List.forall_mem_cons.2 ⟨?_, List.forall_mem_singleton.2 ?_⟩
    · rw [FileTree.isDirectory, FileTree.reached?, plain]
      rfl
    · rw [FileTree.isDirectory, FileTree.reached?, dotted]
      rfl
  have places : sourcePlaces tree ScanOptions.default = [place] := by decide +kernel
  have listed : (sourceFiles tree roots ScanOptions.default).length = 2 := by
    rw [length_sourceFiles]
    simp only [roots, List.flatMap_cons, List.flatMap_nil, filesBelow_of_linkFree free plain rfl,
      filesBelow_of_linkFree free dotted rfl]
    decide +kernel
  have located : (sourceFiles tree roots ScanOptions.default).map (tree.locate? true) =
      [some place, some place] :=
    List.eq_replicate_iff.2 ⟨(List.length_map _).trans listed, List.forall_mem_map.2 fun path hpath =>
      locate?_of_mem_sourceFiles places hpath⟩
  have texts : (sourceFiles tree roots ScanOptions.default).map tree.readText? = [some [], some []] := by
    refine List.eq_replicate_iff.2
      ⟨(List.length_map _).trans listed, List.forall_mem_map.2 fun path hpath => ?_⟩
    rw [FileTree.readText?, FileTree.reached?, locate?_of_mem_sourceFiles places hpath]
    rfl
  have scanned : (buildIndex tree roots ScanOptions.default).filesScanned = 2 := by
    rw [buildIndex_eq, SymbolIndex.filesScanned_ofSources, texts]
    rfl
  exact ⟨free, directories, places, located, scanned⟩

end UsingAdvisor.Workspace
