import UsingAdvisor.Proofs.Workspace.SourceFiles

/-!
# Which files are the source files

The source files of a workspace are told without a walk: a path is one of them if it is spelled from a root
on, a way leads from the root down to a regular file, and the file has the extension (`IsSource`). Main
statement: `sourceFiles_exact` (every such path is listed in one of its spellings, and nothing else is).
-/

namespace UsingAdvisor.Workspace

open FileTree.Node (LeadsToFile)

/-- The path is spelled from a root on and leads to a source file: from the node that the root stands for a
way leads down to a regular file, directories with excluded names are not entered on it, and the extension of
the path is that of source files, the case of ASCII letters apart. -/
def IsSource (tree : FileTree) (roots : List FilePath) (options : ScanOptions) (path : FilePath) : Prop :=
  ∃ root ∈ roots, ∃ node below, StartsAt tree root node ∧
    LeadsToFile (options.excluded.map Bytes.ofText) node below ∧ path = FilePath.join root below ∧
    ∃ extension, FilePath.extension? path = some extension ∧
      Bytes.equalIgnoringCase extension (Bytes.ofText options.extension) = true

theorem hasExtension_iff {path : FilePath} {extension : Text} :
    FilePath.hasExtension path extension = true ↔ ∃ found, FilePath.extension? path = some found ∧
      Bytes.equalIgnoringCase found (Bytes.ofText extension) = true := by
  rw [FilePath.hasExtension]
  cases FilePath.extension? path <;> simp

/-- What is listed below the roots are the paths to source files. -/
theorem isSource_iff {tree : FileTree} {roots : List FilePath} {options : ScanOptions} {path : FilePath} :
    IsSource tree roots options path ↔ ∃ root ∈ roots, path ∈ filesBelow tree options root := by
  simp only [IsSource, mem_filesBelow_iff, hasExtension_iff]
  refine exists_congr fun root => and_congr_right fun _ => exists_congr fun node =>
    exists_congr fun below => and_congr_right fun hstart => and_congr_left fun _ => ?_
  exact (FileTree.Node.mem_files_iff hstart.wellFormed).symm

/-- **The source files of a workspace.** Each path that is listed is spelled from a root on and leads to a
source file, and each path that does is listed, in this spelling or in another one of the same path. The paths
are listed in strictly ascending order, so that no two of them are the same but for their spelling. -/
theorem sourceFiles_exact (tree : FileTree) (roots : List FilePath) (options : ScanOptions) :
    let files := sourceFiles tree roots options
    (∀ path ∈ files, IsSource tree roots options path) ∧
    (∀ path, IsSource tree roots options path → ∃ file ∈ files, FilePath.same file path = true) ∧
    files.Pairwise (fun first second => FilePath.precedes first second = true) ∧
    files.Pairwise fun first second => FilePath.same first second = false := by
  intro files
  have hascending := sourceFiles_ascending tree roots options
  refine ⟨fun path hpath => isSource_iff.2 (exists_of_mem_sourceFiles hpath), fun path hpath => ?_,
    hascending, hascending.imp fun {first second} hbefore => ?_⟩
  · obtain ⟨root, hroot, hlisted⟩ := isSource_iff.1 hpath
    have hcomponents : path.components ∈ files.map FilePath.components :=
      mem_components_sourceFiles.2 ⟨root, hroot, List.mem_map_of_mem hlisted⟩
    obtain ⟨file, hfile, hsame⟩ := List.mem_map.1 hcomponents
    exact ⟨file, hfile, beq_iff_eq.2 hsame⟩
  · -- no path comes before itself
    refine beq_false_of_ne fun hsame => ?_
    rw [FilePath.precedes, hsame, components_strictOrder.irrefl] at hbefore
    cases hbefore

end UsingAdvisor.Workspace
