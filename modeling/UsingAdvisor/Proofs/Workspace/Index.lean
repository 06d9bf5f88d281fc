import UsingAdvisor.Proofs.SymbolIndex.Lookup
import UsingAdvisor.Proofs.Workspace.SourceFiles

/-!
# The index of a workspace

However many files are read at the same time, all source files are read and come in their order
(`readAll_eq`). So what is found under a name is declared in the last of the files that declare it
(`lookup?_buildIndex`). Main statement: `buildIndex_resolution` (what the index of a workspace holds, and
what it depends on).
-/

namespace UsingAdvisor.Workspace

/-- What a file declares. A file without a text declares nothing. -/
def declarations (tree : FileTree) (file : FilePath) : List Symbol :=
  (tree.readText? file).elim [] Source.symbols

/-- What a file declares under a name. -/
def declarationsOf (tree : FileTree) (name : Text) (file : FilePath) : List Symbol :=
  (declarations tree file).filter fun symbol => symbol.name == name

/-! ### Reading -/

/-- **All files are read, in their order, if any may be read at all.** -/
theorem readAll_eq (tree : FileTree) {limit : Nat} (hlimit : 0 < limit)
    (waiting started : List FilePath) :
    readAll tree limit waiting started = (started ++ waiting).map tree.readText? := by
  induction waiting generalizing started with
  | nil => rw [readAll, List.append_nil]
  | cons next waiting ih =>
    cases started with
    | nil =>
      rw [readAll, List.length_nil, if_pos hlimit, ih]
      rfl
    | cons first others =>
      rw [readAll]
      split
      · rw [ih, List.append_assoc, List.singleton_append]
      · rw [ih, List.append_assoc, List.singleton_append, List.cons_append, List.map_cons]

/-- The index of a workspace is that of the texts of its files. -/
theorem buildIndex_eq (tree : FileTree) (roots : List FilePath) (options : ScanOptions) :
    buildIndex tree roots options =
      .ofSources (((sourceFiles tree roots options).map tree.readText?).filterMap id) := by
  have hlimit : 0 < max options.concurrentReads 1 := by omega
  rw [buildIndex, readAll_eq tree hlimit, List.nil_append]

theorem flatMap_symbols (tree : FileTree) (files : List FilePath) :
    ((files.map tree.readText?).filterMap id).flatMap Source.symbols =
      files.flatMap (declarations tree) := by
  induction files with
  | nil => rfl
  | cons file files ih =>
    rw [List.map_cons, List.filterMap_cons, List.flatMap_cons, declarations]
    cases tree.readText? file with
    | none => exact ih
    | some text => rw [← ih]; rfl

/-! ### Resolving -/

/-- **A name is resolved by the last file that declares it**, and there by the last declaration. -/
theorem lookup?_buildIndex (tree : FileTree) (roots : List FilePath) (options : ScanOptions) (name : Text)
    (symbol : Symbol) :
    let files := sourceFiles tree roots options
    (buildIndex tree roots options).lookup? name = some symbol ↔
      ∃ file ∈ files, (declarationsOf tree name file).getLast? = some symbol ∧
        ∀ later ∈ files, FilePath.precedes file later = true → declarationsOf tree name later = [] := by
  intro files
  rw [buildIndex_eq, SymbolIndex.lookup?_ofSources, flatMap_symbols, List.filter_flatMap]
  exact components_strictOrder.getLast?_flatMap_eq_some_iff FilePath.components
    (sourceFiles_ascending tree roots options)

/-- **The index of a workspace.** Its files are listed in ascending order, and each of them is a file; under a
name there is the last declaration of the last file that declares it; the index has one symbol for each name
that is declared, and counts the files whose bytes are text, whether they declare anything or not. It does not
depend on how many files may be read at the same time, nor on the order in which the roots are given or on how
often. -/
theorem buildIndex_resolution (tree : FileTree) (roots : List FilePath) (options : ScanOptions) :
    let files := sourceFiles tree roots options
    let index := buildIndex tree roots options
    (files.Pairwise (fun first second => FilePath.precedes first second = true) ∧
      ∀ file ∈ files, ∃ content, tree.reached? file = some (.file content) ∧
        tree.readText? file = Bytes.toText? content) ∧
    (∀ name symbol, index.lookup? name = some symbol ↔
      ∃ file ∈ files, (declarationsOf tree name file).getLast? = some symbol ∧
        ∀ later ∈ files, FilePath.precedes file later = true → declarationsOf tree name later = []) ∧
    index.size = ((files.flatMap (declarations tree)).map Symbol.name).eraseDups.length ∧
    index.filesScanned = (files.filter fun file => (tree.readText? file).isSome).length ∧
    ∀ others reads, (∀ root, root ∈ others ↔ root ∈ roots) →
      buildIndex tree others { options with concurrentReads := reads } = index := by
  intro files index
  have hindex : index = .ofSources ((files.map tree.readText?).filterMap id) :=
    buildIndex_eq tree roots options
  refine ⟨⟨sourceFiles_ascending tree roots options, fun file => reached?_of_mem_sourceFiles⟩,
    lookup?_buildIndex tree roots options, ?_, ?_, fun others reads hroots => ?_⟩
  · rw [hindex, SymbolIndex.size_ofSources, flatMap_symbols]
  · rw [hindex, SymbolIndex.filesScanned_ofSources, List.length_filterMap_eq_countP, List.countP_map,
      List.countP_eq_length_filter]
    rfl
  · rw [hindex, buildIndex_eq]
    exact congrArg _ (congrArg _ (readText?_sourceFiles_congr hroots))

end UsingAdvisor.Workspace
