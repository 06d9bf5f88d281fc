import UsingAdvisor.FileTree
import UsingAdvisor.SymbolIndex

/-!
# Workspaces

The source files below the root directories of a workspace, and the index of their symbols. Files are
scanned in the order of their paths, so a name that is declared twice resolves in the same way
whatever the order of the roots. A file whose bytes are not UTF-8 is passed over and not counted.
-/

namespace UsingAdvisor

/-- What is scanned below the roots. -/
structure ScanOptions where
  /-- The names of directories that are not entered. -/
  excluded : List Text
  /-- How many files may be read at the same time. None counts as one. -/
  concurrentReads : Nat
  /-- The extension of source files. -/
  extension : Text
  deriving DecidableEq, Repr

/-- The options that hold until a client gives others. -/
def ScanOptions.default : ScanOptions where
  excluded := [".git".toList, ".svn".toList, ".hg".toList, "CVS".toList, "node_modules".toList]
  concurrentReads := 16
  extension := "cs".toList

namespace Workspace

/-- The source files below one root, spelled from the root on. A root that is a file is looked at
itself, and a root that is a link is followed only to a directory. The root's own name may be an
excluded one. -/
def filesBelow (tree : FileTree) (options : ScanOptions) (root : FilePath) : List FilePath :=
  let list (node : FileTree.Node) : List FilePath :=
    ((node.files (options.excluded.map Bytes.ofText)).map (FilePath.join root)).filter
      fun path => FilePath.hasExtension path options.extension
  match tree.named? root with
  | none => []
  | some (.link _) =>
    match tree.reached? root with
    | some (.directory entries) => list (.directory entries)
    | _ => []
  | some node => list node

/-- The paths without those that are the same as the one in front of them. -/
def dropRepeats : List FilePath → List FilePath
  | [] => []
  | [path] => [path]
  | path :: next :: rest =>
    if FilePath.same path next then dropRepeats (path :: rest)
    else path :: dropRepeats (next :: rest)
termination_by paths => paths.length

/-- The source files of a workspace, in the order of paths and without repetitions. Of several
spellings of one path the first one found stays. -/
def sourceFiles (tree : FileTree) (roots : List FilePath) (options : ScanOptions) :
    List FilePath :=
  dropRepeats ((roots.flatMap (filesBelow tree options)).mergeSort
    fun first second => !FilePath.precedes second first)

/-- What is read from files of which at most `limit` are being read at the same time, in the order in which
the files wait. While as many are being read as may be, the next file waits until the outcome of the one
that was started first is taken, so it does not matter which read is done first. Where no file may be
read, nothing comes out. -/
def readAll (tree : FileTree) (limit : Nat) : (waiting started : List FilePath) → List (Option Text)
  | [], started => started.map tree.readText?
  | next :: waiting, started =>
    if started.length < limit then readAll tree limit waiting (started ++ [next])
    else match started with
      | [] => []
      | first :: others => tree.readText? first :: readAll tree limit waiting (others ++ [next])

/-- The index of a workspace. At least one file at a time is read, whatever the options say. -/
def buildIndex (tree : FileTree) (roots : List FilePath) (options : ScanOptions) : SymbolIndex :=
  let limit := max options.concurrentReads 1
  let contents := readAll tree limit (sourceFiles tree roots options) []
  SymbolIndex.ofSources (contents.filterMap id)

end Workspace

end UsingAdvisor
