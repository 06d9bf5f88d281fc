import UsingAdvisor.FileTree.Node

/-!
# File trees

A file system, and a place in it where relative paths start. A path is resolved name by name: a link on
the way is followed, and `..` leads to the directory above the one that was reached, not above the link.
At most forty links are followed on one way, so that a ring of links leads nowhere.
-/

namespace UsingAdvisor

/-- A file system, and the location where relative paths start. -/
structure FileTree where
  root : FileTree.Node
  here : Location
  /-- The entries of every directory have different names that can be names. -/
  wellFormed : root.wellFormed = true
  deriving Repr

namespace FileTree

/-- The location that is reached by steps from a location, following at most `links` links. A link
at the very end is followed only if `follow` says so. -/
def walk (root : Node) (follow : Bool) (links : Nat) (here : Location) :
    (steps : List Bytes) → Option Location
  | [] => some here
  | step :: steps =>
    match root.at? here with
    | some (.directory _) =>
      if step = [FilePath.dot] then walk root follow links here steps
      else if step = [FilePath.dot, FilePath.dot] then walk root follow links here.dropLast steps
      else match root.at? (here ++ [step]) with
        | none => none
        | some (.link target) =>
          if steps = [] ∧ ¬ follow then some (here ++ [step])
          else match links with
            | 0 => none
            | links + 1 =>
              let start := if FilePath.isAbsolute target then [] else here
              walk root follow links start (FilePath.steps target ++ steps)
        | some _ => walk root follow links (here ++ [step]) steps
    | _ => none
termination_by steps => (links, steps.length)

/-- The location that a path leads to. The empty path leads nowhere. -/
def locate? (tree : FileTree) (follow : Bool) (path : FilePath) : Option Location :=
  if path = [] then none
  else
    let start := if FilePath.isAbsolute path then [] else tree.here
    walk tree.root follow 40 start (FilePath.steps path)

/-- What a path names: the link itself where a link is at the end. -/
def named? (tree : FileTree) (path : FilePath) : Option Node :=
  (tree.locate? false path).bind (Node.at? · tree.root)

/-- What a path leads to, a link at the end followed. -/
def reached? (tree : FileTree) (path : FilePath) : Option Node :=
  (tree.locate? true path).bind (Node.at? · tree.root)

/-- Whether a path leads to a directory. -/
def isDirectory (tree : FileTree) (path : FilePath) : Bool :=
  match tree.reached? path with
  | some node => node.isDirectory
  | none => false

/-- The text of the file that a path leads to, if it is a file and its bytes are UTF-8. -/
def readText? (tree : FileTree) (path : FilePath) : Option Text :=
  match tree.reached? path with
  | some (.file content) => Bytes.toText? content
  | _ => none

/-- The location where a path would be made: below the directory that the path up to its last name
leads to, or, where that does not exist yet, where its names lead without links. -/
def destination (tree : FileTree) (path : FilePath) : Location :=
  let start := if FilePath.isAbsolute path then [] else tree.here
  let names := (FilePath.steps path).filter (· != [FilePath.dot])
  let above := (walk tree.root true 40 start names.dropLast).getD (start ++ names.dropLast)
  above ++ names.getLast?.toList

/-- The tree with a node written at a path. Nothing is written under what can be no name. -/
def write (tree : FileTree) (path : FilePath) (node : Node) : FileTree :=
  let location := tree.destination path
  if h : (∀ name ∈ location, FilePath.isName name = true) ∧ node.wellFormed = true then
    ⟨tree.root.write location node, tree.here, Node.wellFormed_write h.1 h.2 tree.wellFormed⟩
  else tree

/-- The tree with a directory at a path. One that is there already stays as it is. -/
def makeDirectory (tree : FileTree) (path : FilePath) : FileTree :=
  if tree.isDirectory path then tree else tree.write path (.directory [])

/-- The tree without what is at a path. -/
def remove (tree : FileTree) (path : FilePath) : FileTree :=
  ⟨tree.root.erase (tree.destination path), tree.here, Node.wellFormed_erase tree.wellFormed⟩

/-- The tree that holds nothing but its starting place. -/
def bare (here : Location) : FileTree :=
  let empty : FileTree := ⟨.directory [], here, rfl⟩
  empty.makeDirectory (here.flatMap (FilePath.slash :: ·))

end FileTree

end UsingAdvisor
