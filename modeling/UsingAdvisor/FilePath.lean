import UsingAdvisor.Bytes
import UsingAdvisor.Order

/-!
# File paths

A path is a sequence of bytes, in which slashes separate components. Paths are compared by their
components and not by their bytes: repeated slashes, slashes at the end and dots after the first
component count for nothing. Main statement: `componentBefore_strictOrder`, so that comparing paths
orders them totally up to spelling.
-/

namespace UsingAdvisor

/-- The path of a file or a directory, as it is spelled. -/
abbrev FilePath := Bytes

namespace FilePath

/-- The byte that separates components. -/
def slash : UInt8 := 0x2F

/-- The byte of a dot. -/
def dot : UInt8 := 0x2E

/-- The parts between the slashes, empty ones included. There is always at least one. -/
def parts : FilePath → List Bytes
  | [] => [[]]
  | byte :: path =>
    if byte = slash then [] :: parts path
    else match parts path with
      | [] => [[byte]]
      | part :: rest => (byte :: part) :: rest

/-- A component of a path. -/
inductive Component where
  /-- The slash at the front of an absolute path. -/
  | root
  /-- A dot at the front of a relative path. -/
  | current
  /-- Two dots: one directory up. -/
  | parent
  /-- The name of a file or directory. -/
  | name (bytes : Bytes)
  deriving DecidableEq, Repr

/-- The component that a part stands for, if it stands for one. -/
def component? (part : Bytes) : Option Component :=
  if part = [] ∨ part = [dot] then none
  else if part = [dot, dot] then some .parent
  else some (.name part)

/-- Whether bytes can be the name of a file or directory: without a slash in them, and a component of
their own. -/
def isName (name : Bytes) : Bool :=
  !name.contains slash && component? name == some (.name name)

/-- The components of a path. -/
def components (path : FilePath) : List Component :=
  match path, parts path with
  | byte :: _, all =>
    if byte = slash then .root :: all.filterMap component?
    else if all.head? = some [dot] then .current :: all.filterMap component?
    else all.filterMap component?
  | [], _ => []

/-- Whether two paths are the same but for their spelling. -/
def same (first second : FilePath) : Bool :=
  components first == components second

/-- The order of bytes in names. -/
def bytesBefore : Bytes → Bytes → Bool :=
  dictionary fun a b => decide (a.toNat < b.toNat)

/-- The order of components: the front ones first, and names byte by byte. -/
def componentBefore : Component → Component → Bool
  | .name first, .name second => bytesBefore first second
  | first, second => decide (rank first < rank second)
where
  /-- The place of each kind of component in the order. -/
  rank : Component → Nat
    | .root => 0
    | .current => 1
    | .parent => 2
    | .name _ => 3

/-- The order of components is strict and total. -/
theorem componentBefore_strictOrder : StrictOrder componentBefore :=
  have names : StrictOrder bytesBefore :=
    (StrictOrder.ofKey UInt8.toNat fun _ _ => UInt8.toNat_inj.1).dictionary
  { irrefl := fun a => by cases a <;> simp [componentBefore, componentBefore.rank, names.irrefl]
    trans := fun {a b c} hab hbc => by
      cases a <;> cases b <;> cases c <;>
        simp_all [componentBefore, componentBefore.rank]
      exact names.trans hab hbc
    total := fun {a b} hne => by
      cases a <;> cases b <;> simp_all [componentBefore, componentBefore.rank]
      exact names.total hne }

/-- Whether one path comes before another: by the first component in which they differ. -/
def precedes (first second : FilePath) : Bool :=
  dictionary componentBefore (components first) (components second)

/-- The name of the file that a path leads to: its last component, if that is a name. -/
def fileName? (path : FilePath) : Option Bytes :=
  match (components path).getLast? with
  | some (.name bytes) => some bytes
  | _ => none

/-- What follows the last dot of a name. A dot at the front of the name does not count. -/
def nameExtension? (name : Bytes) : Option Bytes :=
  match name.reverse.dropWhile (· != dot) with
  | [] => none
  | [_] => none
  | _ :: _ :: _ => some (name.reverse.takeWhile (· != dot)).reverse

/-- The extension of the file that a path leads to. -/
def extension? (path : FilePath) : Option Bytes :=
  (fileName? path).bind nameExtension?

/-- Whether the path leads to a file with an extension. The case of ASCII letters does not matter. -/
def hasExtension (path : FilePath) (extension : Text) : Bool :=
  match extension? path with
  | none => false
  | some found => Bytes.equalIgnoringCase found (Bytes.ofText extension)

/-- The names to step through on the way to a path, dots included. A slash at the end asks for a
directory, as a dot there does. -/
def steps (path : FilePath) : List Bytes :=
  let names := (parts path).filter (· != [])
  if path.getLast? = some slash then names ++ [[dot]] else names

/-- Whether a path starts from the root of the file system. -/
def isAbsolute (path : FilePath) : Bool :=
  path.head? == some slash

/-- The path of something below a directory, the directory spelled as it is. -/
def join (directory : FilePath) (below : List Bytes) : FilePath :=
  match below with
  | [] => directory
  | name :: names =>
    let separator := if directory.getLast? = some slash then [] else [slash]
    directory ++ separator ++ name ++ names.flatMap (slash :: ·)

end FilePath

end UsingAdvisor
