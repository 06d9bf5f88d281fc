import UsingAdvisor.CommandLine
import UsingAdvisor.Interaction
import UsingAdvisor.SymbolIndex.Listing

/-!
# The program

What the program does with its arguments: it lists an index, or says what is wrong, or serves a
client. The command for an index fails at the first root that is no directory, before anything is
scanned.
-/

namespace UsingAdvisor

namespace IndexCommand

/-- The options that a command scans with. -/
def options (command : IndexCommand) : ScanOptions :=
  if command.excluded = [] then .default
  else { ScanOptions.default with excluded := command.excluded }

/-- The roots of a command as paths. -/
def paths (command : IndexCommand) : List FilePath :=
  command.roots.map Bytes.ofText

/-- The first root that is no directory. -/
def badRoot? (command : IndexCommand) (tree : FileTree) : Option Text :=
  command.roots.find? fun root => !tree.isDirectory (Bytes.ofText root)

/-- The form of the listing. -/
def form (command : IndexCommand) : ListingForm :=
  if command.json then .json else .table

/-- The index that a command asks for. -/
def index (command : IndexCommand) (tree : FileTree) : SymbolIndex :=
  Workspace.buildIndex tree command.paths command.options

/-- The listing that a command asks for, or the root that is no directory. -/
def run (command : IndexCommand) (tree : FileTree) : Except Text Text :=
  match command.badRoot? tree with
  | some root => .error root
  | none => .ok ((command.index tree).listing command.form)

end IndexCommand

namespace Program

/-- What is said about a root that is no directory. -/
def notDirectory (root : Text) : Text :=
  "Not a directory: ".toList ++ root

/-- How the program starts out. -/
inductive Start where
  /-- It writes to its output, or its error output, and ends with a code. -/
  | finished (output errors : Text) (code : Nat)
  /-- It serves a client. -/
  | serving
  deriving DecidableEq, Repr

/-- The end of the program after a command. -/
def Start.ofResult : Except Text Text → Start
  | .ok listing => finished (listing ++ ['\n']) [] 0
  | .error root =>
    finished [] ("autousing-lsp index error: ".toList ++ (notDirectory root ++ ['\n'])) 2

/-- The end of the program after arguments that start nothing. -/
def Start.ofStop (stop : CommandLine.Stop) : Start :=
  if stop.isDisplay then finished stop.message [] 0
  else finished [] (stop.message ++ ['\n']) 2

/-- What the program does with its arguments. -/
def start (arguments : List Text) : Interaction Start :=
  match CommandLine.parse arguments with
  | .error stop => .done (.ofStop stop)
  | .ok ⟨_, none⟩ => .done .serving
  | .ok ⟨_, some command⟩ =>
    .look command.paths command.options fun tree => .done (.ofResult (command.run tree))

end Program

end UsingAdvisor
