import UsingAdvisor.Url.FilePath

/-!
# Workspace roots

The directories that a client has open, as file paths. Folders whose URL has no file path are passed
over, and paths are told apart by their components and not by their spelling.
-/

namespace UsingAdvisor.Roots

/-- The file paths of folders. -/
def ofUrls (urls : List Url) : List FilePath :=
  urls.filterMap Url.filePath?

/-- The roots that a client starts with: its folders, or, where none of those has a file path, its
single root. -/
def initial (folders : List Url) (single : Option Url) : List FilePath :=
  match ofUrls folders with
  | [] => ofUrls single.toList
  | root :: rest => root :: rest

/-- Whether a path is among the roots. -/
def holds (roots : List FilePath) (path : FilePath) : Bool :=
  roots.any fun root => FilePath.same root path

/-- The roots with one more at the end, unless it is there already. -/
def add (roots : List FilePath) (path : FilePath) : List FilePath :=
  if holds roots path then roots else roots ++ [path]

/-- The roots after a change of folders. What is removed goes first, so that a folder which is both
removed and added stays, as the last one. -/
def merge (roots : List FilePath) (added removed : List Url) : List FilePath :=
  let kept := roots.filter fun root => !holds (ofUrls removed) root
  (ofUrls added).foldl add kept

end UsingAdvisor.Roots
