import UsingAdvisor.FilePath
import UsingAdvisor.Url

/-!
# File paths of URLs

The path of a URL as the path of a file: its segments with their escapes decoded, byte by byte. The
scheme does not matter, but the host does: a URL that names another machine has no file path here,
and neither has a URL whose path is no sequence of segments. The query and the fragment are no part of
the path.
-/

namespace UsingAdvisor.Url

/-- Whether a path ends in a drive letter, which stands for a directory. -/
def endsInDrive (path : FilePath) : Bool :=
  match path.reverse with
  | mark :: letter :: _ :: _ =>
    (Char.ofNat letter.toNat).isAlpha && (mark == 0x3A || mark == 0x7C)
  | _ => false

/-- The file path of segments. -/
def segmentsPath (segments : List Text) : FilePath :=
  let path := segments.flatMap fun segment => FilePath.slash :: decode segment
  if endsInDrive path then path ++ [FilePath.slash] else path

/-- Whether the host of a URL is this machine. -/
def isLocal (url : Url) : Bool :=
  match url.authority with
  | none => true
  | some authority => authority.host == .name [] || authority.host == .name "localhost".toList

/-- The file path of a URL. -/
def filePath? (url : Url) : Option FilePath :=
  match url.path with
  | .plain _ => none
  | .segments [] => none
  | .segments (segment :: rest) =>
    if url.isLocal then some (segmentsPath (segment :: rest)) else none

/-- Whether a URL names a file with an extension. -/
def hasExtension (url : Url) (extension : Text) : Bool :=
  match url.filePath? with
  | none => false
  | some path => FilePath.hasExtension path extension

end UsingAdvisor.Url
