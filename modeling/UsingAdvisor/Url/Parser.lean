import UsingAdvisor.Url

/-!
# Reading URLs

A URL is read part by part: the scheme, the fragment and the query from the end, then the authority
and the path between them. Spaces and control characters around the text, and tabs and line breaks in
it, do not count. The special schemes take a backslash for a slash and always have a path that starts
with one; the scheme `file` has no port, and `localhost` is no host there. Dot segments are resolved
while the path is read, and a drive letter is never left by them.
-/

namespace UsingAdvisor.Url

/-- How the rest of a URL is read, which its scheme decides. -/
inductive Kind where
  | file
  /-- A special scheme other than `file`, with its usual port. -/
  | special (usualPort : Nat)
  | ordinary
  deriving DecidableEq, Repr

namespace Kind

/-- The kind of a scheme in small letters. -/
def ofScheme (scheme : Text) : Kind :=
  match String.ofList scheme with
  | "file" => file
  | "http" => special 80
  | "https" => special 443
  | "ws" => special 80
  | "wss" => special 443
  | "ftp" => special 21
  | _ => ordinary

/-- Whether the scheme is special, `file` included. -/
def isSpecial : Kind → Bool
  | ordinary => false
  | _ => true

/-- Whether a character separates segments. -/
def isSlash (kind : Kind) (c : Char) : Bool :=
  c == '/' || (kind.isSpecial && c == '\\')

end Kind

/-- Tabs and line breaks, which do not count in a URL. -/
def isBreak (c : Char) : Bool :=
  c ∈ ['\t', '\n', '\r']

/-- The text without tabs and line breaks. -/
def withoutBreaks (text : Text) : Text :=
  text.filter (!isBreak ·)

/-- The text without the spaces and control characters around it. -/
def trim (text : Text) : Text :=
  let around (c : Char) : Bool := c.toNat ≤ 0x20
  ((text.dropWhile around).reverse.dropWhile around).reverse

/-- The scheme in small letters, which a colon follows. -/
def readScheme? (text : Text) : Option Text :=
  let inScheme (c : Char) : Bool := c.isAlphanum || c ∈ ['+', '-', '.']
  match text with
  | [] => none
  | c :: _ =>
    if c.isAlpha ∧ (text.dropWhile inScheme).head? = some ':' then
      some ((text.takeWhile inScheme).map Char.toLower)
    else none

/-- What is in front of the first occurrence of a character, and what is after it. -/
def cut (separator : Char) (text : Text) : Text × Option Text :=
  match text.dropWhile (· != separator) with
  | [] => (text, none)
  | _ :: rest => (text.takeWhile (· != separator), some rest)

/-! ### Paths -/

/-- Whether a segment is a drive letter: a letter with a colon or a bar. -/
def isDrive : Text → Bool
  | [c, mark] => c.isAlpha && (mark == ':' || mark == '|')
  | _ => false

/-- Whether a segment stands for the segment itself. -/
def isDot (segment : Text) : Bool :=
  segment.map Char.toLower ∈ [['.'], ['%', '2', 'e']]

/-- Whether a segment stands for the one above. -/
def isDoubleDot (segment : Text) : Bool :=
  segment.map Char.toLower ∈
    [['.', '.'], ['.', '%', '2', 'e'], ['%', '2', 'e', '.'], ['%', '2', 'e', '%', '2', 'e']]

/-- Split a text at every slash of a kind. There is always at least one part. -/
def splitSlashes (kind : Kind) : Text → List Text
  | [] => [[]]
  | c :: text =>
    if kind.isSlash c then [] :: splitSlashes kind text
    else match splitSlashes kind text with
      | [] => [[c]]
      | part :: parts => (c :: part) :: parts

/-- Whether a segment is a drive letter, or goes on with a backslash after one. -/
def startsWithDrive : Text → Bool
  | [c, mark] => isDrive [c, mark]
  | c :: mark :: '\\' :: _ => isDrive [c, mark]
  | _ => false

/-- A drive letter with a colon, and what follows it in a segment after a tab or line break. -/
def cutDrive? (segment : Text) : Option (Text × Text) :=
  match segment.dropWhile isBreak with
  | [] => none
  | letter :: rest =>
    match rest.dropWhile isBreak with
    | ':' :: c :: rest =>
      if letter.isAlpha ∧ isBreak c ∧ withoutBreaks rest ≠ [] then
        some ([letter, ':'], withoutBreaks rest)
      else none
    | _ => none

/-- A path as far as it is read. -/
structure Trail where
  /-- The segments read so far, the nearest first. -/
  above : List Text
  /-- Whether the path starts on a drive, which leaves no place for a host. -/
  onDrive : Bool

namespace Trail

/-- The trail before the first segment. -/
def start : Trail :=
  ⟨[], false⟩

/-- The trail one segment further. -/
def push (trail : Trail) (segment : Text) : Trail :=
  { trail with above := segment :: trail.above }

/-- The trail one segment back. A drive letter is not left. -/
def leave (trail : Trail) : Trail :=
  match trail.above with
  | [] => trail
  | segment :: above => if startsWithDrive segment then trail else { trail with above := above }

/-- The trail after a segment that is no dots. A drive letter that comes first in a file path has a
colon. -/
def enter (kind : Kind) (trail : Trail) (written : Text) : Trail :=
  if kind = .file ∧ trail.above = [] ∧ isDrive written then ⟨[[written.headD 'C', ':']], true⟩
  else trail.push written

/-- The trail after a segment. Dots at the end leave an empty segment. Where a tab or a line break
comes between a drive letter that is first in a file path and other text, the text is a segment of its
own. -/
def follow (kind : Kind) (trail : Trail) (segment : Text) (last : Bool) : Trail :=
  let close (trail : Trail) : Trail := if last then trail.push [] else trail
  let step (trail : Trail) (segment : Text) : Trail :=
    let written := encode inPath (withoutBreaks segment)
    if isDoubleDot written then close trail.leave
    else if isDot written then close trail
    else trail.enter kind written
  if kind = .file ∧ trail.above = [] then
    match cutDrive? segment with
    | some (drive, rest) => step (trail.push drive) rest
    | none => step trail segment
  else step trail segment

/-- The trail after segments. -/
def followAll (kind : Kind) (trail : Trail) : List Text → Trail
  | [] => trail
  | segment :: rest => (trail.follow kind segment rest.isEmpty).followAll kind rest

/-- The segments of a trail, the first one first. -/
def segments (trail : Trail) : List Text :=
  trail.above.reverse

end Trail

/-- A file path without the empty segments in front, but for one that stands alone. -/
def dropEmpty : List Text → List Text
  | [] :: next :: rest => dropEmpty (next :: rest)
  | segments => segments

/-- The trail that a text after its first slash writes. -/
def readTrail (kind : Kind) (text : Text) : Trail :=
  Trail.start.followAll kind (splitSlashes kind text)

/-- The text after the slash in front of it, if there is one. -/
def dropSlash (kind : Kind) : Text → Text
  | [] => []
  | c :: text => if kind.isSlash c then text else c :: text

/-- The path after an authority. Only an ordinary scheme may have none. -/
def readPath (kind : Kind) (text : Text) : Path :=
  if text = [] ∧ kind = .ordinary then .segments []
  else .segments (readTrail kind (dropSlash kind text)).segments

/-! ### Authorities -/

/-- The user name and password in front of a host, escaped. An empty password is left out. -/
def readUserInfo (text : Text) : Text :=
  match cut ':' text with
  | (user, none) => encode inUserInfo user
  | (user, some []) => encode inUserInfo user
  | (user, some password) => encode inUserInfo user ++ ':' :: encode inUserInfo password

/-- The text in front of the last at sign, if there is one, and the text after it. -/
def cutUserInfo (text : Text) : Option Text × Text :=
  match text.reverse.dropWhile (· != '@') with
  | [] => (none, text)
  | _ :: user => (some user.reverse, (text.reverse.takeWhile (· != '@')).reverse)

/-- The host in front of a port, brackets kept together, and the rest from the colon on. -/
def cutPort (inBrackets : Bool) : Text → Text × Text
  | [] => ([], [])
  | c :: text =>
    if c = ':' ∧ ¬ inBrackets then ([], c :: text)
    else
      let inBrackets := if c = '[' then true else if c = ']' then false else inBrackets
      (c :: (cutPort inBrackets text).1, (cutPort inBrackets text).2)

/-- The port that digits write. No digits and the usual port of the scheme are left out. -/
def readPort (kind : Kind) (digits : Text) : Except Fault (Option Nat) :=
  match digitsValue? 10 digits with
  | none => .error .badPort
  | some number =>
    if 0xFFFF < number then .error .badPort
    else if digits = [] ∨ kind = .special number then .ok none
    else .ok (some number)

/-- The authority of a scheme other than `file`, and what is left of the text: a backslash ends a
port. -/
def readAuthority (kind : Kind) (text : Text) (closed : Bool) : Except Fault (Authority × Text) := do
  let (user, rest) := cutUserInfo text
  if user = some [] ∧ rest = [] ∧ ¬ closed then throw .emptyHost
  let (hostText, portText) := cutPort false rest
  if hostText = [] ∧ kind.isSpecial then throw .emptyHost
  let host ← if kind.isSpecial then Host.readSpecial hostText else Host.readOrdinary hostText
  if host = .name [] ∧ portText ≠ [] then throw .emptyHost
  let port ← readPort kind ((portText.drop 1).takeWhile (· != '\\'))
  let userInfo := readUserInfo (user.getD [])
  if host = .name [] ∧ userInfo ≠ [] then throw .emptyHost
  return (⟨userInfo, host, port⟩, portText.dropWhile (· != '\\'))

/-! ### Whole URLs -/

/-- The text after a slash in front of it. Tabs and line breaks before the slash do not count. -/
def afterSlash? (text : Text) : Option Text :=
  match text.dropWhile isBreak with
  | [] => none
  | c :: rest => if Kind.file.isSlash c then some rest else none

/-- The authority and the path of a file URL, which always has both, if only empty ones. Where no host
stands between the slashes, the path has an empty segment in front until it is read to its end. -/
def readFile (text : Text) : Except Fault (Authority × Path) :=
  let read (host : Host) (text : Text) : Authority × Path :=
    let trail := readTrail .file text
    (⟨[], if trail.onDrive then .name [] else host, none⟩, .segments (dropEmpty trail.segments))
  match afterSlash? text with
  | none => .ok (read (.name []) text)
  | some rest =>
    match afterSlash? rest with
    | none => .ok (read (.name []) rest)
    | some rest =>
      let hostText := withoutBreaks (rest.takeWhile (!Kind.file.isSlash ·))
      let pathText := rest.dropWhile (!Kind.file.isSlash ·)
      if isDrive hostText then .ok (read (.name []) rest)
      else if hostText = [] then .ok (read (.name []) pathText)
      else do
        let host ← Host.readSpecial hostText
        if host = .name "localhost".toList then return read (.name []) pathText
        else return read host (dropSlash .file pathText)

/-- The authority and the path after a scheme. `closed` tells that no query and no fragment come
after them. -/
def readBody (kind : Kind) (text : Text) (closed : Bool) :
    Except Fault (Option Authority × Path) :=
  let withAuthority (text : Text) : Except Fault (Option Authority × Path) := do
    let authorityText := text.takeWhile (!kind.isSlash ·)
    let pathText := text.dropWhile (!kind.isSlash ·)
    let (authority, left) ← readAuthority kind authorityText (closed && pathText.isEmpty)
    return (some authority, readPath kind (left ++ pathText))
  match kind with
  | .file => do
    let (authority, path) ← readFile text
    return (some authority, path)
  | .special _ => withAuthority ((withoutBreaks text).dropWhile kind.isSlash)
  | .ordinary =>
    match withoutBreaks text with
    | '/' :: '/' :: rest => withAuthority rest
    | '/' :: rest => .ok (none, .segments (readTrail kind rest).segments)
    | rest => .ok (none, .plain (encode isControl rest))

/-- The URL that a text writes. -/
def parse (text : Text) : Except Fault Url :=
  let whole := trim text
  match readScheme? (withoutBreaks whole) with
  | none => .error .relative
  | some scheme => do
    let kind := Kind.ofScheme scheme
    let rest := (whole.dropWhile (· != ':')).drop 1
    let (rest, fragment) := cut '#' rest
    let (rest, query) := cut '?' rest
    let (authority, path) ← readBody kind rest (query.isNone && fragment.isNone)
    let querySet := if kind.isSpecial then inSpecialQuery else inQuery
    return {
      scheme
      authority
      path
      query := query.map fun text => encode querySet (withoutBreaks text)
      fragment := fragment.map fun text => encode inFragment (withoutBreaks text) }

end UsingAdvisor.Url
