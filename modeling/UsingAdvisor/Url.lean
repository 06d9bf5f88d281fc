import UsingAdvisor.Url.Host

/-!
# URLs

A URL in its parts, and its written form. Documents are known by the written form of their URL, so
two spellings of one URL name the same document.
-/

namespace UsingAdvisor

namespace Url

/-- Who serves the resource: a user name and password as written, a host, and a port that is not the
usual one of the scheme. -/
structure Authority where
  userInfo : Text
  host : Host
  port : Option Nat
  deriving DecidableEq, Repr

/-- The path of a URL. -/
inductive Path where
  /-- A path that is no sequence of segments, because no slash starts it. -/
  | plain (text : Text)
  /-- Segments, each with a slash in front. -/
  | segments (items : List Text)
  deriving DecidableEq, Repr

end Url

/-- A URL in its parts, escapes left standing. -/
structure Url where
  scheme : Text
  authority : Option Url.Authority
  path : Url.Path
  query : Option Text
  fragment : Option Text
  deriving DecidableEq, Repr

namespace Url

/-- The written form of an authority, with the slashes in front. -/
def Authority.text (authority : Authority) : Text :=
  let user := if authority.userInfo = [] then [] else authority.userInfo ++ ['@']
  let port := match authority.port with
    | none => []
    | some number => ':' :: Text.ofNat number
  ['/', '/'] ++ user ++ authority.host.text ++ port

/-- The written form of a path. -/
def Path.text : Path → Text
  | plain text => text
  | segments items => items.flatMap ('/' :: ·)

/-- The written form of a URL. Without an authority a path that starts with two slashes has a dot in
front, so that it is not read as one. -/
def text (url : Url) : Text :=
  let front := match url.authority, url.path with
    | some authority, _ => authority.text
    | none, .segments ([] :: _ :: _) => ['/', '.']
    | none, _ => []
  let query := match url.query with
    | none => []
    | some query => '?' :: query
  let fragment := match url.fragment with
    | none => []
    | some fragment => '#' :: fragment
  url.scheme ++ ':' :: (front ++ url.path.text ++ query ++ fragment)

end Url

end UsingAdvisor
