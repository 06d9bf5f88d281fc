import UsingAdvisor.Directive
import UsingAdvisor.Source.Header

/-!
# Scopes

What a document can refer to without a new directive: the symbols of the namespaces that it imports,
and those of the namespaces that enclose its own declarations. A namespace `A.B.C` is enclosed by
`A.B` and by `A`.
-/

namespace UsingAdvisor

/-- The proper ancestors of a dotted name, the outermost first: its parts before each dot. -/
def ancestors : Text → List Text
  | [] => []
  | c :: name =>
    let longer := (ancestors name).map (c :: ·)
    if c = '.' then [] :: longer else longer

/-- A dotted name and its proper ancestors, the innermost first. -/
def lineage (name : Text) : List Text :=
  name :: (ancestors name).reverse

/-- The namespaces that a text declares, each with its ancestors, in order of first mention. -/
def enclosing (text : Text) : List Text :=
  ((Source.headers (Text.stripMark text)).flatMap fun header => lineage header.name).eraseDups

/-- The namespaces whose symbols a document sees. -/
structure Scope where
  /-- The namespaces that its directives import. -/
  imported : List Text
  /-- The namespaces that enclose its declarations. -/
  enclosing : List Text
  deriving Repr

namespace Scope

/-- The scope of a document. -/
def ofText (text : Text) : Scope :=
  ⟨Directive.imports text, UsingAdvisor.enclosing text⟩

/-- Whether the symbols of a namespace are visible. Names are compared exactly: importing `A.B`
shows neither `A` nor `A.B.C`. -/
def sees (scope : Scope) (home : Text) : Bool :=
  scope.imported.contains home || scope.enclosing.contains home

end Scope

end UsingAdvisor
