import UsingAdvisor.Text

/-!
# Symbols

A symbol is a declared type: its name, the namespace that declares it, and which of the four kinds
of type it is. Kinds are written with the keyword that declares them.
-/

namespace UsingAdvisor

/-- The kinds of type declaration that are indexed. -/
inductive SymbolKind where
  | classType
  | interfaceType
  | structType
  | enumType
  deriving DecidableEq, Repr

namespace SymbolKind

/-- Every kind, in the order in which the keywords are tried. -/
def all : List SymbolKind :=
  [.classType, .interfaceType, .structType, .enumType]

/-- The keyword that declares a type of this kind. -/
def keyword : SymbolKind → Text
  | .classType => ['c', 'l', 'a', 's', 's']
  | .interfaceType => ['i', 'n', 't', 'e', 'r', 'f', 'a', 'c', 'e']
  | .structType => ['s', 't', 'r', 'u', 'c', 't']
  | .enumType => ['e', 'n', 'u', 'm']

/-- The kind that a keyword declares. Keywords are compared exactly. -/
def ofKeyword? (keyword : Text) : Option SymbolKind :=
  all.find? fun kind => kind.keyword == keyword

/-- The number by which an editor knows the kind of a completion. -/
def completionCode : SymbolKind → Nat
  | .classType => 7
  | .interfaceType => 8
  | .structType => 22
  | .enumType => 13

/-- Reading a kind's own keyword gives the kind. -/
@[simp]
theorem ofKeyword?_keyword (kind : SymbolKind) : ofKeyword? kind.keyword = some kind := by
  cases kind <;> rfl

/-- No keyword is empty. -/
theorem keyword_length_pos (kind : SymbolKind) : 0 < kind.keyword.length := by
  cases kind <;> decide

end SymbolKind

/-- A declared type and the namespace that declares it. -/
structure Symbol where
  /-- The type's own name. -/
  name : Text
  /-- The dotted name of the declaring namespace. -/
  home : Text
  /-- Which kind of type is declared. -/
  kind : SymbolKind
  deriving DecidableEq, Repr

/-- The text beside a symbol in a list of completions. -/
def Symbol.detail (symbol : Symbol) : Text :=
  "from ".toList ++ symbol.home

end UsingAdvisor
