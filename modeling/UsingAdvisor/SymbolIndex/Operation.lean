import UsingAdvisor.SymbolIndex

/-!
# Operations on an index

An index is changed in three ways: a symbol is written into it, several are, or a source text is scanned
into it. Writing a symbol gives back the one that it replaces, and scanning a text tells how many
declarations were found, repetitions included.
-/

namespace UsingAdvisor.SymbolIndex

/-- The symbol in whose place `place` writes. The search is over at the first name that comes later. -/
def replaced? (symbol : Symbol) : List Symbol → Option Symbol
  | [] => none
  | other :: rest =>
    if symbol.name = other.name then some other
    else if Text.precedes symbol.name other.name then none
    else replaced? symbol rest

/-- What changes an index. -/
inductive Operation where
  | insert (symbol : Symbol)
  | extend (symbols : List Symbol)
  | scan (text : Text)
  deriving DecidableEq, Repr

/-- What an operation gives back. -/
inductive Outcome where
  /-- The symbol that was held under the name before. -/
  | replaced (previous : Option Symbol)
  | nothing
  /-- How many declarations the text has. -/
  | found (declarations : Nat)
  deriving DecidableEq, Repr

/-- The index after an operation, and what the operation gives back. -/
def perform (index : SymbolIndex) : Operation → SymbolIndex × Outcome
  | .insert symbol => (index.insert symbol, .replaced (replaced? symbol index.symbols))
  | .extend symbols => (index.insertAll symbols, .nothing)
  | .scan text => (index.scan text, .found (Source.symbols text).length)

/-- The index after several operations on one that is empty at first. -/
def ofOperations (operations : List Operation) : SymbolIndex :=
  operations.foldl (fun index operation => (index.perform operation).1) empty

end UsingAdvisor.SymbolIndex
