import UsingAdvisor.Advice.Insertion
import UsingAdvisor.Scope
import UsingAdvisor.SymbolIndex

/-!
# Completions

The indexed types that a document cannot refer to yet, each with the edit that imports its namespace.
A line with a dot in it gets none: after a dot a member or a qualified name is meant, and neither
needs a directive.
-/

namespace UsingAdvisor.Advice

/-- A type that is offered. -/
structure Completion where
  /-- The name of the type. -/
  label : Text
  kind : SymbolKind
  /-- Where the type comes from, for display. -/
  detail : Text
  /-- The edits that make the name visible, if they are asked for. -/
  edits : Option (List Document.Edit)
  deriving DecidableEq, Repr

/-- The completion that offers a symbol. -/
def Completion.ofSymbol (document : Text) (addUsing : Bool) (symbol : Symbol) : Completion where
  label := symbol.name
  kind := symbol.kind
  detail := symbol.detail
  edits := if addUsing then some [insertion document symbol.home] else none

/-- The completions for a document, with the cursor on `line`: the symbols of the index that the
document does not see, in the order of their names. -/
def completions (index : SymbolIndex) (document line : Text) (addUsing : Bool) :
    List Completion :=
  if line.contains '.' then []
  else
    let scope := Scope.ofText document
    (index.symbols.filter fun symbol => !scope.sees symbol.home).map
      (Completion.ofSymbol document addUsing)

end UsingAdvisor.Advice
