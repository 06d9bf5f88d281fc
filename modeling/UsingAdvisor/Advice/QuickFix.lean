import UsingAdvisor.Advice.Insertion
import UsingAdvisor.Diagnostic
import UsingAdvisor.Scope
import UsingAdvisor.SymbolIndex

/-!
# Quick fixes

The fixes for diagnostics about missing names: one for each namespace that has to be imported, in the
order in which the diagnostics first mention them, and one for all of them together where there is
more than one. A fix carries the diagnostics that it settles.
-/

namespace UsingAdvisor.Advice

/-- The missing names that an index provides, in order of first mention. -/
def indexedNames (messages : List Text) (index : SymbolIndex) : List Text :=
  ((messages.filterMap missingName?).filter index.contains).eraseDups

/-- A namespace to import, and the diagnostics that this settles. -/
structure Remedy where
  home : Text
  diagnostics : List Diagnostic
  deriving Repr

/-- The remedies with more diagnostics for a namespace, which goes to the end if it is new. -/
def addRemedy (home : Text) (diagnostics : List Diagnostic) : List Remedy → List Remedy
  | [] => [⟨home, diagnostics⟩]
  | remedy :: rest =>
    if remedy.home = home then ⟨home, remedy.diagnostics ++ diagnostics⟩ :: rest
    else remedy :: addRemedy home diagnostics rest

/-- The remedies with those for one missing name. A name whose namespace is visible needs none. -/
def remedyName (index : SymbolIndex) (scope : Scope) (diagnostics : List Diagnostic)
    (remedies : List Remedy) (name : Text) : List Remedy :=
  match index.lookup? name with
  | none => remedies
  | some symbol =>
    if scope.sees symbol.home then remedies
    else addRemedy symbol.home (diagnostics.filter fun diagnostic =>
      diagnostic.missingName? == some name) remedies

/-- The remedies for the diagnostics of a document. -/
def remedies (index : SymbolIndex) (document : Text) (diagnostics : List Diagnostic) :
    List Remedy :=
  (indexedNames (diagnostics.map Diagnostic.message) index).foldl
    (remedyName index (Scope.ofText document) diagnostics) []

/-- A fix that an editor offers. -/
structure QuickFix where
  title : Text
  /-- The document that the edits change. -/
  url : Url
  edits : List Document.Edit
  diagnostics : List Diagnostic
  /-- Whether the fix is one that an editor may apply on its own. -/
  preferred : Bool
  deriving Repr

/-- The title of the fix that imports every namespace. -/
def addAllTitle : Text :=
  "Add all missing using directives".toList

/-- The fix that imports one namespace. -/
def Remedy.fix (url : Url) (document : Text) (remedy : Remedy) : QuickFix where
  title := "Add 'using ".toList ++ (remedy.home ++ [';', '\''])
  url := url
  edits := [insertion document remedy.home]
  diagnostics := remedy.diagnostics
  preferred := true

/-- The fix that imports every namespace at once. -/
def fixAll (url : Url) (document : Text) (remedies : List Remedy) : QuickFix where
  title := addAllTitle
  url := url
  edits := remedies.map fun remedy => insertion document remedy.home
  diagnostics := remedies.flatMap Remedy.diagnostics
  preferred := false

/-- The fixes for the diagnostics of a document. -/
def quickFixes (index : SymbolIndex) (url : Url) (document : Text)
    (diagnostics : List Diagnostic) : List QuickFix :=
  let remedies := remedies index document diagnostics
  remedies.map (Remedy.fix url document) ++
    if 1 < remedies.length then [fixAll url document remedies] else []

end UsingAdvisor.Advice
