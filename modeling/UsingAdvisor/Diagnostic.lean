import UsingAdvisor.Document.Position
import UsingAdvisor.Json
import UsingAdvisor.MissingName
import UsingAdvisor.Url

/-!
# Diagnostics

What a compiler reports about a document, as an editor passes it on. Of all that a diagnostic carries
only the message is read; the rest is kept so that a fix can hand back the diagnostic it is for.
-/

namespace UsingAdvisor

/-- The code of a diagnostic. -/
inductive DiagnosticCode where
  | number (value : Int)
  | text (value : Text)
  deriving DecidableEq, Repr

/-- Another place that a diagnostic refers to. -/
structure RelatedPlace where
  url : Url
  range : Document.Range
  message : Text
  deriving Repr

/-- A diagnostic of a document. -/
structure Diagnostic where
  range : Document.Range
  severity : Option Int
  code : Option DiagnosticCode
  /-- Where the code is explained. -/
  explanation : Option Url
  source : Option Text
  message : Text
  related : Option (List RelatedPlace)
  tags : Option (List Int)
  /-- What the compiler attached for its own use. -/
  data : Option Json
  deriving Repr

/-- The name that a diagnostic reports as missing. -/
def Diagnostic.missingName? (diagnostic : Diagnostic) : Option Text :=
  UsingAdvisor.missingName? diagnostic.message

end UsingAdvisor
