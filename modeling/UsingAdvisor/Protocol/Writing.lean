import UsingAdvisor.Advice.QuickFix
import UsingAdvisor.Session

/-!
# Writing messages

The JSON forms of what the server sends. A value that is not there is left out of its object, and the
fields of an object are in the order of their names.
-/

namespace UsingAdvisor

namespace Document

/-- The JSON form of a position. -/
def Position.toJson (position : Position) : Json :=
  .record [("character", .ofNat position.character), ("line", .ofNat position.line)]

/-- The JSON form of a range. -/
def Range.toJson (range : Range) : Json :=
  .record [("end", range.stop.toJson), ("start", range.start.toJson)]

/-- The JSON form of an edit. -/
def Edit.toJson (edit : Edit) : Json :=
  .record [("newText", .string edit.newText), ("range", edit.range.toJson)]

end Document

/-- The JSON form of a code. -/
def DiagnosticCode.toJson : DiagnosticCode → Json
  | number value => .integer value
  | text value => .string value

/-- The JSON form of a related place. -/
def RelatedPlace.toJson (place : RelatedPlace) : Json :=
  .record [
    ("location", .record [("range", place.range.toJson), ("uri", .string place.url.text)]),
    ("message", .string place.message)]

/-- The JSON form of a diagnostic. -/
def Diagnostic.toJson (diagnostic : Diagnostic) : Json :=
  .record (
    Json.optional "code" (diagnostic.code.map DiagnosticCode.toJson) ++
    Json.optional "codeDescription"
      (diagnostic.explanation.map fun url => .record [("href", .string url.text)]) ++
    Json.optional "data" diagnostic.data ++
    [("message", .string diagnostic.message), ("range", diagnostic.range.toJson)] ++
    Json.optional "relatedInformation"
      (diagnostic.related.map fun places => .array (places.map RelatedPlace.toJson)) ++
    Json.optional "severity" (diagnostic.severity.map .integer) ++
    Json.optional "source" (diagnostic.source.map .string) ++
    Json.optional "tags" (diagnostic.tags.map fun tags => .array (tags.map .integer)))

namespace Advice

/-- The JSON form of a completion. -/
def Completion.toJson (completion : Completion) : Json :=
  .record (
    Json.optional "additionalTextEdits"
      (completion.edits.map fun edits => .array (edits.map Document.Edit.toJson)) ++
    [("detail", .string completion.detail), ("kind", .ofNat completion.kind.completionCode),
      ("label", .string completion.label)])

/-- The JSON form of a fix. -/
def QuickFix.toJson (fix : QuickFix) : Json :=
  .record (
    [("diagnostics", .array (fix.diagnostics.map Diagnostic.toJson)),
      ("edit", .record [("changes",
        .object [(fix.url.text, .array (fix.edits.map Document.Edit.toJson))])])] ++
    Json.optional "isPreferred" (if fix.preferred then some (.bool true) else none) ++
    [("kind", .literal "quickfix"), ("title", .string fix.title)])

end Advice

namespace Event

/-- The method by which an event reaches the client. -/
def method : Event → String
  | log _ => "window/logMessage"
  | display _ => "window/showMessage"
  | askSettings => "workspace/configuration"

/-- The parameters of an event. Messages are of the kind for information. -/
def params : Event → Json
  | log message => .record [("message", .string message), ("type", .ofNat 3)]
  | display message => .record [("message", .string message), ("type", .ofNat 3)]
  | askSettings =>
    .record [("items", .array [.record [("section", .literal Session.sectionName)]])]

end Event

namespace Protocol

/-- What the server tells a client about itself when the client connects. -/
def introduction : Json :=
  .record [
    ("capabilities", .record [
      ("codeActionProvider", .record [
        ("codeActionKinds", .array [.literal "quickfix"]), ("resolveProvider", .bool false)]),
      ("completionProvider", .record [("resolveProvider", .bool false)]),
      ("executeCommandProvider", .record [
        ("commands", .array [.string Session.reindexCommand])]),
      ("textDocumentSync", .record [
        ("change", .ofNat 2), ("openClose", .bool true), ("save", .bool true)]),
      ("workspace", .record [
        ("workspaceFolders", .record [
          ("changeNotifications", .bool true), ("supported", .bool true)])])]),
    ("serverInfo", .record [
      ("name", .literal "C# Auto-Using Language Server"), ("version", .literal "0.1.0")])]

end Protocol

end UsingAdvisor
