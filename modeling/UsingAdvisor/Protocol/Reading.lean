import UsingAdvisor.Json.Record
import UsingAdvisor.Session
import UsingAdvisor.Url.Parser

/-!
# Reading messages

The values that a client's messages carry, read from JSON. Every structure is a record: an object, or
an array of all its values in the order of the protocol. The parameters of a query are objects only.
A reader gives nothing where the JSON is not of the agreed form, be it in a value that nothing depends
on, such as the language of a document or the length of a replaced range.
-/

namespace UsingAdvisor

/-- The URL that a string writes. -/
def Url.ofJson? (value : Json) : Option Url :=
  value.toText?.bind fun text => (Url.parse text).toOption

namespace Json

/-- A number of 32 bits. -/
def toWord? (value : Json) : Option Nat :=
  value.toNat?.bind fun n => if n < 0x100000000 then some n else none

/-- An integer of 32 bits, signed. -/
def toSmall? (value : Json) : Option Int :=
  value.toInt?.bind fun n => if -0x80000000 ≤ n ∧ n < 0x80000000 then some n else none

end Json

namespace Document

/-- The position that a value gives. -/
def Position.ofJson? (value : Json) : Option Position := do
  let value ← value.named? ["line", "character"] 2
  return ⟨← value.fieldAs? Json.toWord? "line", ← value.fieldAs? Json.toWord? "character"⟩

/-- The range that a value gives. -/
def Range.ofJson? (value : Json) : Option Range := do
  let value ← value.named? ["start", "end"] 2
  return ⟨← value.fieldAs? Position.ofJson? "start", ← value.fieldAs? Position.ofJson? "end"⟩

/-- The change that a value gives. -/
def Change.ofJson? (value : Json) : Option Change := do
  let value ← value.named? ["range", "rangeLength", "text"] 3
  let _ ← value.givenAs? Json.toWord? "rangeLength"
  return ⟨← value.givenAs? Range.ofJson? "range", ← value.fieldAs? Json.toText? "text"⟩

end Document

/-- The code that a value gives. -/
def DiagnosticCode.ofJson? (value : Json) : Option DiagnosticCode :=
  match value with
  | .string chars => some (.text chars)
  | value => value.toSmall?.map .number

/-- The place where a code is explained. -/
def Diagnostic.explanation? (value : Json) : Option Url := do
  (← value.named? ["href"] 1).fieldAs? Url.ofJson? "href"

/-- The related place that a value gives. -/
def RelatedPlace.ofJson? (value : Json) : Option RelatedPlace := do
  let value ← value.named? ["location", "message"] 2
  let location ← (← value.field? "location").named? ["uri", "range"] 2
  return {
    url := ← location.fieldAs? Url.ofJson? "uri"
    range := ← location.fieldAs? Document.Range.ofJson? "range"
    message := ← value.fieldAs? Json.toText? "message" }

/-- The diagnostic that a value gives. -/
def Diagnostic.ofJson? (value : Json) : Option Diagnostic := do
  let value ← value.named? ["range", "severity", "code", "codeDescription", "source", "message",
    "relatedInformation", "tags", "data"] 9
  return {
    range := ← value.fieldAs? Document.Range.ofJson? "range"
    severity := ← value.givenAs? Json.toSmall? "severity"
    code := ← value.givenAs? DiagnosticCode.ofJson? "code"
    explanation := ← value.givenAs? Diagnostic.explanation? "codeDescription"
    source := ← value.givenAs? Json.toText? "source"
    message := ← value.fieldAs? Json.toText? "message"
    related := ← value.givenAs? (Json.toListOf? RelatedPlace.ofJson?) "relatedInformation"
    tags := ← value.givenAs? (Json.toListOf? Json.toSmall?) "tags"
    data := value.given? "data" }

namespace Protocol

/-! ### Documents and folders -/

/-- The URL of a document. -/
def documentUrl? (document : Json) : Option Url := do
  (← document.named? ["uri"] 1).fieldAs? Url.ofJson? "uri"

/-- The URL of a document whose version is told. -/
def versionedUrl? (document : Json) : Option Url := do
  let document ← document.named? ["uri", "version"] 2
  let _ ← document.fieldAs? Json.toSmall? "version"
  document.fieldAs? Url.ofJson? "uri"

/-- The URL of a folder. -/
def folderUrl? (folder : Json) : Option Url := do
  let folder ← folder.named? ["uri", "name"] 2
  let _ ← folder.fieldAs? Json.toText? "name"
  folder.fieldAs? Url.ofJson? "uri"

/-- The URLs of folders. -/
def folderUrls? : Json → Option (List Url) :=
  Json.toListOf? folderUrl?

/-- The roots that a client asks for when it connects. It has to tell what it is capable of. -/
def readRoots? (params : Json) : Option (List FilePath) := do
  let params ← params.named? ["processId", "rootPath", "rootUri", "initializationOptions",
    "capabilities", "trace", "workspaceFolders", "clientInfo", "locale"] 9
  let _ ← params.field? "capabilities"
  let folders ← params.givenAs? folderUrls? "workspaceFolders"
  let single ← params.givenAs? Url.ofJson? "rootUri"
  return Roots.initial (folders.getD []) single

/-! ### Notices -/

/-- The notice of a client that is ready. It carries nothing. -/
def readReady? (params : Json) : Option Notice :=
  (params.named? [] 0).map fun _ => .ready

/-- The document that is opened. -/
def readOpened? (params : Json) : Option Notice := do
  let params ← params.named? ["textDocument"] 1
  let document ← (← params.field? "textDocument").named? ["uri", "languageId", "version", "text"] 4
  let _ ← document.fieldAs? Json.toText? "languageId"
  return .opened (← versionedUrl? document) (← document.fieldAs? Json.toText? "text")

/-- The changes to a document. -/
def readChanged? (params : Json) : Option Notice := do
  let params ← params.named? ["textDocument", "contentChanges"] 2
  return .changed (← params.fieldAs? versionedUrl? "textDocument")
    (← params.fieldAs? (Json.toListOf? Document.Change.ofJson?) "contentChanges")

/-- The document that is saved. Its text may be told along with it. -/
def readSaved? (params : Json) : Option Notice := do
  let params ← params.named? ["textDocument", "text"] 2
  let _ ← params.givenAs? Json.toText? "text"
  return .saved (← params.fieldAs? documentUrl? "textDocument")

/-- The document that is closed. -/
def readClosed? (params : Json) : Option Notice := do
  let params ← params.named? ["textDocument"] 1
  return .closed (← params.fieldAs? documentUrl? "textDocument")

/-- The settings that changed. -/
def readSettingsChanged? (params : Json) : Option Notice := do
  return .settingsChanged (← (← params.named? ["settings"] 1).field? "settings")

/-- The folders that are added and removed. -/
def readFolders? (params : Json) : Option Notice := do
  let params ← params.named? ["event"] 1
  let event ← (← params.field? "event").named? ["added", "removed"] 2
  return .foldersChanged (← event.fieldAs? folderUrls? "added")
    (← event.fieldAs? folderUrls? "removed")

/-! ### Queries -/

/-- The place that completions are asked for. -/
def readCompletion? (params : Json) : Option Query := do
  return .completion (← params.fieldAs? documentUrl? "textDocument")
    (← params.fieldAs? Document.Position.ofJson? "position")

/-- The diagnostics that fixes are asked for. The range that is asked about does not matter. -/
def readQuickFix? (params : Json) : Option Query := do
  let _ ← params.fieldAs? Document.Range.ofJson? "range"
  let context ← (← params.field? "context").named? ["diagnostics", "only", "triggerKind"] 3
  return .quickFix (← params.fieldAs? documentUrl? "textDocument")
    (← context.fieldAs? (Json.toListOf? Diagnostic.ofJson?) "diagnostics")

/-- The command that is to be run, and its arguments, which may be left out. -/
def readExecute? (params : Json) : Option Query := do
  let arguments ← match params.field? "arguments" with
    | none => some []
    | some arguments => arguments.toList?
  return .execute (← params.fieldAs? Json.toText? "command") arguments

end Protocol

end UsingAdvisor
