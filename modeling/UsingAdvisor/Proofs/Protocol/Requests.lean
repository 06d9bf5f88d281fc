import UsingAdvisor.Proofs.Protocol.Forms
import UsingAdvisor.Proofs.Session.Connection

/-!
# What a client tells and asks

Each kind of notice and of query has a method and a form of parameters (`Notice.Form`, `Query.Form`), and
parameters of its form are read as it, whatever else they carry (`Notice.reader_of_form`,
`Query.reader_of_form`). So a message that tells a request is taken for that request
(`Message.request?_of_tells`), and a server that serves has its session handle it (`Server.deliver_of_brings`).
Main statement: `Server.after_of_brings` (a connection goes through all that its client tells and asks, in order,
and through nothing else).
-/

namespace UsingAdvisor

open Json (Knows knows_toText?)
open Protocol (DocumentForm VersionedForm FolderForm knows_documentUrl? knows_versionedUrl? knows_folderUrl?)

/-! ### Messages -/

/-- The form of a message, which is no answer. -/
structure Message.Form (value : Json) (message : Message) : Prop where
  version : value.Has Json.TextForm "jsonrpc" Protocol.version
  method : value.Has Json.TextForm "method" message.method
  id : value.field? "id" = message.id.map Identifier.toJson
  params : value.field? "params" = message.params
  no_result : value.field? "result" = none
  no_error : value.field? "error" = none

/-- **A message is taken for what it is.** -/
theorem Protocol.readIncoming?_of_form {value : Json} {message : Message} (h : Message.Form value message) :
    readIncoming? value = some (.message message) := by
  obtain ⟨id, method, params⟩ := message
  have hmarked : isMarked value = true := by
    rw [isMarked, knows_toText?.fieldAs? h.version, beq_self_eq_true]
  have hanswer : readAnswer? value = none := by
    simp [readAnswer?, hmarked, h.no_result, h.no_error]
  have hmessage : readMessage? value = some ⟨id, method, params⟩ := by
    obtain ⟨_, hmethod, rfl⟩ := h.method
    cases id <;> simp [readMessage?, h.version.named?, hmarked, h.id, hmethod, Json.toText?, h.params,
      Identifier.ofJson?_toJson]
  rw [readIncoming?, hanswer, hmessage]
  rfl

/-! ### Introductions -/

/-- The form in which a client introduces itself: its folders, and its single root. -/
structure Roots.Form (params : Json) (folders : Option (List Url)) (single : Option Url) : Prop where
  capabilities : ∃ capabilities, params.field? "capabilities" = some capabilities
  folders : params.MayHave (Json.Lists FolderForm) "workspaceFolders" folders
  single : params.MayHave Url.Form "rootUri" single

theorem Protocol.readRoots?_of_form {params : Json} {folders : Option (List Url)} {single : Option Url}
    (h : Roots.Form params folders single) :
    readRoots? params = some (Roots.initial (folders.getD []) single) := by
  obtain ⟨capabilities, hcapabilities⟩ := h.capabilities
  have hfolders : params.givenAs? folderUrls? "workspaceFolders" = some folders :=
    knows_folderUrl?.toListOf?.givenAs? h.folders
  simp [readRoots?, Json.named?_of_field? hcapabilities, hcapabilities, hfolders,
    Url.knows_ofJson?.givenAs? h.single]

/-! ### Notices -/

namespace Notice

/-- The method of a notice. -/
def method : Notice → String
  | ready => "initialized"
  | opened _ _ => "textDocument/didOpen"
  | changed _ _ => "textDocument/didChange"
  | saved _ => "textDocument/didSave"
  | closed _ => "textDocument/didClose"
  | settingsChanged _ => "workspace/didChangeConfiguration"
  | foldersChanged _ _ => "workspace/didChangeWorkspaceFolders"

/-- The form of the parameters of a notice. -/
def Form (params : Json) : Notice → Prop
  | ready => ∃ fields, params = .object fields
  | opened url text =>
    params.Has VersionedForm "textDocument" url ∧
    (∃ language, params.Has (Json.Has Json.TextForm "languageId") "textDocument" language) ∧
    params.Has (Json.Has Json.TextForm "text") "textDocument" text
  | changed url changes =>
    params.Has VersionedForm "textDocument" url ∧
    params.Has (Json.Lists Document.Change.Form) "contentChanges" changes
  | saved url =>
    params.Has DocumentForm "textDocument" url ∧ ∃ text, params.MayHave Json.TextForm "text" text
  | closed url => params.Has DocumentForm "textDocument" url
  | settingsChanged settings => params.field? "settings" = some settings
  | foldersChanged added removed =>
    params.Has (Json.Has (Json.Lists FolderForm) "added") "event" added ∧
    params.Has (Json.Has (Json.Lists FolderForm) "removed") "event" removed

end Notice

namespace Protocol

variable {params : Json}

theorem readReady?_of_form (h : Notice.Form params .ready) : readReady? params = some .ready := by
  obtain ⟨fields, rfl⟩ := h
  rfl

theorem readOpened?_of_form {url : Url} {text : Text} (h : Notice.Form params (.opened url text)) :
    readOpened? params = some (.opened url text) := by
  obtain ⟨hurl, ⟨language, hlanguage⟩, htext⟩ := h
  have hrecord := hurl.named? ["textDocument"] 1
  -- the three look-ups find the same document
  obtain ⟨document, hdocument, hurl⟩ := hurl
  obtain ⟨_, hsame, hlanguage⟩ := hlanguage
  cases hdocument.symm.trans hsame
  obtain ⟨_, hsame, htext⟩ := htext
  cases hdocument.symm.trans hsame
  simp [readOpened?, hrecord, hdocument, htext.named?, knows_toText?.fieldAs? hlanguage,
    knows_versionedUrl? _ _ hurl, knows_toText?.fieldAs? htext]

theorem readChanged?_of_form {url : Url} {changes : List Document.Change}
    (h : Notice.Form params (.changed url changes)) :
    readChanged? params = some (.changed url changes) := by
  obtain ⟨hurl, hchanges⟩ := h
  simp [readChanged?, hurl.named?, knows_versionedUrl?.fieldAs? hurl,
    Document.Change.knows_ofJson?.toListOf?.fieldAs? hchanges]

theorem readSaved?_of_form {url : Url} (h : Notice.Form params (.saved url)) :
    readSaved? params = some (.saved url) := by
  obtain ⟨hurl, text, htext⟩ := h
  simp [readSaved?, hurl.named?, knows_toText?.givenAs? htext, knows_documentUrl?.fieldAs? hurl]

theorem readClosed?_of_form {url : Url} (h : Notice.Form params (.closed url)) :
    readClosed? params = some (.closed url) := by
  have hurl : params.Has DocumentForm "textDocument" url := h
  simp [readClosed?, hurl.named?, knows_documentUrl?.fieldAs? hurl]

theorem readSettingsChanged?_of_form {settings : Json} (h : Notice.Form params (.settingsChanged settings)) :
    readSettingsChanged? params = some (.settingsChanged settings) := by
  have hsettings : params.field? "settings" = some settings := h
  simp [readSettingsChanged?, Json.named?_of_field? hsettings, hsettings]

theorem readFolders?_of_form {added removed : List Url} (h : Notice.Form params (.foldersChanged added removed)) :
    readFolders? params = some (.foldersChanged added removed) := by
  obtain ⟨hadded, hremoved⟩ := h
  have hrecord := hadded.named? ["event"] 1
  obtain ⟨event, hevent, hadded⟩ := hadded
  obtain ⟨_, hsame, hremoved⟩ := hremoved
  cases hevent.symm.trans hsame
  simp [readFolders?, hrecord, hevent, hadded.named?, folderUrls?,
    knows_folderUrl?.toListOf?.fieldAs? hadded, knows_folderUrl?.toListOf?.fieldAs? hremoved]

end Protocol

/-! ### Queries -/

namespace Query

/-- The method of a query. -/
def method : Query → String
  | completion _ _ => "textDocument/completion"
  | quickFix _ _ => "textDocument/codeAction"
  | execute _ _ => "workspace/executeCommand"

/-- The form of the parameters of a query. -/
def Form (params : Json) : Query → Prop
  | completion url position =>
    params.Has DocumentForm "textDocument" url ∧ params.Has Document.Position.Form "position" position
  | quickFix url diagnostics =>
    params.Has DocumentForm "textDocument" url ∧
    (∃ range, params.Has Document.Range.Form "range" range) ∧
    params.Has (Json.Has (Json.Lists Diagnostic.Form) "diagnostics") "context" diagnostics
  | execute command arguments =>
    params.Has Json.TextForm "command" command ∧
    (params.field? "arguments" = some (.array arguments) ∨
      params.field? "arguments" = none ∧ arguments = [])

end Query

namespace Protocol

variable {params : Json}

theorem readCompletion?_of_form {url : Url} {position : Document.Position}
    (h : Query.Form params (.completion url position)) :
    readCompletion? params = some (.completion url position) := by
  obtain ⟨hurl, hposition⟩ := h
  simp [readCompletion?, knows_documentUrl?.fieldAs? hurl, Document.Position.knows_ofJson?.fieldAs? hposition]

theorem readQuickFix?_of_form {url : Url} {diagnostics : List Diagnostic}
    (h : Query.Form params (.quickFix url diagnostics)) :
    readQuickFix? params = some (.quickFix url diagnostics) := by
  obtain ⟨hurl, ⟨range, hrange⟩, context, hcontext, hdiagnostics⟩ := h
  simp [readQuickFix?, Document.Range.knows_ofJson?.fieldAs? hrange, hcontext, hdiagnostics.named?,
    knows_documentUrl?.fieldAs? hurl, Diagnostic.knows_ofJson?.toListOf?.fieldAs? hdiagnostics]

theorem readExecute?_of_form {command : Text} {arguments : List Json}
    (h : Query.Form params (.execute command arguments)) :
    readExecute? params = some (.execute command arguments) := by
  obtain ⟨hcommand, harguments | ⟨hnone, rfl⟩⟩ := h
  · simp [readExecute?, harguments, Json.toList?, knows_toText?.fieldAs? hcommand]
  · simp [readExecute?, hnone, knows_toText?.fieldAs? hcommand]

end Protocol

/-! ### Requests -/

/-- The reader of the parameters that a notice has. -/
def Notice.reader : Notice → Json → Option Notice
  | ready => Protocol.readReady?
  | opened _ _ => Protocol.readOpened?
  | changed _ _ => Protocol.readChanged?
  | saved _ => Protocol.readSaved?
  | closed _ => Protocol.readClosed?
  | settingsChanged _ => Protocol.readSettingsChanged?
  | foldersChanged _ _ => Protocol.readFolders?

/-- The method of a notice is for notices of its kind. -/
theorem Notice.ofName_method (notice : Notice) :
    Method.ofName notice.method.toList = .notice notice.reader := by
  cases notice <;> simp [Notice.method, Method.ofName, Notice.reader]

theorem Notice.reader_of_form {params : Json} {notice : Notice} (h : Notice.Form params notice) :
    notice.reader params = some notice := by
  cases notice with
  | ready => exact Protocol.readReady?_of_form h
  | opened => exact Protocol.readOpened?_of_form h
  | changed => exact Protocol.readChanged?_of_form h
  | saved => exact Protocol.readSaved?_of_form h
  | closed => exact Protocol.readClosed?_of_form h
  | settingsChanged => exact Protocol.readSettingsChanged?_of_form h
  | foldersChanged => exact Protocol.readFolders?_of_form h

/-- The reader of the parameters that a query has. -/
def Query.reader : Query → Json → Option Query
  | completion _ _ => Protocol.readCompletion?
  | quickFix _ _ => Protocol.readQuickFix?
  | execute _ _ => Protocol.readExecute?

/-- The method of a query is for queries of its kind. -/
theorem Query.ofName_method (query : Query) : Method.ofName query.method.toList = .query query.reader := by
  cases query <;> simp [Query.method, Method.ofName, Query.reader]

theorem Query.reader_of_form {params : Json} {query : Query} (h : Query.Form params query) :
    query.reader params = some query := by
  cases query with
  | completion => exact Protocol.readCompletion?_of_form h
  | quickFix => exact Protocol.readQuickFix?_of_form h
  | execute => exact Protocol.readExecute?_of_form h

/-- A message tells a request: it bears the method of the request, parameters of its form, and an identifier if
and only if the request is a query. -/
inductive Message.Tells : Message → Request → Prop
  | notice {params : Json} {notice : Notice} (h : Notice.Form params notice) :
    Tells ⟨none, notice.method.toList, some params⟩ (.notice notice)
  | query (id : Identifier) {params : Json} {query : Query} (h : Query.Form params query) :
    Tells ⟨some id, query.method.toList, some params⟩ (.query query)

/-- **A message is taken for the request that it tells.** -/
theorem Message.request?_of_tells {message : Message} {request : Request} (h : message.Tells request) :
    message.request? = some request := by
  cases h with
  | notice h => simp [Message.request?, Notice.ofName_method, Notice.reader_of_form h]
  | query id h => simp [Message.request?, Query.ofName_method, Query.reader_of_form h]

/-- Fixes are asked for a diagnostic with a message alone. -/
theorem Message.request?_of_tells_quickFix :
    let position : Json := .record [("line", .ofNat 0), ("character", .ofNat 6)]
    let range : Json := .record [("start", position), ("end", position)]
    let diagnostic : Json := .record [("range", range), ("message", .literal "no Gear")]
    let params : Json := .record [("textDocument", .record [("uri", .literal "a:b.cs")]), ("range", range),
      ("context", .record [("diagnostics", .array [diagnostic])])]
    let url : Url := ⟨['a'], none, .plain "b.cs".toList, none, none⟩
    let asked : Diagnostic :=
      ⟨⟨⟨0, 6⟩, ⟨0, 6⟩⟩, none, none, none, none, "no Gear".toList, none, none, none⟩
    let message : Message := ⟨some .null, "textDocument/codeAction".toList, some params⟩
    let request : Request := .query (.quickFix url [asked])
    message.Tells request ∧ message.request? = some request := by
  intro position range diagnostic params url asked message request
  have hposition : Document.Position.Form position ⟨0, 6⟩ :=
    ⟨⟨_, rfl, rfl, by decide⟩, ⟨_, rfl, rfl, by decide⟩⟩
  have hrange : Document.Range.Form range ⟨⟨0, 6⟩, ⟨0, 6⟩⟩ := ⟨⟨_, rfl, hposition⟩, ⟨_, rfl, hposition⟩⟩
  have hdiagnostic : Diagnostic.Form diagnostic asked :=
    ⟨⟨_, rfl, hrange⟩, .none, .none, .none, .none, ⟨_, rfl, rfl⟩, .none, .none, rfl⟩
  have hdiagnostics : params.Has (Json.Has (Json.Lists Diagnostic.Form) "diagnostics") "context" [asked] :=
    ⟨_, rfl, _, rfl, _, rfl, .cons hdiagnostic .nil⟩
  have hdocument : params.Has DocumentForm "textDocument" url := ⟨_, rfl, _, rfl, _, rfl, rfl⟩
  have hquery : Query.Form params (.quickFix url [asked]) := ⟨hdocument, ⟨_, _, rfl, hrange⟩, hdiagnostics⟩
  have htells : message.Tells request := .query .null hquery
  exact ⟨htells, Message.request?_of_tells htells⟩

/-- What ends a session is no request of it. -/
theorem Message.not_ends_of_request? {message : Message} {request : Request}
    (h : message.request? = some request) : ¬ message.Ends := by
  rintro (hmethod | hmethod) <;> simp [Message.request?, hmethod, Method.ofName] at h

/-! ### Connections -/

/-- A delivery brings an exchange: its message tells the request, and the outside is the same. -/
structure Delivery.Brings (delivery : Delivery) (exchange : Exchange) : Prop where
  world_eq : delivery.world = exchange.world
  tells : delivery.message.Tells exchange.request

theorem Delivery.exchange?_of_brings {delivery : Delivery} {exchange : Exchange} (h : delivery.Brings exchange) :
    delivery.exchange? = some exchange := by
  rw [Delivery.exchange?, Message.request?_of_tells h.tells, h.world_eq]
  rfl

/-- The history of a connection is what its deliveries bring. -/
theorem History.ofDeliveries_of_brings {deliveries : List Delivery} {exchanges : List Exchange}
    (h : List.Forall₂ Delivery.Brings deliveries exchanges) :
    History.ofDeliveries deliveries = exchanges.reverse := by
  rw [History.ofDeliveries]
  induction h with
  | nil => rfl
  | cons hfirst _ ih =>
    rw [List.filterMap_cons_some (Delivery.exchange?_of_brings hfirst), List.reverse_cons, ih, List.reverse_cons]

namespace Server

/-- A server that serves has its session handle what a message tells. -/
theorem deliver_of_brings (session : Session) {delivery : Delivery} {exchange : Exchange}
    (h : delivery.Brings exchange) :
    deliver ⟨.serving, session⟩ delivery = ⟨.serving, session.handle exchange⟩ := by
  rw [deliver_serving session delivery (Message.not_ends_of_request? (Message.request?_of_tells h.tells)),
    Delivery.exchange?_of_brings h]

/-- **What a connection goes through.** Let a client introduce itself and then send messages that tell requests,
with the files and the client's settings changing in between at will. The session handles those requests one by
one, from the roots that the client introduced itself with. -/
theorem after_of_brings (introduced : World) (id : Identifier) {params : Json} {folders : Option (List Url)}
    {single : Option Url} (hroots : Roots.Form params folders single) {deliveries : List Delivery}
    {exchanges : List Exchange} (h : List.Forall₂ Delivery.Brings deliveries exchanges) :
    after (⟨introduced, ⟨some id, "initialize".toList, some params⟩⟩ :: deliveries) =
      ⟨.serving, exchanges.foldl Session.handle
        { Session.initial with roots := Roots.initial (folders.getD []) single }⟩ := by
  rw [after, List.foldl_cons, deliver_introduction introduced id (Protocol.readRoots?_of_form hroots)]
  generalize { Session.initial with roots := Roots.initial (folders.getD []) single } = session
  induction h generalizing session with
  | nil => rfl
  | cons hfirst _ ih => rw [List.foldl_cons, List.foldl_cons, deliver_of_brings session hfirst, ih]

end Server

end UsingAdvisor
