import UsingAdvisor.Protocol.Message
import UsingAdvisor.Protocol.Reading
import UsingAdvisor.Protocol.Writing

/-!
# The server

The life of a connection, from the first message to the last. A client first introduces itself, then
sends notices and queries, then ends the session, and at last the connection. A query at the wrong
time is refused, and a notice at the wrong time is dropped. A notice whose method is for queries does
nothing, and a query whose method is for notices is refused.
-/

namespace UsingAdvisor

/-- How far a connection has come. -/
inductive Phase where
  | fresh
  | serving
  | ended
  | exited
  deriving DecidableEq, Repr

/-- The server of one connection. -/
structure Server where
  phase : Phase
  session : Session

/-- What a method is for. -/
inductive Method where
  /-- The client introduces itself. -/
  | introduce
  /-- The client ends the session. -/
  | finish
  /-- The client ends the connection. -/
  | exit
  | notice (read : Json → Option Notice)
  | query (read : Json → Option Query)
  /-- A query of the protocol that this server does not serve. -/
  | unsupported
  /-- A notice of the protocol that this server has no use for. -/
  | ignored
  /-- The notice that a query is not wanted any more. Every query is answered by the time that it
  comes, so nothing is left to do, at whatever time. -/
  | cancel
  | unknown

namespace Method

/-- The queries of the protocol that are not served. -/
def unsupportedNames : List String := [
  "textDocument/willSaveWaitUntil", "textDocument/declaration", "textDocument/definition",
  "textDocument/typeDefinition", "textDocument/implementation", "textDocument/references",
  "textDocument/prepareCallHierarchy", "callHierarchy/incomingCalls",
  "callHierarchy/outgoingCalls", "textDocument/prepareTypeHierarchy",
  "typeHierarchy/supertypes", "typeHierarchy/subtypes", "textDocument/documentHighlight",
  "textDocument/documentLink", "documentLink/resolve", "textDocument/hover",
  "textDocument/codeLens", "codeLens/resolve", "textDocument/foldingRange",
  "textDocument/selectionRange", "textDocument/documentSymbol",
  "textDocument/semanticTokens/full", "textDocument/semanticTokens/full/delta",
  "textDocument/semanticTokens/range", "textDocument/inlineValue", "textDocument/inlayHint",
  "inlayHint/resolve", "textDocument/moniker", "completionItem/resolve",
  "textDocument/diagnostic", "workspace/diagnostic", "textDocument/signatureHelp",
  "codeAction/resolve", "textDocument/documentColor", "textDocument/colorPresentation",
  "textDocument/formatting", "textDocument/rangeFormatting", "textDocument/onTypeFormatting",
  "textDocument/rename", "textDocument/prepareRename", "textDocument/linkedEditingRange",
  "workspace/symbol", "workspaceSymbol/resolve", "workspace/willCreateFiles",
  "workspace/willRenameFiles", "workspace/willDeleteFiles"]

/-- The notices of the protocol that are dropped. -/
def ignoredNames : List String := [
  "textDocument/willSave", "workspace/didCreateFiles", "workspace/didRenameFiles",
  "workspace/didDeleteFiles", "workspace/didChangeWatchedFiles"]

/-- The method of a name. -/
def ofName (name : Text) : Method :=
  match String.ofList name with
  | "initialize" => introduce
  | "shutdown" => finish
  | "exit" => exit
  | "initialized" => notice Protocol.readReady?
  | "textDocument/didOpen" => notice Protocol.readOpened?
  | "textDocument/didChange" => notice Protocol.readChanged?
  | "textDocument/didSave" => notice Protocol.readSaved?
  | "textDocument/didClose" => notice Protocol.readClosed?
  | "workspace/didChangeConfiguration" => notice Protocol.readSettingsChanged?
  | "workspace/didChangeWorkspaceFolders" => notice Protocol.readFolders?
  | "textDocument/completion" => query Protocol.readCompletion?
  | "textDocument/codeAction" => query Protocol.readQuickFix?
  | "workspace/executeCommand" => query Protocol.readExecute?
  | "$/cancelRequest" => cancel
  | other =>
    if unsupportedNames.contains other then unsupported
    else if ignoredNames.contains other then ignored
    else unknown

end Method

/-- The reply that an answer is. -/
def Answer.reply : Answer → Reply
  | nothing => .ok .null
  | completions items => .ok (.array (items.map Advice.Completion.toJson))
  | quickFixes fixes => .ok (.array (fixes.map Advice.QuickFix.toJson))
  | reindexed symbols => .ok (.record [("symbols", .ofNat symbols)])
  | unknownCommand command => .error (.unknownCommand command)

namespace Server

/-- The server before the first message. -/
def initial : Server :=
  ⟨.fresh, .initial⟩

/-- The refusal of a query at the wrong time. -/
def refusal (server : Server) : Refusal :=
  match server.phase with
  | .fresh => .notInitialized
  | _ => .invalidRequest

/-- Nothing happens, and a query is refused. -/
def refuse (server : Server) (message : Message) (reason : Refusal) :
    Interaction (Server × Option Reply) :=
  .done (server, message.id.map fun _ => .error reason)

/-- A client introduces itself. -/
def introduce (server : Server) (message : Message) : Server × Option Reply :=
  match server.phase, message.id with
  | .fresh, none => (server, none)
  | .fresh, some _ =>
    match message.params with
    | none => (server, some (.error .missingParams))
    | some params =>
      match Protocol.readRoots? params with
      | none => (server, some (.error .invalidParams))
      | some roots =>
        (⟨.serving, { server.session with roots := roots }⟩, some (.ok Protocol.introduction))
  | _, id => (server, id.map fun _ => .error .invalidRequest)

/-- A client ends the session. It is over even if the query is refused for its parameters. -/
def finish (server : Server) (message : Message) : Server × Option Reply :=
  let reply : Reply := match message.params with
    | none => .ok .null
    | some params => .error (.unexpectedParams params.compact)
  ({ server with phase := .ended }, message.id.map fun _ => reply)

/-- Take a notice while serving. A message with an identifier is none. -/
def takeNotice (server : Server) (message : Message) (read : Json → Option Notice) :
    Interaction (Server × Option Reply) :=
  match message.id, message.params.bind read with
  | some _, _ => .done (server, some (.error .invalidRequest))
  | none, none => .done (server, none)
  | none, some notice =>
    (server.session.notice notice).map fun session => ({ server with session := session }, none)

/-- Take a query while serving. A message without an identifier is none. -/
def takeQuery (server : Server) (message : Message) (read : Json → Option Query) :
    Interaction (Server × Option Reply) :=
  match message.id, message.params with
  | none, _ => .done (server, none)
  | some _, none => .done (server, some (.error .missingParams))
  | some _, some params =>
    match read params with
    | none => .done (server, some (.error .invalidParams))
    | some query =>
      (server.session.answer query).map fun (session, answer) =>
        ({ server with session := session }, some answer.reply)

/-- Handle a message while serving, if its method is one that is handled then only. -/
def serve (server : Server) (message : Message) : Method → Interaction (Server × Option Reply)
  | .finish => .done (server.finish message)
  | .notice read => server.takeNotice message read
  | .query read => server.takeQuery message read
  | .unsupported =>
    server.refuse message (if message.params.isNone then .missingParams else .unsupportedMethod)
  | _ => server.refuse message .invalidRequest

/-- Handle a message: the server afterwards, and the reply if there is one. Nothing is said about an
unknown method whose name starts with a dollar sign and a slash. -/
def receive (server : Server) (message : Message) : Interaction (Server × Option Reply) :=
  if server.phase = .exited then .done (server, none)
  else
    match Method.ofName message.method with
    | .exit => .done ({ server with phase := .exited }, none)
    | .introduce => .done (server.introduce message)
    | .cancel => server.refuse message .invalidRequest
    | .unknown =>
      if Text.startsWith ['$', '/'] message.method then .done (server, none)
      else server.refuse message (.unknownMethod message.method)
    | method =>
      if server.phase = .serving then server.serve message method
      else server.refuse message server.refusal

end Server

end UsingAdvisor
