import UsingAdvisor.Advice.Completion
import UsingAdvisor.Advice.QuickFix
import UsingAdvisor.Document.Line
import UsingAdvisor.Interaction
import UsingAdvisor.Session.Documents
import UsingAdvisor.Session.Roots
import UsingAdvisor.Settings

/-!
# Sessions

The state of the server while a client is connected, and what each message does to it. Notices change
the documents, the settings or the roots; queries are answered from the state as it stands. The index
is only ever replaced as a whole, by the index of the roots as they are at that moment.
-/

namespace UsingAdvisor

/-- What the server remembers between messages. -/
structure Session where
  documents : Documents
  index : SymbolIndex
  roots : List FilePath
  settings : Settings

/-- What a client lets the server know. -/
inductive Notice where
  /-- The client is ready. -/
  | ready
  | opened (url : Url) (text : Text)
  | changed (url : Url) (changes : List Document.Change)
  | saved (url : Url)
  | closed (url : Url)
  /-- Settings changed; the value may hold the server's section. -/
  | settingsChanged (settings : Json)
  | foldersChanged (added removed : List Url)

/-- What a client asks the server. -/
inductive Query where
  | completion (url : Url) (position : Document.Position)
  | quickFix (url : Url) (diagnostics : List Diagnostic)
  | execute (command : Text) (arguments : List Json)

/-- What the server answers. -/
inductive Answer where
  | nothing
  | completions (items : List Advice.Completion)
  | quickFixes (fixes : List Advice.QuickFix)
  /-- The index was rebuilt and holds this many symbols. -/
  | reindexed (symbols : Nat)
  /-- The command is not one of the server's. -/
  | unknownCommand (command : Text)

namespace Session

/-- The name of the server's section in a client's settings. -/
def sectionName : String := "autousing"

/-- The command that rebuilds the index. -/
def reindexCommand : Text := "autousing-csharp-workspace.reindex".toList

/-- The state before the first message. -/
def initial : Session :=
  ⟨[], .empty, [], .default⟩

/-- What the log says about a new index. -/
def finishedMessage (index : SymbolIndex) : Text :=
  "Finished, ".toList ++ (Text.ofNat index.size ++ " symbols".toList)

/-- What the client shows about a new index. -/
def indexedMessage (index : SymbolIndex) : Text :=
  "C# auto-using: indexed ".toList ++ (Text.ofNat index.size ++ (" symbols from ".toList ++
    (Text.ofNat index.filesScanned ++ " files".toList)))

/-- Rebuild the index from the roots. The log is told, and the client too if `shown` says so. -/
def reindex (session : Session) (shown : Bool) : Interaction Session :=
  .look session.roots session.settings.scan fun tree =>
    let index := Workspace.buildIndex tree session.roots session.settings.scan
    let result : Interaction Session := .done { session with index := index }
    .send (.log (finishedMessage index))
      (if shown then .send (.display (indexedMessage index)) result else result)

/-- Apply a section of settings. -/
def applySection (session : Session) (given : Json) : Session :=
  { session with settings := session.settings.overlay given }

/-- Ask the client for its settings and apply them. The answer is an array with the section in
front; any other answer changes nothing. -/
def pullSettings (session : Session) : Interaction Session :=
  .ask fun answer =>
    match answer with
    | some (.array (given :: _)) => .done (session.applySection given)
    | _ => .done session

/-- Take notice of something. -/
def notice (session : Session) : Notice → Interaction Session
  | .ready =>
    .send (.log "C# auto-using server started".toList)
      (session.pullSettings.bind fun session => session.reindex true)
  | .opened url text => .done { session with documents := session.documents.set url text }
  | .changed url changes =>
    .done { session with documents := session.documents.change url changes }
  | .saved url =>
    if session.settings.reindexOnSave && url.hasExtension session.settings.scan.extension then
      session.reindex false
    else .done session
  | .closed url => .done { session with documents := session.documents.erase url }
  | .settingsChanged settings =>
    match settings.field? sectionName with
    | some given => .done (session.applySection given)
    | none => session.pullSettings
  | .foldersChanged added removed =>
    { session with roots := Roots.merge session.roots added removed }.reindex false

/-- The completions at a position. A document that is not open has none to offer. -/
def completionAnswer (session : Session) (url : Url) (position : Document.Position) : Answer :=
  match session.documents.get? url with
  | none => .nothing
  | some text =>
    .completions (Advice.completions session.index text (Document.lineText text position.line)
      session.settings.addUsing)

/-- The fixes for diagnostics. A document that is not open counts as empty, and no fixes are no
answer. -/
def quickFixAnswer (session : Session) (url : Url) (diagnostics : List Diagnostic) : Answer :=
  let text := (session.documents.get? url).getD []
  match Advice.quickFixes session.index url text diagnostics with
  | [] => .nothing
  | fix :: fixes => .quickFixes (fix :: fixes)

/-- Answer a query. Only a command changes the state. -/
def answer (session : Session) : Query → Interaction (Session × Answer)
  | .completion url position => .done (session, session.completionAnswer url position)
  | .quickFix url diagnostics => .done (session, session.quickFixAnswer url diagnostics)
  | .execute command arguments =>
    if command = reindexCommand then
      (session.reindex (asksForOutput arguments)).map fun session =>
        (session, .reindexed session.index.size)
    else .done (session, .unknownCommand command)

end Session

end UsingAdvisor
