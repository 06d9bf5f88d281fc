import UsingAdvisor.Session

/-!
# What a session keeps of its history

A history is all that a session has been asked and told, with the outside as it stood each time. Each part
of a session's state depends on a part of its history alone: the text of a document on the notices about
that document (`History.text?`), the settings on the sections that the client gave (`History.settings`),
the roots on the folders that it added and removed (`History.roots`), and the index on the tree, the roots
and the settings as they stood when the index was last rebuilt (`History.index`). Main statements:
`Session.handle_eq` (what one request does to a session) and `Session.Reflects.handle` (a session that is as
its history says still is after one request more).
-/

namespace UsingAdvisor

/-- What a client wants of a session: it lets it know something, or asks it something. -/
inductive Request where
  | notice (notice : Notice)
  | query (query : Query)

/-- A request, and the outside as it stands while the request is handled. -/
structure Exchange where
  world : World
  request : Request

/-- What a session has been through, the latest first. -/
abbrev History := List Exchange

/-- The section of settings that the client gives when it is asked: the first of the values in its
answer. -/
def World.section? (world : World) : Option Json :=
  match world.settings with
  | some (.array (given :: _)) => some given
  | _ => none

namespace Exchange

/-- The document that the exchange is about, where it is about the text of one. -/
def document? (exchange : Exchange) : Option Url :=
  match exchange.request with
  | .notice (.opened url _) => some url
  | .notice (.changed url _) => some url
  | .notice (.closed url) => some url
  | _ => none

/-- The text of the document that the exchange is about, from its text before. A document that is changed
without being open is empty before. -/
def replay (exchange : Exchange) (text : Option Text) : Option Text :=
  match exchange.request with
  | .notice (.opened _ opened) => some opened
  | .notice (.changed _ changes) => some (Document.applyChanges changes (text.getD []))
  | .notice (.closed _) => none
  | _ => text

/-- The section of settings that the exchange brings. Where a client tells that settings changed and leaves
out the section, it is asked for it. -/
def section? (exchange : Exchange) : Option Json :=
  match exchange.request with
  | .notice .ready => exchange.world.section?
  | .notice (.settingsChanged settings) =>
    (settings.field? Session.sectionName).or exchange.world.section?
  | _ => none

/-- The folders that the exchange adds and removes. -/
def folders? (exchange : Exchange) : Option (List Url × List Url) :=
  match exchange.request with
  | .notice (.foldersChanged added removed) => some (added, removed)
  | _ => none

/-- The open documents after the exchange. -/
def onDocuments (exchange : Exchange) (documents : Documents) : Documents :=
  match exchange.request with
  | .notice (.opened url text) => documents.set url text
  | .notice (.changed url changes) => documents.change url changes
  | .notice (.closed url) => documents.erase url
  | _ => documents

/-- The settings after the exchange. -/
def onSettings (exchange : Exchange) (settings : Settings) : Settings :=
  match exchange.section? with
  | some given => settings.overlay given
  | none => settings

/-- The roots after the exchange. -/
def onRoots (exchange : Exchange) (roots : List FilePath) : List FilePath :=
  match exchange.folders? with
  | some (added, removed) => Roots.merge roots added removed
  | none => roots

/-- Whether the exchange has the index rebuilt, under the settings that are in force before it. -/
def rebuilds (settings : Settings) (exchange : Exchange) : Bool :=
  match exchange.request with
  | .notice .ready => true
  | .notice (.foldersChanged _ _) => true
  | .notice (.saved url) => settings.reindexOnSave && url.hasExtension settings.scan.extension
  | .query (.execute command _) => command == Session.reindexCommand
  | _ => false

end Exchange

namespace History

/-- The text of a document, replayed from the exchanges about it and from no others. -/
def text? (history : History) (url : Url) : Option Text :=
  (history.filter fun exchange => exchange.document? == some url).foldr Exchange.replay none

/-- The settings: the sections that the client gave, one on top of another. -/
def settings (history : History) : Settings :=
  (history.filterMap Exchange.section?).foldr (fun given settings => settings.overlay given) .default

/-- The roots: those at the start, after each change of folders. -/
def roots (start : List FilePath) (history : History) : List FilePath :=
  (history.filterMap Exchange.folders?).foldr
    (fun (added, removed) roots => Roots.merge roots added removed) start

/-- The index: that of the tree, the roots and the settings as they stood at the latest exchange that has it
rebuilt, and the empty one if there is none. -/
def index (start : List FilePath) : History → SymbolIndex
  | [] => .empty
  | latest :: earlier =>
    if latest.rebuilds (settings earlier) then
      Workspace.buildIndex latest.world.tree (roots start (latest :: earlier))
        (settings (latest :: earlier)).scan
    else index start earlier

end History

namespace Session

/-- The session after a request. -/
def handle (session : Session) (exchange : Exchange) : Session :=
  match exchange.request with
  | .notice notice => ((session.notice notice).run exchange.world).2
  | .query query => ((session.answer query).run exchange.world).2.1

/-- The session with its index rebuilt from a tree. -/
def rebuilt (session : Session) (tree : FileTree) : Session :=
  { session with index := Workspace.buildIndex tree session.roots session.settings.scan }

/-- The session with all but its index as the exchange leaves it. -/
def settled (session : Session) (exchange : Exchange) : Session where
  documents := exchange.onDocuments session.documents
  index := session.index
  roots := exchange.onRoots session.roots
  settings := exchange.onSettings session.settings

/-! ### One request -/

/-- An index that is rebuilt is that of the roots and the settings as they are. -/
theorem run_reindex (session : Session) (shown : Bool) (world : World) :
    ((session.reindex shown).run world).2 = session.rebuilt world.tree := by
  cases shown <;> rfl

/-- Settings that are asked for are applied if the client gives a section. -/
theorem run_pullSettings (session : Session) (world : World) :
    (session.pullSettings.run world).2 =
      match world.section? with
      | some given => session.applySection given
      | none => session := by
  rw [pullSettings, World.section?, Interaction.run]
  cases world.settings with
  | none => rfl
  | some answer =>
    cases answer with
    | array values => cases values <;> rfl
    | _ => rfl

/-- A client that is ready is asked for its settings first, and the index is built with these. -/
theorem handle_ready (session : Session) (world : World) :
    let exchange : Exchange := ⟨world, .notice .ready⟩
    session.handle exchange = (session.settled exchange).rebuilt world.tree := by
  change ((session.notice .ready).run world).2 = _
  rw [notice, Interaction.run, Interaction.run_bind, run_reindex, run_pullSettings, settled,
    Exchange.onSettings, Exchange.section?]
  cases world.section? <;> rfl

/-- Settings are taken from the notice, or asked for where it leaves them out. -/
theorem handle_settingsChanged (session : Session) (world : World) (settings : Json) :
    let exchange : Exchange := ⟨world, .notice (.settingsChanged settings)⟩
    session.handle exchange = session.settled exchange := by
  change ((session.notice (.settingsChanged settings)).run world).2 = _
  simp only [notice, settled, Exchange.onSettings, Exchange.section?]
  cases settings.field? sectionName with
  | some given => rfl
  | none =>
    simp only [run_pullSettings, Option.none_or]
    cases world.section? <;> rfl

/-- **What a request does.** The documents, the roots and the settings change as the exchange says; then the
index is rebuilt from these, or it stays. -/
theorem handle_eq (session : Session) (exchange : Exchange) :
    session.handle exchange =
      if exchange.rebuilds session.settings then
        (session.settled exchange).rebuilt exchange.world.tree
      else session.settled exchange := by
  obtain ⟨world, request⟩ := exchange
  cases request with
  | notice notice =>
    cases notice with
    | ready => exact handle_ready session world
    | opened url text => rfl
    | changed url changes => rfl
    | saved url =>
      change ((session.notice (.saved url)).run world).2 = _
      rw [Session.notice, Exchange.rebuilds]
      split
      next => exact run_reindex session false world
      next => rfl
    | closed url => rfl
    | settingsChanged settings => exact handle_settingsChanged session world settings
    | foldersChanged added removed => exact run_reindex _ false world
  | query query =>
    cases query with
    | completion url position => rfl
    | quickFix url diagnostics => rfl
    | execute command arguments =>
      change ((session.answer (.execute command arguments)).run world).2.1 = _
      simp only [answer, Exchange.rebuilds, beq_iff_eq]
      split
      next =>
        rw [Interaction.map, Interaction.run_bind, run_reindex]
        rfl
      next => rfl

end Session

/-! ### A whole history -/

/-- The exchange changes the text of the document that it is about, and of no other. -/
theorem Exchange.get?_onDocuments (exchange : Exchange) (documents : Documents) (url : Url) :
    (exchange.onDocuments documents).get? url =
      if exchange.document? = some url then exchange.replay (documents.get? url)
      else documents.get? url := by
  obtain ⟨world, request⟩ := exchange
  cases request with
  | query query => rfl
  | notice notice =>
    cases notice with
    | opened key text =>
      rw [onDocuments, Documents.get?_set]
      simp [document?, replay, eq_comm]
    | changed key changes =>
      change (Documents.set documents key _).get? url = _
      rw [Documents.get?_set]
      by_cases hkey : url = key <;> simp [document?, replay, hkey, eq_comm]
    | closed key =>
      rw [onDocuments, Documents.get?_erase]
      simp [document?, replay, eq_comm]
    | _ => rfl

namespace History

variable (exchange : Exchange) (history : History)

theorem text?_cons (url : Url) :
    text? (exchange :: history) url =
      if exchange.document? = some url then exchange.replay (history.text? url)
      else history.text? url := by
  by_cases habout : exchange.document? = some url <;> simp [text?, habout]

theorem settings_cons : settings (exchange :: history) = exchange.onSettings history.settings := by
  rw [settings, Exchange.onSettings]
  cases hsection : exchange.section? <;> simp [hsection, settings]

theorem roots_cons (start : List FilePath) :
    roots start (exchange :: history) = exchange.onRoots (roots start history) := by
  rw [roots, Exchange.onRoots]
  cases hfolders : exchange.folders? <;> simp [hfolders, roots]

end History

/-- A session is as its history says, in each of its parts. -/
structure Session.Reflects (session : Session) (start : List FilePath) (history : History) : Prop where
  text : ∀ url, session.documents.get? url = history.text? url
  index : session.index = history.index start
  roots : session.roots = history.roots start
  settings : session.settings = history.settings

namespace Session

/-- A session whose client has just introduced itself has no history. -/
theorem reflects_nil (start : List FilePath) :
    Reflects { Session.initial with roots := start } start [] :=
  ⟨fun _ => rfl, rfl, rfl, rfl⟩

/-- **One request more.** -/
theorem Reflects.handle {session : Session} {start : List FilePath} {history : History}
    (reflects : session.Reflects start history) (exchange : Exchange) :
    (session.handle exchange).Reflects start (exchange :: history) := by
  have hroots : exchange.onRoots session.roots = History.roots start (exchange :: history) := by
    rw [History.roots_cons, reflects.roots]
  have hsettings : exchange.onSettings session.settings = History.settings (exchange :: history) := by
    rw [History.settings_cons, reflects.settings]
  have htext (url : Url) :
      (exchange.onDocuments session.documents).get? url = History.text? (exchange :: history) url := by
    rw [Exchange.get?_onDocuments, History.text?_cons, reflects.text]
  rw [handle_eq]
  -- whether the index is rebuilt is up to the settings from before, what it becomes to those from now on
  cases hrebuilds : exchange.rebuilds session.settings with
  | true =>
    refine ⟨htext, ?_, hroots, hsettings⟩
    rw [History.index, ← reflects.settings, hrebuilds, if_pos rfl, ← hroots, ← hsettings]
    rfl
  | false =>
    refine ⟨htext, ?_, hroots, hsettings⟩
    rw [History.index, ← reflects.settings, hrebuilds]
    exact reflects.index

/-! ### Answers -/

section Answers

variable {session : Session} {start : List FilePath} {history : History}

/-- Completions come from the text, the index and the settings of the history. -/
theorem Reflects.completionAnswer (reflects : session.Reflects start history) (url : Url)
    (position : Document.Position) :
    session.completionAnswer url position =
      match history.text? url with
      | none => .nothing
      | some text => .completions (Advice.completions (history.index start) text
          (Document.lineText text position.line) history.settings.addUsing) := by
  cases htext : history.text? url with
  | none => simp only [Session.completionAnswer, reflects.text, htext]
  | some text =>
    simp only [Session.completionAnswer, reflects.text, htext, reflects.index, reflects.settings]

/-- Quick fixes come from the text and the index of the history. -/
theorem Reflects.quickFixAnswer (reflects : session.Reflects start history) (url : Url)
    (diagnostics : List Diagnostic) :
    session.quickFixAnswer url diagnostics =
      match Advice.quickFixes (history.index start) url ((history.text? url).getD []) diagnostics with
      | [] => .nothing
      | fix :: fixes => .quickFixes (fix :: fixes) := by
  cases hfixes : Advice.quickFixes (history.index start) url ((history.text? url).getD []) diagnostics with
  | nil => simp only [Session.quickFixAnswer, reflects.text, reflects.index, hfixes]
  | cons fix fixes => simp only [Session.quickFixAnswer, reflects.text, reflects.index, hfixes]

end Answers

end Session

end UsingAdvisor
