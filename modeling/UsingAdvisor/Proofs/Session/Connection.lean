import UsingAdvisor.Proofs.Session.History
import UsingAdvisor.Server

/-!
# What a connection answers

A connection whose client has introduced itself serves its session until the client ends it, whatever
messages come: those that are requests of the session are handled one by one, and all others leave the
session alone (`Server.deliver_serving`). So its session reflects the history of the requests among the
messages (`Server.reflects_after`), and what it answers is the pure advice for that history. Main statement:
`Server.answers_of_history` (every completion and every fix is computed from the texts, the index and the
settings as the history says).
-/

namespace UsingAdvisor

/-- The request of the session that a message is: a notice without an identifier or a query with one, with
parameters that can be read. -/
def Message.request? (message : Message) : Option Request :=
  match Method.ofName message.method, message.id with
  | .notice read, none => (message.params.bind read).map .notice
  | .query read, some _ => (message.params.bind read).map .query
  | _, _ => none

/-- Whether a message ends the session or the connection. -/
def Message.Ends (message : Message) : Prop :=
  message.method = "shutdown".toList ∨ message.method = "exit".toList

/-- Only these two methods end anything. -/
theorem Message.ends_of_method {message : Message}
    (h : Method.ofName message.method = .finish ∨ Method.ofName message.method = .exit) :
    message.Ends := by
  rw [Method.ofName] at h
  split at h
  case h_2 hname => exact .inl (by rw [← hname, String.toList_ofList])
  case h_3 hname => exact .inr (by rw [← hname, String.toList_ofList])
  case h_15 =>
    split at h
    · simp at h
    · split at h <;> simp at h
  all_goals simp at h

instance (message : Message) : Decidable message.Ends :=
  inferInstanceAs (Decidable (_ ∨ _))

/-- A message, and the outside as it stands while the message is handled. -/
structure Delivery where
  world : World
  message : Message

/-- The request that is delivered, if it is one. -/
def Delivery.exchange? (delivery : Delivery) : Option Exchange :=
  delivery.message.request?.map (Exchange.mk delivery.world)

/-- What the session has been through after some messages. -/
def History.ofDeliveries (deliveries : List Delivery) : History :=
  (deliveries.filterMap Delivery.exchange?).reverse

namespace Server

/-- The server after a message. -/
def deliver (server : Server) (delivery : Delivery) : Server :=
  ((server.receive delivery.message).run delivery.world).2.1

/-- The reply to a message, if there is one. -/
def reply? (server : Server) (delivery : Delivery) : Option Reply :=
  ((server.receive delivery.message).run delivery.world).2.2

/-- The server of a connection after its first messages. -/
def after (deliveries : List Delivery) : Server :=
  deliveries.foldl deliver .initial

/-! ### One message -/

/-- **What a message does while a server serves.** If it is a request, the session handles it; if it is none,
and does not end the session, nothing changes. -/
theorem deliver_serving (session : Session) (delivery : Delivery) (hopen : ¬ delivery.message.Ends) :
    deliver ⟨.serving, session⟩ delivery =
      match delivery.exchange? with
      | some exchange => ⟨.serving, session.handle exchange⟩
      | none => ⟨.serving, session⟩ := by
  obtain ⟨world, ⟨id, name, params⟩⟩ := delivery
  obtain ⟨hfinish, hexit⟩ := not_or.1 (mt Message.ends_of_method hopen)
  simp only [deliver, receive, Delivery.exchange?, Message.request?, reduceCtorEq, if_false, if_true]
  cases hmethod : Method.ofName name with
  | finish => exact absurd hmethod hfinish
  | exit => exact absurd hmethod hexit
  | notice read =>
    simp only [serve, takeNotice]
    cases id with
    | some id => rfl
    | none =>
      simp only
      cases params.bind read with
      | none => rfl
      | some notice => simp [Interaction.map, Interaction.run_bind, Interaction.run, Session.handle]
  | query read =>
    simp only [serve, takeQuery]
    cases id with
    | none => rfl
    | some id =>
      cases params with
      | none => rfl
      | some params =>
        simp only [Option.bind_some]
        cases read params with
        | none => rfl
        | some query => simp [Interaction.map, Interaction.run_bind, Interaction.run, Session.handle]
  | unknown =>
    simp only
    split <;> cases id <;> rfl
  | _ => cases id <;> rfl

/-- A query gets the answer of the session as it stands. -/
theorem reply?_serving (session : Session) (world : World) {message : Message} {query : Query}
    (hquery : message.request? = some (.query query)) :
    reply? ⟨.serving, session⟩ ⟨world, message⟩ =
      some ((session.answer query).run world).2.2.reply := by
  obtain ⟨id, name, params⟩ := message
  simp only [reply?, receive, Message.request?, reduceCtorEq, if_false, if_true] at hquery ⊢
  split at hquery
  next =>
    obtain ⟨notice, -, hnotice⟩ := Option.map_eq_some_iff.mp hquery
    cases hnotice
  next read _ hmethod =>
    obtain ⟨_, hparams, hequal⟩ := Option.map_eq_some_iff.mp hquery
    cases hequal
    obtain ⟨params, rfl, hread⟩ := Option.bind_eq_some_iff.mp hparams
    simp [hmethod, serve, takeQuery, hread, Interaction.map, Interaction.run_bind, Interaction.run]
  next => cases hquery

/-! ### A whole connection -/

/-- The client introduces itself, and the server serves it from then on. -/
theorem deliver_introduction (world : World) (id : Identifier) {params : Json} {roots : List FilePath}
    (hroots : Protocol.readRoots? params = some roots) :
    initial.deliver ⟨world, ⟨some id, "initialize".toList, some params⟩⟩ =
      ⟨.serving, { Session.initial with roots := roots }⟩ := by
  have hmethod : Method.ofName "initialize".toList = .introduce := by
    rw [Method.ofName, String.ofList_toList]
    rfl
  generalize "initialize".toList = name at hmethod ⊢
  simp [deliver, receive, hmethod, introduce, initial, hroots, Interaction.run]

/-- A server that serves still does after messages that do not end the session, and its session reflects
what it has been through. -/
theorem reflects_foldl {start : List FilePath} {session : Session} {history : History}
    (reflects : session.Reflects start history) {deliveries : List Delivery}
    (hopen : ∀ delivery ∈ deliveries, ¬ delivery.message.Ends) :
    ∃ session' : Session, deliveries.foldl deliver ⟨.serving, session⟩ = ⟨.serving, session'⟩ ∧
      session'.Reflects start (History.ofDeliveries deliveries ++ history) := by
  induction deliveries generalizing session history with
  | nil => exact ⟨session, rfl, reflects⟩
  | cons delivery rest ih =>
    obtain ⟨hfirst, hrest⟩ := List.forall_mem_cons.mp hopen
    rw [List.foldl_cons, deliver_serving session delivery hfirst]
    cases hexchange : delivery.exchange? with
    | none => simpa [History.ofDeliveries, hexchange] using ih reflects hrest
    | some exchange =>
      simpa [History.ofDeliveries, hexchange] using ih (reflects.handle exchange) hrest

/-- **What a connection answers.** Let a client introduce itself and then send any messages, none of which
ends the session, with the files and the client's settings changing in between at will. A completion is
answered from the text, the index and the settings that the history of the requests gives, and so are quick
fixes, where a document that is not open counts as empty and no fixes are no answer. -/
theorem answers_of_history (introduced : World) (id : Identifier) {params : Json}
    {roots : List FilePath} (hroots : Protocol.readRoots? params = some roots)
    {deliveries : List Delivery} (hopen : ∀ delivery ∈ deliveries, ¬ delivery.message.Ends)
    (delivery : Delivery) :
    let introduction : Delivery := ⟨introduced, ⟨some id, "initialize".toList, some params⟩⟩
    let reply? := (after (introduction :: deliveries)).reply? delivery
    let history := History.ofDeliveries deliveries
    let index := history.index roots
    (∀ url position, delivery.message.request? = some (.query (.completion url position)) →
      reply? = some (Answer.reply (match history.text? url with
        | none => .nothing
        | some text => .completions (Advice.completions index text
            (Document.lineText text position.line) history.settings.addUsing)))) ∧
    (∀ url diagnostics, delivery.message.request? = some (.query (.quickFix url diagnostics)) →
      reply? = some (Answer.reply
        (match Advice.quickFixes index url ((history.text? url).getD []) diagnostics with
          | [] => .nothing
          | fix :: fixes => .quickFixes (fix :: fixes)))) := by
  obtain ⟨session, hserving, reflects⟩ := reflects_foldl (Session.reflects_nil roots) hopen
  obtain ⟨world, message⟩ := delivery
  simp only [after, List.foldl_cons, deliver_introduction introduced id hroots, hserving]
  rw [List.append_nil] at reflects
  refine ⟨fun url position hquery => ?_, fun url diagnostics hquery => ?_⟩
  · refine (reply?_serving session world hquery).trans ?_
    exact congrArg (fun answer : Answer => some answer.reply) (reflects.completionAnswer url position)
  · refine (reply?_serving session world hquery).trans ?_
    exact congrArg (fun answer : Answer => some answer.reply) (reflects.quickFixAnswer url diagnostics)

/-- A document is opened empty and changed, and the workspace is emptied after it was indexed: completions
come from the changed text and the workspace as it was. -/
theorem answers_of_history_emptied :
    let source := FileTree.Node.file (Bytes.ofText "namespace Shop;\npublic class Gear {}\n".toList)
    let folder := FileTree.Node.directory [(Bytes.ofText "a.cs".toList, source)]
    let filled : World := ⟨⟨.directory [(Bytes.ofText "w".toList, folder)], [], by decide +kernel⟩, none⟩
    let emptied : World := ⟨.bare [], none⟩
    let document := [("uri", Json.literal "file:///w/b.cs")]
    let params : Json := .record [("capabilities", .object []), ("rootUri", .literal "file:///w")]
    let ready : Message := ⟨none, "initialized".toList, some (.object [])⟩
    let opened : Message := ⟨none, "textDocument/didOpen".toList, some (.record [
      ("textDocument", .record (document ++ [("languageId", .literal "csharp"), ("version", .ofNat 1),
        ("text", .literal "")]))])⟩
    let changed : Message := ⟨none, "textDocument/didChange".toList, some (.record [
      ("textDocument", .record (document ++ [("version", .ofNat 2)])),
      ("contentChanges", .array [.record [("text", .literal "Ge")]])])⟩
    let complete : Message := ⟨some (.number 1), "textDocument/completion".toList, some (.record [
      ("textDocument", .record document),
      ("position", .record [("line", .ofNat 0), ("character", .ofNat 2)])])⟩
    let url : Url := ⟨"file".toList, some ⟨[], .name [], none⟩,
      .segments ["w".toList, "b.cs".toList], none, none⟩
    let roots := [Bytes.ofText "/w".toList]
    let introduction : Delivery := ⟨emptied, ⟨some .null, "initialize".toList, some params⟩⟩
    let deliveries : List Delivery := [⟨filled, ready⟩, ⟨emptied, opened⟩, ⟨emptied, changed⟩]
    let reply? := (after (introduction :: deliveries)).reply? ⟨emptied, complete⟩
    let history := History.ofDeliveries deliveries
    (Protocol.readRoots? params = some roots ∧ ∀ delivery ∈ deliveries, ¬ delivery.message.Ends) ∧
    complete.request? = some (.query (.completion url ⟨0, 2⟩)) ∧
    history.text? url = some "Ge".toList ∧
    history.index roots = Workspace.buildIndex filled.tree roots .default ∧
    reply? = some (Answer.reply (.completions (Advice.completions
      (Workspace.buildIndex filled.tree roots .default) "Ge".toList "Ge".toList true))) := by
  intro source folder filled emptied document params ready opened changed complete url roots
    introduction deliveries reply? history
  have hroots : Protocol.readRoots? params = some roots := by decide +kernel
  have hopen : ∀ delivery ∈ deliveries, ¬ delivery.message.Ends := by decide +kernel
  have hrequest : complete.request? = some (.query (.completion url ⟨0, 2⟩)) := by rfl
  have htext : (History.ofDeliveries deliveries).text? url = some "Ge".toList := by decide +kernel
  have hindex : (History.ofDeliveries deliveries).index roots =
      Workspace.buildIndex filled.tree roots .default := by rfl
  have hsettings : (History.ofDeliveries deliveries).settings.addUsing = true := by decide +kernel
  have hline : Document.lineText "Ge".toList 0 = "Ge".toList := by decide +kernel
  have hreply :=
    (answers_of_history emptied .null hroots hopen ⟨emptied, complete⟩).1 url ⟨0, 2⟩ hrequest
  simp only [htext, hindex, hsettings, hline] at hreply
  exact ⟨⟨hroots, hopen⟩, hrequest, htext, hindex, hreply⟩

end Server

end UsingAdvisor
