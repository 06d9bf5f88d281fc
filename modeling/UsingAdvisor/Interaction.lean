import UsingAdvisor.Json
import UsingAdvisor.Workspace

/-!
# Interactions

What the program does with the outside: it reports to a client, asks the client for its settings, and
looks at the files of a workspace. An interaction lists these in order and ends in a result, so what
the program does is a value that can be run against a client and a disk or against a fixed world. Main
statement: `run_bind` (one interaction after another sends what both send, in order).
-/

namespace UsingAdvisor

/-- What the server sends to the client of its own accord. -/
inductive Event where
  /-- A line for the client's log. -/
  | log (message : Text)
  /-- A message that the client shows. -/
  | display (message : Text)
  /-- The question for the client's settings. -/
  | askSettings
  deriving DecidableEq, Repr

/-- A sequence of exchanges with the outside, and a result. -/
inductive Interaction (α : Type) : Type where
  | done (result : α)
  | send (event : Event) (next : Interaction α)
  /-- Ask for the settings. The answer is missing where the client answers with an error. -/
  | ask (next : Option Json → Interaction α)
  /-- Look at the source files below some directories. Whoever provides the tree may leave out the
  content of directories and files that the options leave out. -/
  | look (roots : List FilePath) (options : ScanOptions) (next : FileTree → Interaction α)

namespace Interaction

/-- One interaction after another. -/
def bind {α β : Type} : Interaction α → (α → Interaction β) → Interaction β
  | done result, next => next result
  | send event rest, next => send event (rest.bind next)
  | ask rest, next => ask fun answer => (rest answer).bind next
  | look roots options rest, next => look roots options fun tree => (rest tree).bind next

/-- An interaction with its result changed. -/
def map {α β : Type} (f : α → β) (interaction : Interaction α) : Interaction β :=
  interaction.bind fun result => done (f result)

end Interaction

/-- The outside as it stands while an interaction runs. -/
structure World where
  tree : FileTree
  /-- The client's answer to the question for its settings. -/
  settings : Option Json

/-- What is sent in a world, in order, and the result. -/
def Interaction.run {α : Type} (world : World) : Interaction α → List Event × α
  | done result => ([], result)
  | send event next => (event :: (next.run world).1, (next.run world).2)
  | ask next =>
    let rest := (next world.settings).run world
    (.askSettings :: rest.1, rest.2)
  | look _ _ next => (next world.tree).run world

/-- Running one interaction after another sends what the first sends and then what the second
sends. -/
theorem Interaction.run_bind {α β : Type} (world : World) (first : Interaction α)
    (next : α → Interaction β) :
    (first.bind next).run world =
      ((first.run world).1 ++ ((next (first.run world).2).run world).1,
        ((next (first.run world).2).run world).2) := by
  induction first with
  | done result => simp [bind, run]
  | send event rest ih => simp [bind, run, ih]
  | ask rest ih => simp [bind, run, ih]
  | look roots options rest ih => simp [bind, run, ih]

end UsingAdvisor
