import UsingAdvisor.Json.Parser
import UsingAdvisor.Json.Printer
import UsingAdvisor.Program
import UsingAdvisor.Protocol.Framing
import UsingAdvisor.Server

/-!
# Running the program

The program against a real disk and a real client. Everything that is decided is decided elsewhere:
here files are read, bytes are moved, and interactions are carried out one exchange after another.
-/

namespace UsingAdvisor

namespace Disk

/-- The text of a path. Names that are not UTF-8 are not reached. -/
def spell (path : FilePath) : String :=
  String.ofList ((Bytes.toText? path).getD [])

/-- The absolute path that a path leads to, without links and dots. -/
def resolve (path : FilePath) : IO FilePath := do
  return Bytes.ofText (← IO.FS.realPath (spell path)).toString.toList

/-- The sort of what a path names, a link not being followed. -/
def sort? (path : FilePath) : IO (Option IO.FS.FileType) := do
  try return some (← (System.mkFilePath [spell path]).symlinkMetadata).type
  catch _ => return none

/-- The node that a path names, with all below it that the options look at. -/
partial def readNode (options : ScanOptions) (path : FilePath) : IO (Option FileTree.Node) := do
  match ← sort? path with
  | some .dir =>
    let mut entries := []
    for entry in ← (System.mkFilePath [spell path]).readDir do
      let name := Bytes.ofText entry.fileName.toList
      if options.excluded.contains entry.fileName.toList then
        entries := (name, .directory []) :: entries
      else if let some node ← readNode options (FilePath.join path [name]) then
        entries := (name, node) :: entries
    return some (.directory entries)
  | some .file =>
    if FilePath.hasExtension path options.extension then
      return some (.file (← IO.FS.readBinFile (spell path)).toList)
    else return some (.file [])
  | some .symlink => return some (.link (← resolve path))
  | _ => return none

/-- The tree with the links and directories on the way to a path. -/
def addWay (tree : FileTree) (path : FilePath) : IO FileTree := do
  let names := FilePath.steps path
  let front := if FilePath.isAbsolute path then [FilePath.slash] else [FilePath.dot]
  let mut tree := tree
  for count in [1:names.length + 1] do
    let place := FilePath.join front (names.take count)
    match ← sort? place with
    | some .symlink =>
      let above ← resolve (FilePath.join front (names.take (count - 1)))
      let name := (names.take count).getLast?.toList
      tree := tree.write (FilePath.join above name) (.link (← resolve place))
    | some .dir => tree := tree.makeDirectory (← resolve place)
    | _ => pure ()
  return tree

/-- The part of the file system that the roots lead to. Outer roots are read before inner ones, so
that an inner root is there even if it lies in a directory that is left out. -/
def snapshot (roots : List FilePath) (options : ScanOptions) : IO FileTree := do
  let here := (FilePath.parts (← resolve [FilePath.dot])).filter (· != [])
  let mut tree := FileTree.bare here
  let mut places := []
  for root in roots do
    try
      places := (← resolve root) :: places
      tree ← addWay tree root
    catch _ => pure ()
  for place in places.mergeSort fun first second => first.length ≤ second.length do
    if let some node ← readNode options place then
      tree := tree.write place node
  return tree

end Disk

/-- A connection to a client. -/
structure Connection where
  input : IO.FS.Stream
  output : IO.FS.Stream
  /-- The messages that arrived while an answer was awaited, in order. -/
  waiting : IO.Ref (List Message)

namespace Connection

/-- Send a message. -/
def send (connection : Connection) (message : Json) : IO Unit := do
  connection.output.write ⟨(Protocol.frame message.compact).toArray⟩
  connection.output.flush

/-- Read a header, and nothing at the end of the input. -/
partial def readHeader? (connection : Connection) (length : Nat) : IO (Option Nat) := do
  let line ← connection.input.getLine
  if line.isEmpty then return none
  match Protocol.HeaderLine.ofText line.toList with
  | .length bytes => readHeader? connection bytes
  | .other => readHeader? connection length
  | .blank => return some length

/-- Read a number of bytes, and fewer at the end of the input. -/
partial def readBytes (connection : Connection) (count : Nat) : IO Bytes := do
  if count = 0 then return []
  let bytes := (← connection.input.read count.toUSize).toList
  if bytes.isEmpty then return []
  return bytes ++ (← readBytes connection (count - bytes.length))

/-- Read what the client sends next, and nothing at the end of the input. What is no message is
refused and passed over. -/
partial def read? (connection : Connection) : IO (Option Incoming) := do
  let some length ← connection.readHeader? 0 | return none
  let body ← connection.readBytes length
  match (Bytes.toText? body).bind Json.parse? with
  | none =>
    connection.send (Protocol.reply .null (.error .notJson))
    read? connection
  | some value =>
    match Protocol.readIncoming? value with
    | some incoming => return some incoming
    | none =>
      connection.send (Protocol.reply .null (.error .invalidRequest))
      read? connection

/-- The next message, those that had to wait first. -/
partial def nextMessage? (connection : Connection) : IO (Option Message) := do
  match ← connection.waiting.get with
  | message :: rest =>
    connection.waiting.set rest
    return some message
  | [] =>
    match ← connection.read? with
    | none => return none
    | some (.message message) => return some message
    | some (.answer _ _) => nextMessage? connection

/-- The identifier of the question for the settings. One question is open at a time. -/
def settingsQuestion : Identifier :=
  .number 0

/-- The answer to the question for the settings. Messages that come before it have to wait. -/
partial def awaitSettings (connection : Connection) : IO (Option Json) := do
  match ← connection.read? with
  | none => return none
  | some (.message message) =>
    connection.waiting.modify (· ++ [message])
    awaitSettings connection
  | some (.answer _ result) => return result

/-- Carry out an interaction with the client and the disk. -/
def carryOut {α : Type} (connection : Connection) : Interaction α → IO α
  | .done result => return result
  | .send event next => do
    connection.send (Protocol.notice event.method event.params)
    connection.carryOut next
  | .ask next => do
    connection.send
      (Protocol.question settingsQuestion Event.askSettings.method Event.askSettings.params)
    connection.carryOut (next (← connection.awaitSettings))
  | .look roots options next => do
    connection.carryOut (next (← Disk.snapshot roots options))

/-- Serve the client until it leaves. -/
partial def serve (connection : Connection) (server : Server) : IO Unit := do
  if server.phase = .exited then return
  let some message ← connection.nextMessage? | return
  let (server, reply) ← connection.carryOut (server.receive message)
  if let (some id, some reply) := (message.id, reply) then
    connection.send (Protocol.reply id reply)
  serve connection server

end Connection

end UsingAdvisor

open UsingAdvisor in
/-- Run the program with its arguments. -/
def main (arguments : List String) : IO UInt32 := do
  let connection : Connection := ⟨← IO.getStdin, ← IO.getStdout, ← IO.mkRef []⟩
  match ← connection.carryOut (Program.start (arguments.map String.toList)) with
  | .finished output errors code =>
    (← IO.getStdout).putStr (String.ofList output)
    (← IO.getStderr).putStr (String.ofList errors)
    return code.toUInt32
  | .serving =>
    connection.serve .initial
    return 0
