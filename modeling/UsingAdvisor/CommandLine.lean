import UsingAdvisor.CommandLine.Usage

/-!
# The command line

What the arguments of the program ask for. Without a command the program serves a client; the command
`index` lists the symbols below some directories. Arguments are read from left to right and the first
mistake ends the reading, except that a value which is still missing, or an empty directory, is only
complained about when the next option or the end shows that nothing more belongs to it.
-/

namespace UsingAdvisor

/-- The command that lists the symbols below directories. -/
structure IndexCommand where
  roots : List Text
  /-- Whether the listing is JSON. -/
  json : Bool
  /-- The directory names to skip. None given stands for the usual ones. -/
  excluded : List Text
  deriving DecidableEq, Repr

/-- What the arguments ask for. -/
structure CommandLine where
  /-- Whether the usual way to talk to a client was asked for by name. -/
  stdio : Bool
  command : Option IndexCommand
  deriving DecidableEq, Repr

namespace CommandLine

/-- What an argument looks like. -/
inductive Shape where
  /-- Two dashes alone: what follows are no options. -/
  | separator
  /-- A long option, and its value where an equals sign attaches one. -/
  | long (name : Text) (value : Option Text)
  /-- The first letter of a group of short options. -/
  | short (letter : Char)
  | word
  deriving DecidableEq, Repr

/-- What an argument looks like. A dash alone is a word. -/
def Shape.ofArgument : Text → Shape
  | ['-', '-'] => separator
  | '-' :: '-' :: option =>
    match option.dropWhile (· != '=') with
    | [] => long option none
    | _ :: value => long (option.takeWhile (· != '=')) (some value)
  | '-' :: letter :: _ => short letter
  | _ => word

/-- A long option as it is spelled. -/
def spell (name : Text) : Text :=
  '-' :: '-' :: name

/-- What the option that asks for help does, given the value attached to it. -/
def askHelp (topic : Topic) : Option Text → Stop
  | none => .helpAsked topic
  | some value => .unwantedValue "--help".toList value

/-! ### The index command -/

/-- How far the arguments of the index command are read. -/
structure IndexState where
  /-- The directories that are settled. -/
  roots : List Text
  /-- The directories since the last option, which may still hold an empty one. -/
  recent : List Text
  json : Bool
  excluded : List Text
  /-- Whether the option to skip a name still waits for the name. -/
  waiting : Bool

namespace IndexState

/-- The state before the first argument. -/
def start : IndexState :=
  ⟨[], [], false, [], false⟩

/-- Settle what was read since the last option. -/
def settle (state : IndexState) : Except Stop IndexState :=
  if state.waiting then .error (.missingValue "--exclude <EXCLUDE>".toList)
  else if state.recent.contains [] then .error (.missingValue "<ROOTS>...".toList)
  else .ok { state with roots := state.roots ++ state.recent, recent := [] }

/-- Take a directory. -/
def addRoot (state : IndexState) (root : Text) : IndexState :=
  { state with recent := state.recent ++ [root] }

/-- Take a word, which is the value of a waiting option or else a directory. -/
def addWord (state : IndexState) (word : Text) : IndexState :=
  if state.waiting then { state with excluded := state.excluded ++ [word], waiting := false }
  else state.addRoot word

/-- Take a long option. -/
def addLong (state : IndexState) (name : Text) (value : Option Text) :
    Except Stop IndexState :=
  match String.ofList name, value with
  | "json", none => do
    let state ← state.settle
    if state.json then throw (.repeated (spell name))
    return { state with json := true }
  | "json", some value => .error (.unwantedValue (spell name) value)
  | "exclude", none => do
    let state ← state.settle
    return { state with waiting := true }
  | "exclude", some value => do
    let state ← state.settle
    return { state with excluded := state.excluded ++ [value] }
  | "help", none => do
    let _ ← state.settle
    throw (askHelp .index none)
  | "help", some value => .error (askHelp .index (some value))
  | _, _ => .error (.unknownArgument (spell name))

/-- Take the first letter of a group of short options. -/
def addShort (state : IndexState) (letter : Char) : Except Stop IndexState :=
  if letter = 'h' then do
    let _ ← state.settle
    throw (.helpAsked .index)
  else .error (.unknownArgument ['-', letter])

/-- Take an argument that stands after two dashes. -/
def addPlain (state : IndexState) (argument : Text) : Except Stop IndexState :=
  if state.waiting then state.settle else .ok (state.addRoot argument)

/-- Read the arguments of the index command. `plain` tells that they stand after two dashes. -/
def read (state : IndexState) (plain : Bool) : List Text → Except Stop IndexState
  | [] => state.settle
  | argument :: rest =>
    if plain then do (← state.addPlain argument).read true rest
    else match Shape.ofArgument argument with
      | .separator => state.read true rest
      | .long name value => do (← state.addLong name value).read false rest
      | .short letter => do (← state.addShort letter).read false rest
      | .word => (state.addWord argument).read false rest

end IndexState

/-- The index command that arguments give. -/
def readIndex (arguments : List Text) : Except Stop IndexCommand := do
  let state ← IndexState.start.read false arguments
  if state.roots = [] then throw .missingRoots
  return ⟨state.roots, state.json, state.excluded⟩

/-! ### The program -/

/-- What the command `help` shows about the command that its arguments name. -/
def readHelp : List Text → Stop
  | [] => .helpAsked .program
  | name :: rest =>
    match String.ofList name, rest with
    | "index", [] => .helpAsked .index
    | "help", [] => .helpAsked .help
    | "index", next :: _ => .unknownCommand next
    | "help", next :: _ => .unknownCommand next
    | _, _ => .unknownCommand name

/-- What is said about the first argument after two dashes, where no command can stand. -/
def refusePlain (argument : Text) : Stop :=
  match String.ofList argument with
  | "index" => .unknownArgument argument
  | "help" => .unknownArgument argument
  | _ => .unknownCommand argument

/-- Read the arguments of the program. -/
def read (stdio : Bool) : List Text → Except Stop CommandLine
  | [] => .ok ⟨stdio, none⟩
  | argument :: rest =>
    match Shape.ofArgument argument with
    | .separator =>
      match rest with
      | [] => .ok ⟨stdio, none⟩
      | next :: _ => .error (refusePlain next)
    | .long name value =>
      match String.ofList name, value with
      | "stdio", none =>
        if stdio then .error (.repeated (spell name)) else read true rest
      | "help", none => .error (askHelp .program none)
      | "version", none => .error .versionAsked
      | "stdio", some value => .error (.unwantedValue (spell name) value)
      | "help", some value => .error (askHelp .program (some value))
      | "version", some value => .error (.unwantedValue (spell name) value)
      | _, _ => .error (.unknownArgument (spell name))
    | .short letter =>
      if letter = 'h' then .error (.helpAsked .program)
      else if letter = 'V' then .error .versionAsked
      else .error (.unknownArgument ['-', letter])
    | .word =>
      match String.ofList argument with
      | "index" => do return ⟨stdio, some (← readIndex rest)⟩
      | "help" => .error (readHelp rest)
      | _ => .error (.unknownCommand argument)

/-- What the arguments of the program ask for, or why they start nothing. -/
def parse (arguments : List Text) : Except Stop CommandLine :=
  read false arguments

end CommandLine

end UsingAdvisor
