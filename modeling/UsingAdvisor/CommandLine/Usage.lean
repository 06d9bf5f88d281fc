import UsingAdvisor.Text.Terminal

/-!
# Usage

The help texts of the program, and what it says about arguments that it does not understand. An
argument is quoted as a terminal would show it.
-/

namespace UsingAdvisor.CommandLine

/-- What a help text is about. -/
inductive Topic where
  | program
  | index
  | help
  deriving DecidableEq, Repr

/-- The lines of a help text. -/
def Topic.lines : Topic → List String
  | program => [
    "Language server offering C# type completion and missing `using` fixes",
    "",
    "Usage: autousing-lsp [OPTIONS] [COMMAND]",
    "",
    "Commands:",
    "  index  Scan directories and print the symbol index",
    "  help   Print this message or the help of the given subcommand(s)",
    "",
    "Options:",
    "      --stdio    Communicate over stdio (the default transport)",
    "  -h, --help     Print help",
    "  -V, --version  Print version"]
  | index => [
    "Scan directories and print the symbol index",
    "",
    "Usage: autousing-lsp index [OPTIONS] <ROOTS>...",
    "",
    "Arguments:",
    "  <ROOTS>...  Workspace directories to scan",
    "",
    "Options:",
    "      --json               Emit JSON instead of a table",
    "      --exclude <EXCLUDE>  Directory names to skip (repeatable; replaces the defaults)",
    "  -h, --help               Print help"]
  | help => [
    "Print this message or the help of the given subcommand(s)",
    "",
    "Usage: autousing-lsp help [COMMAND]...",
    "",
    "Arguments:",
    "  [COMMAND]...  Print help for the subcommand(s)"]

/-- A help text, each line ended by a line feed. -/
def Topic.text (topic : Topic) : Text :=
  topic.lines.flatMap fun line => line.toList ++ ['\n']

/-- What the program says about its version. -/
def versionText : Text :=
  "autousing-lsp 0.1.0\n".toList

/-- Why the arguments start nothing. Asking for help or for the version is among the reasons. -/
inductive Stop where
  | helpAsked (topic : Topic)
  | versionAsked
  /-- An option that is not known, or a command name where no command can stand. -/
  | unknownArgument (argument : Text)
  | unknownCommand (name : Text)
  /-- An argument that needs a value has none, or an empty one that it does not take. -/
  | missingValue (argument : Text)
  /-- No directory to index is given. -/
  | missingRoots
  | repeated (option : Text)
  /-- A switch was given a value. -/
  | unwantedValue (option value : Text)
  deriving DecidableEq, Repr

namespace Stop

/-- Whether the user got what was asked for. -/
def isDisplay : Stop → Bool
  | helpAsked _ => true
  | versionAsked => true
  | _ => false

/-- An argument in quotation marks, as a terminal would show it. -/
def quote (argument : Text) : Text :=
  '\'' :: (Text.withoutSequences argument ++ ['\''])

/-- The text that was asked for, or the first line of what is said about the mistake. -/
def message : Stop → Text
  | helpAsked topic => topic.text
  | versionAsked => versionText
  | unknownArgument argument =>
    "error: unexpected argument ".toList ++ (quote argument ++ " found".toList)
  | unknownCommand name => "error: unrecognized subcommand ".toList ++ quote name
  | missingValue argument =>
    "error: a value is required for ".toList ++ (quote argument ++ " but none was supplied".toList)
  | missingRoots => "error: the following required arguments were not provided:".toList
  | repeated option =>
    "error: the argument ".toList ++ (quote option ++ " cannot be used multiple times".toList)
  | unwantedValue option value =>
    "error: unexpected value ".toList ++ (quote value ++ (" for ".toList ++
      (quote option ++ " found; no more were expected".toList)))

end Stop

end UsingAdvisor.CommandLine
