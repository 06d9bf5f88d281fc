import UsingAdvisor.Json.Record
import UsingAdvisor.Workspace

/-!
# Settings

What a client may set. A section of settings is a record, in which every value may be left out. A
section with a value of the wrong kind is refused as a whole. Main statement:
`overlay_null` (a null section changes nothing).
-/

namespace UsingAdvisor

/-- A section of settings, as far as it gives any. -/
structure SettingsSection where
  excluded : Option (List Text)
  concurrentReads : Option Nat
  reindexOnSave : Option Bool
  addUsing : Option Bool
  deriving DecidableEq, Repr

namespace SettingsSection

/-- The setting for completions, which stands in a record of its own. A null is none. -/
def readCompletion? (value : Json) : Option (Option Bool) :=
  match value.field? "completion" with
  | none => some none
  | some completion => do (← completion.named? ["addUsing"] 0).givenAs? Json.toBool? "addUsing"

/-- The section that a value gives. -/
def read? (value : Json) : Option SettingsSection := do
  let value ← value.named? ["exclude", "maxConcurrentReads", "reindexOnSave", "completion"] 0
  return {
    excluded := ← value.givenAs? (Json.toListOf? Json.toText?) "exclude"
    concurrentReads := ← value.givenAs? Json.toNat? "maxConcurrentReads"
    reindexOnSave := ← value.givenAs? Json.toBool? "reindexOnSave"
    addUsing := ← readCompletion? value }

end SettingsSection

/-- The settings in force. -/
structure Settings where
  scan : ScanOptions
  /-- Whether saving a source file rebuilds the index. -/
  reindexOnSave : Bool
  /-- Whether completions carry the edit that imports their namespace. -/
  addUsing : Bool
  deriving DecidableEq, Repr

namespace Settings

/-- The settings before a client gives any. -/
def default : Settings where
  scan := .default
  reindexOnSave := false
  addUsing := true

/-- The settings after a section. What is excluded and the number of reads stay where the section does
not give them, and zero reads are not a number of reads; the two switches go back to their defaults. -/
def accept (settings : Settings) (given : SettingsSection) : Settings where
  scan :=
    { settings.scan with
      excluded := given.excluded.getD settings.scan.excluded
      concurrentReads :=
        match given.concurrentReads with
        | none => settings.scan.concurrentReads
        | some 0 => settings.scan.concurrentReads
        | some (n + 1) => n + 1 }
  reindexOnSave := given.reindexOnSave.getD false
  addUsing := given.addUsing.getD true

/-- The settings after a section in its written form, and nothing if it is refused. A null is a
section that gives nothing and changes nothing. -/
def overlay? (settings : Settings) : Json → Option Settings
  | .null => some settings
  | value => (SettingsSection.read? value).map settings.accept

/-- The settings after a section in its written form. One that is refused changes nothing. -/
def overlay (settings : Settings) (given : Json) : Settings :=
  (settings.overlay? given).getD settings

/-- A null section changes nothing. -/
@[simp]
theorem overlay_null (settings : Settings) : settings.overlay .null = settings :=
  rfl

end Settings

/-- Whether the arguments of the reindex command ask for a message about the result. Only the first
argument is looked at, and one of the wrong kind asks for nothing. -/
def asksForOutput (arguments : List Json) : Bool :=
  match arguments with
  | [] => false
  | argument :: _ =>
    let shown? : Option (Option Bool) := do
      (← argument.named? ["showOutput"] 0).givenAs? Json.toBool? "showOutput"
    (shown?.bind id).getD false

end UsingAdvisor
