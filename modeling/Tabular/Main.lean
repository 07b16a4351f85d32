import Tabular.CommandLine.Outcome
import Tabular.Sql.Script

/-!
# The program

Reads the files that a command line may need, runs it on them, writes the database
back as a script, and prints the outcome.
-/

set_option autoImplicit false

namespace Tabular.Main

open CommandLine (Variables)

def pathOf (place : Files.Place) : String := "/" ++ "/".intercalate place

def entryAt (place : Files.Place) : IO (Option (Files.Entry Sql.Catalog)) := do
  try
    let content ← IO.FS.readFile (pathOf place)
    match Sql.Script.catalog? content with
    | some c => return some (.data c)
    | none => return some (.text content)
  catch
    | .noFileOrDirectory .. => return none
    | _ => return some .folder

def withPlace (disk : Disk) (place : Files.Place) : IO Disk := do
  let mut disk := disk
  for n in List.range place.length do
    let place := place.take (n + 1)
    if (disk.at? place).isNone then
      match ← entryAt place with
      | some e => disk := disk.put place e
      | none => pure ()
  return disk

def possibleNames (text : String) : List String :=
  let words := text.toList.splitBy fun a b => CommandLine.namePart a == CommandLine.namePart b
  (words.map String.ofList).eraseDups

def withVariables (vars : Variables) (names : List String) : IO Variables := do
  let found ← names.filterMapM fun name => do
    return (← IO.getEnv name).map fun value => (name, value)
  return vars ++ found

def withPaths (disk : Disk) (paths : List String) : IO Disk :=
  paths.foldlM (fun disk path => withPlace disk (disk.placeByText path)) disk

def settingPaths (disk : Disk) (given : Config.Overrides) : List String :=
  let overlay := match given.config with
    | some named => Path.expand disk.home named
    | none => Config.fileName
  [Config.profilePath disk.home, overlay]

def databaseFile? (disk : Disk) (given : Config.Overrides) : Option (String × Bool) :=
  match Config.load disk given with
  | .error _ => none
  | .ok (settings, _) =>
    match Address.target (Address.withScheme settings.url) with
    | .ok ⟨.file path, readOnly, _⟩ => some (path, readOnly)
    | _ => none

def save (disk : Disk) (place : Files.Place) : IO Unit :=
  match disk.at? place with
  | some (.data c) => IO.FS.writeFile (pathOf place) (Sql.Script.ofCatalog c)
  | some (.text "") => IO.FS.writeFile (pathOf place) ""
  | _ => pure ()

def runWithFiles (disk : Disk) (vars : Variables) (args : List String) :
    IO CommandLine.Outcome := do
  let now := Moment.ofMilliseconds (← IO.monoMsNow)
  match CommandLine.read (CommandLine.allVariables disk vars) args with
  | .error e =>
    IO.eprintln e.message
    return (CommandLine.runAt now disk vars args).1
  | .ok invocation =>
    let disk ← withPaths disk (settingPaths disk invocation.overrides)
    match databaseFile? disk invocation.overrides with
    | none => return (CommandLine.runAt now disk vars args).1
    | some (path, readOnly) =>
      let disk ← withPaths disk [path]
      let (outcome, disk) := CommandLine.runAt now disk vars args
      if !readOnly then save disk (disk.placeByText path)
      return outcome

end Tabular.Main

open Tabular Tabular.Main in
def main (args : List String) : IO UInt32 := do
  let home := (← IO.getEnv "HOME").getD ""
  let current := Files.names (toString (← IO.currentDir))
  let folders := (List.range (current.length + 1)).map fun n => current.take n ++ [".env"]
  let disk ← (Files.names home :: folders).foldlM withPlace ⟨home, current, []⟩
  let settings := "HOME" :: CommandLine.settings.map Prod.snd
  let mentioned := (CommandLine.variableFile? disk (current.length + 1) current).getD ""
  let vars ← withVariables [] (settings ++ (possibleNames mentioned).removeAll settings)
  let outcome ← runWithFiles disk vars args
  IO.print outcome.output
  match outcome.error with
  | some e => IO.eprintln ("\nError: " ++ e ++ "\n")
  | none => pure ()
  return outcome.exitCode.toUInt32
