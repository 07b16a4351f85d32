import Tabular.CommandLine.Execution
import Tabular.CommandLine.Reading
import Tabular.CommandLine.Variables

/-!
# Outcomes of a command line

One command line is read, its settings are loaded, the database is opened, the
command is executed on it, and the database is closed again.
-/

set_option autoImplicit false

namespace Tabular.CommandLine

structure Outcome where
  exitCode : Nat
  output : String
  error : Option String
deriving DecidableEq

namespace Outcome

def failed (message : String) : Outcome := ⟨1, "", some message⟩

def printed (j : Json) : Outcome := ⟨0, j.toSpread ++ "\n", none⟩

def ofOperation (r : Except AccessError Json) (noted : Option ErrorRecord) : Outcome :=
  match r, noted with
  | .ok j, _ => printed j
  | .error _, some e => failed (e.message ++ " (code " ++ Decimal.showNat e.code ++ ")")
  | .error e, none => failed e.message

def aborted : Outcome := ⟨101, "", none⟩

end Outcome

def openMessage (url : String) : String := "Failed to open database " ++ url

def perform (command : Command) (settings : Config.Settings) (disk : Disk) : Outcome × Disk :=
  match Database.connect disk settings with
  | .error _ => (.failed (openMessage settings.url), disk)
  | .ok (db, disk) =>
    let (r, db) := command.execute db
    (.ofOperation r db.lastError, db.close disk)

def run (disk : Disk) (vars : Variables) (args : List String) : Outcome × Disk :=
  match read (allVariables disk vars) args with
  | .error e => (⟨e.exitCode, "", none⟩, disk)
  | .ok invocation =>
    match Config.load disk invocation.overrides with
    | .error e => (.failed (e.chain.headD ""), disk)
    | .ok (settings, _) => perform invocation.command settings disk

def opened? (disk : Disk) (vars : Variables) (args : List String) :
    Option (Command × Database × Disk) := do
  let invocation ← (read (allVariables disk vars) args).toOption
  let (settings, _) ← (Config.load disk invocation.overrides).toOption
  let (db, disk) ← (Database.connect disk settings).toOption
  some (invocation.command, db, disk)

def runAt (now : Moment) (disk : Disk) (vars : Variables) (args : List String) : Outcome × Disk :=
  match opened? disk vars args with
  | none => run disk vars args
  | some (command, db, left) =>
    if command.execute.abortsAt now db then (.aborted, left) else run disk vars args

end Tabular.CommandLine
