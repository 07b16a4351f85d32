import Tabular.Config.Layer
import Tabular.Files
import Tabular.Input

/-!
# Settings

The settings in force: each is taken from the highest source that gives it, of the
command line, the overlay file, the profile file and the defaults.
-/

set_option autoImplicit false

namespace Tabular.Config

structure CacheSettings where
  enabled : Bool
  maxEntries : Nat
  lifetime : Nat
deriving DecidableEq

structure Settings where
  url : String
  /-- The time a statement may take, in seconds, as are all times here. -/
  statementTimeout : Nat
  busyTimeout : Nat
  cache : CacheSettings
deriving DecidableEq

def CacheSettings.standard : CacheSettings := ⟨false, 256, 300⟩

def Settings.standard : Settings := ⟨"sqlite:megadb.db", 30, 5, .standard⟩

structure Overrides where
  databaseUrl : Option String
  config : Option String
  statementTimeout : Option Nat
  schemaCache : Option Bool
deriving DecidableEq

def Overrides.none : Overrides := ⟨.none, .none, .none, .none⟩

inductive LoadFault where
  | missing (path : String)
  | unreadable (path reason : String)
  | malformed (path problem : String)
  | input (fault : InputFault)
deriving DecidableEq

def LoadFault.chain : LoadFault → List String
  | .missing path => ["Config file not found: " ++ path]
  | .unreadable path reason => ["Failed to read config file: " ++ path, reason]
  | .malformed path problem => ["Failed to parse config file: " ++ path, problem]
  | .input fault => [fault.message]

def settle (given : Overrides) (layer : DatabaseLayer) : Except LoadFault Settings :=
  let default := Settings.standard
  let timeout := (given.statementTimeout <|> layer.statementTimeout).getD default.statementTimeout
  if timeout = 0 then .error (.input .zeroTimeout)
  else .ok
    { url := (given.databaseUrl <|> layer.url).getD default.url
      statementTimeout := timeout
      busyTimeout := layer.busyTimeout.getD default.busyTimeout
      cache :=
        { enabled := (given.schemaCache <|> layer.cache.enabled).getD default.cache.enabled
          maxEntries := layer.cache.maxEntries.getD default.cache.maxEntries
          lifetime := layer.cache.lifetime.getD default.cache.lifetime } }

variable {α : Type}

def fileName : String := "megadb.json"

def profilePath (home : String) : String :=
  String.ofList (Path.join (Path.join home.toList ".megadb".toList) fileName.toList)

def readFile (path : String) : Files.Entry α → Except LoadFault Layer
  | .folder => .error (.unreadable path "Is a directory (os error 21)")
  | .data _ => .error (.unreadable path "stream did not contain valid UTF-8")
  | .text content =>
    match readLayer content.toList with
    | .ok layer => .ok layer
    | .error e => .error (.malformed path (e.message content.toList))

def readIfPresent (files : Files α) (path : String) : Except LoadFault (Option Layer) :=
  match files.find? path with
  | none => .ok none
  | some e => (readFile path e).map some

def readOverlay (files : Files α) : Option String → Except LoadFault (Option Layer)
  | none => readIfPresent files fileName
  | some named =>
    let path := Path.expand files.home named
    match files.find? path with
    | none => .error (.missing path)
    | some e => (readFile path e).map some

def load (files : Files α) (given : Overrides) :
    Except LoadFault (Settings × List (List String)) := do
  let profile ← readIfPresent files (profilePath files.home)
  let overlay ← readOverlay files given.config
  let upper := overlay.getD .empty
  let lower := profile.getD .empty
  let settings ← settle given (upper.database.orElse lower.database)
  .ok (settings, [lower.unknown, upper.unknown].filter fun names => !names.isEmpty)

end Tabular.Config
