import Tabular.Proofs.OptionReading
import Tabular.Proofs.VariableFiles

/-!
# Where settings come from

Each setting is taken from the highest source that gives it: the options of the command
line, the variables of the environment, the file of variables, the overlay file, the
profile file, and the defaults. A file that is there but cannot be read, a named file that
is not there, and a timeout of zero that would be in force are the only faults.
-/

set_option autoImplicit false

namespace Tabular

def firstGiven {α : Type} (sources : List (Option α)) : Option α := sources.findSome? id

section

variable {α : Type}

theorem firstGiven_nil : firstGiven ([] : List (Option α)) = none := rfl

theorem firstGiven_cons (source : Option α) (rest : List (Option α)) :
    firstGiven (source :: rest) = source.or (firstGiven rest) := by
  cases source <;> rfl

end

namespace CommandLine

/-- The value of a variable that can be read is the one of the environment, or else the one of
the file. -/
theorem first_value {all vars found : Variables} {β : Type}
    (hfound : ∀ name, lookup? all name = (lookup? vars name).or (lookup? found name))
    {cast : Value → Option β} {a : Argument} {name : String} {meaning : String → Option β}
    (hmeaning : ∀ s v, a.read s = .ok v → cast v = meaning s ∧ (cast v).isSome)
    {flag : Option β}
    (hread : flag = none → ∀ s, lookup? all name = some s → ∃ v, a.read s = .ok v) :
    flag.or (valueIn cast a all name) =
      firstGiven [flag, (lookup? vars name).bind meaning,
        (lookup? found name).bind meaning] := by
  rw [firstGiven_cons, firstGiven_cons, firstGiven_cons, firstGiven_nil, Option.or_none]
  cases flag with
  | some x => rfl
  | none =>
    rw [Option.none_or, Option.none_or, valueIn]
    rw [hfound] at hread ⊢
    cases hv : lookup? vars name with
    | some s =>
      rw [hv] at hread
      obtain ⟨v, hs⟩ := hread rfl s rfl
      obtain ⟨hcast, hsome⟩ := hmeaning s v hs
      rw [hcast] at hsome
      obtain ⟨x, hx⟩ := Option.isSome_iff_exists.1 hsome
      simp [hs, Except.toOption, hcast, hx]
    | none =>
      rw [hv, Option.none_or] at hread
      cases hf : lookup? found name with
      | none => rfl
      | some s =>
        obtain ⟨v, hs⟩ := hread rfl s hf
        simp [hs, Except.toOption, (hmeaning s v hs).1]

section

variable {a : Argument} {s : String} {v : Value}

end

end CommandLine

namespace Config

open CommandLine

structure Sources where
  options : Overrides
  environment : Overrides
  variableFile : Overrides

namespace Sources

def named (s : Sources) : Option String :=
  firstGiven [s.options.config, s.environment.config, s.variableFile.config]

def settings (s : Sources) (overlay profile : DatabaseLayer) : Settings where
  url := (firstGiven [s.options.databaseUrl, s.environment.databaseUrl, s.variableFile.databaseUrl,
    overlay.url, profile.url]).getD "sqlite:megadb.db"
  statementTimeout := (firstGiven [s.options.statementTimeout, s.environment.statementTimeout,
    s.variableFile.statementTimeout, overlay.statementTimeout, profile.statementTimeout]).getD 30
  busyTimeout := (firstGiven [overlay.busyTimeout, profile.busyTimeout]).getD 5
  cache :=
    { enabled := (firstGiven [s.options.schemaCache, s.environment.schemaCache,
        s.variableFile.schemaCache, overlay.cache.enabled, profile.cache.enabled]).getD false
      maxEntries := (firstGiven [overlay.cache.maxEntries, profile.cache.maxEntries]).getD 256
      lifetime := (firstGiven [overlay.cache.lifetime, profile.cache.lifetime]).getD 300 }

def overrides (s : Sources) : Overrides where
  databaseUrl := firstGiven [s.options.databaseUrl, s.environment.databaseUrl,
    s.variableFile.databaseUrl]
  config := s.named
  statementTimeout := firstGiven [s.options.statementTimeout, s.environment.statementTimeout,
    s.variableFile.statementTimeout]
  schemaCache := firstGiven [s.options.schemaCache, s.environment.schemaCache,
    s.variableFile.schemaCache]

end Sources

section

variable {α : Type} (files : Files α)

inductive Gives (path : String) : Layer → Prop
  | absent (h : files.find? path = none) : Gives path .empty
  | present {e : Files.Entry α} {layer : Layer} (h : files.find? path = some e)
      (fine : readFile path e = .ok layer) : Gives path layer

inductive Broken (path : String) : LoadFault → Prop
  | present {e : Files.Entry α} {fault : LoadFault} (h : files.find? path = some e)
      (broken : readFile path e = .error fault) : Broken path fault

namespace Sources

def overlayPath (s : Sources) : String :=
  match s.named with
  | some name => Path.expand files.home name
  | none => fileName

def Missing (s : Sources) : Prop := s.named.isSome ∧ files.find? (s.overlayPath files) = none

inductive InForce (s : Sources) : Settings → Prop
  | mk {profile overlay : Layer} (lower : Gives files (profilePath files.home) profile)
      (there : ¬s.Missing files) (upper : Gives files (s.overlayPath files) overlay)
      (timeout : (s.settings overlay.database profile.database).statementTimeout ≠ 0) :
      InForce s (s.settings overlay.database profile.database)

inductive Fails (s : Sources) : LoadFault → Prop
  | profile {e : LoadFault} (broken : Broken files (profilePath files.home) e) : Fails s e
  | missing {profile : Layer} (lower : Gives files (profilePath files.home) profile)
      (missing : s.Missing files) : Fails s (.missing (s.overlayPath files))
  | overlay {profile : Layer} {e : LoadFault}
      (lower : Gives files (profilePath files.home) profile)
      (broken : Broken files (s.overlayPath files) e) : Fails s e
  | timeout {profile overlay : Layer} (lower : Gives files (profilePath files.home) profile)
      (there : ¬s.Missing files) (upper : Gives files (s.overlayPath files) overlay)
      (zero : (s.settings overlay.database profile.database).statementTimeout = 0) :
      Fails s (.input .zeroTimeout)

end Sources

variable {files}

theorem gives_iff {path : String} {layer : Layer} :
    Gives files path layer ↔
      ∃ found, readIfPresent files path = .ok found ∧ found.getD .empty = layer := by
  rw [readIfPresent]
  constructor
  · rintro (habsent | ⟨hpresent, fine⟩)
    · rw [habsent]
      exact ⟨none, rfl, rfl⟩
    · rw [hpresent]
      exact ⟨some layer, congrArg (Except.map some) fine, rfl⟩
  · rintro ⟨found, hread, rfl⟩
    split at hread
    · rename_i habsent
      obtain rfl := Except.ok.inj hread
      exact .absent habsent
    · rename_i e hpresent
      obtain ⟨layer, fine, rfl⟩ := map_eq_ok.1 hread
      exact .present hpresent fine

theorem broken_iff {path : String} {e : LoadFault} :
    Broken files path e ↔ readIfPresent files path = .error e := by
  rw [readIfPresent]
  constructor
  · rintro ⟨hpresent, broken⟩
    rw [hpresent]
    exact congrArg (Except.map some) broken
  · intro hread
    split at hread
    · cases hread
    · rename_i entry hpresent
      exact .present hpresent (eq_error_of_map hread)

theorem Gives.unique {path : String} {layer layer' : Layer} (h : Gives files path layer)
    (h' : Gives files path layer') : layer = layer' := by
  obtain ⟨found, hread, rfl⟩ := gives_iff.1 h
  obtain ⟨found', hread', rfl⟩ := gives_iff.1 h'
  rw [Except.ok.inj (hread.symm.trans hread')]

theorem Gives.not_broken {path : String} {layer : Layer} {e : LoadFault}
    (h : Gives files path layer) : ¬Broken files path e := by
  obtain ⟨found, hread, -⟩ := gives_iff.1 h
  rw [broken_iff, hread]
  nofun

theorem Broken.unique {path : String} {e e' : LoadFault} (h : Broken files path e)
    (h' : Broken files path e') : e = e' := by
  rw [broken_iff] at h h'
  exact Except.error.inj (h.symm.trans h')

namespace Sources

variable {s : Sources} {settings settings' : Settings} {e e' : LoadFault}

theorem Missing.not_broken (h : s.Missing files) : ¬Broken files (s.overlayPath files) e := by
  rintro ⟨hpresent, -⟩
  cases hpresent.symm.trans h.2

theorem InForce.unique (h : s.InForce files settings) (h' : s.InForce files settings') :
    settings = settings' := by
  cases h with
  | mk lower _ upper _ =>
    cases h' with
    | mk lower' _ upper' _ => rw [lower.unique lower', upper.unique upper']

theorem InForce.not_fails (h : s.InForce files settings) : ¬s.Fails files e := by
  intro hfails
  cases h with
  | mk lower there upper timeout =>
    cases hfails with
    | profile broken => exact lower.not_broken broken
    | missing _ missing => exact there missing
    | overlay _ broken => exact upper.not_broken broken
    | timeout lower' _ upper' zero =>
      rw [lower.unique lower', upper.unique upper'] at timeout
      exact timeout zero

/-- A fault excludes those behind it. -/
theorem Fails.unique (h : s.Fails files e) (h' : s.Fails files e') : e = e' := by
  cases h with
  | profile broken =>
    cases h' with
    | profile broken' => exact broken.unique broken'
    | missing lower _ | overlay lower _ | timeout lower _ _ _ =>
      exact (lower.not_broken broken).elim
  | missing lower missing =>
    cases h' with
    | profile broken => exact (lower.not_broken broken).elim
    | missing _ _ => rfl
    | overlay _ broken => exact (missing.not_broken broken).elim
    | timeout _ there _ _ => exact (there missing).elim
  | overlay lower broken =>
    cases h' with
    | profile broken' => exact (lower.not_broken broken').elim
    | missing _ missing => exact (missing.not_broken broken).elim
    | overlay _ broken' => exact broken.unique broken'
    | timeout _ _ upper _ => exact (upper.not_broken broken).elim
  | timeout lower there upper _ =>
    cases h' with
    | profile broken => exact (lower.not_broken broken).elim
    | missing _ missing => exact (there missing).elim
    | overlay _ broken => exact (upper.not_broken broken).elim
    | timeout _ _ _ _ => rfl

end Sources

end

end Config
end Tabular
