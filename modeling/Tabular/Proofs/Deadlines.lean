import Tabular.CommandLine.Outcome
import Tabular.Proofs.LatestError
import Tabular.Proofs.OperationRuns
import Tabular.Proofs.WholeNumbers

/-!
# Deadlines

The time of a statement is judged where it is given, where the settings are put together and
where a database is opened, and each time only zero is refused. The deadline is settled when
the statement begins, and a clock can show no more seconds than a word with a sign holds. So
a time that was let through aborts the program where the two together pass that bound.
-/

set_option autoImplicit false

namespace Tabular

namespace Moment

def total (m : Moment) : Int := 1000000000 * m.seconds.toInt + m.nanoseconds

def Overshoots (now : Moment) (seconds : Nat) : Prop :=
  Decimal.mostInt < now.seconds.toInt + seconds

variable {now m m' : Moment}

theorem total_inj (h : m.total = m'.total) : m = m' := by
  obtain ⟨seconds, nanoseconds, within⟩ := m
  obtain ⟨seconds', nanoseconds', within'⟩ := m'
  simp only [total] at h
  simp only [perSecond] at within within'
  have hseconds : seconds.toInt = seconds'.toInt := by omega
  have hnanoseconds : nanoseconds = nanoseconds' := by omega
  obtain rfl := Int64.toInt_inj.1 hseconds
  obtain rfl := hnanoseconds
  rfl

/-- A later moment is exactly so much later, and is missing only where there is none. -/
theorem later?_eq_some {milliseconds : Nat} :
    now.later? milliseconds = some m ↔ m.total = now.total + 1000000 * milliseconds := by
  have hleast := now.seconds.le_toInt
  have hmost : m.seconds.toInt ≤ 2 ^ 63 - 1 := m.seconds.toInt_le
  have hwithin : m.nanoseconds < 1000000000 := m.within
  unfold later?
  extract_lets nanoseconds seconds
  -- what is carried into the seconds is what the nanoseconds lose
  have hsum : 1000000000 * seconds + (nanoseconds % perSecond : Nat) =
      now.total + 1000000 * milliseconds := by
    simp only [seconds, nanoseconds, perSecond, total]
    omega
  have hleast' : -2 ^ 63 ≤ seconds := by
    simp only [seconds, nanoseconds, perSecond]
    omega
  by_cases hshown : seconds ≤ Decimal.mostInt
  · have hback : (Int64.ofInt seconds).toInt = seconds :=
      Decimal.Fits.toInt_ofInt ⟨hleast', hshown⟩
    rw [if_pos hshown, Option.some.injEq, ← hsum]
    constructor
    · rintro rfl
      rw [total, hback]
    · intro h
      apply total_inj
      rw [h, total, hback]
  · rw [if_neg hshown, ← hsum, total]
    simp only [Decimal.mostInt, perSecond] at hshown ⊢
    simp only [reduceCtorEq, false_iff]
    omega

/-- Whole seconds are added to the seconds alone. -/
theorem later?_isNone {seconds : Nat} :
    (now.later? (1000 * seconds)).isNone = true ↔ now.Overshoots seconds := by
  have hwithin : now.nanoseconds < 1000000000 := now.within
  unfold later?
  extract_lets nanoseconds sum
  have hsum : sum = now.seconds.toInt + seconds := by
    simp only [sum, nanoseconds, perSecond]
    omega
  rw [hsum, Overshoots]
  split
  · rename_i hshown
    simpa using hshown
  · rename_i hover
    simpa using hover

end Moment

/-- An option takes any numeral of a time that a word can hold, but zero. -/
theorem CommandLine.Argument.readTimeout_ok {a : CommandLine.Argument} {text : String} {i : Int} :
    a.readTimeout text = .ok i ↔
      Decimal.Numeral (Text.trim text.toList) i ∧ 0 < i ∧ i ≤ Decimal.mostWord := by
  rw [readTimeout]
  generalize Text.trim text.toList = s
  have hread (k : Int) : Decimal.whole 0 Decimal.mostWord s = .ok k ↔
      Decimal.Numeral s k ∧ s.head? ≠ some '-' ∧ k ≤ Decimal.mostWord :=
    Decimal.whole_zero_ok (by decide)
  cases hwhole : Decimal.whole 0 Decimal.mostWord s with
  | ok k =>
    obtain ⟨hk, hs, hle⟩ := (hread k).1 hwhole
    have hnonneg := hk.nonneg hs
    by_cases hzero : k = 0
    · simp only [hzero, if_true, reduceCtorEq, false_iff]
      rintro ⟨hi, hpos, -⟩
      have hsame := hi.unique hk
      omega
    · simp only [hzero, if_false, Except.ok.injEq]
      constructor
      · rintro rfl
        exact ⟨hk, by omega, hle⟩
      · rintro ⟨hi, -⟩
        exact hk.unique hi
  | error e =>
    simp only [reduceCtorEq, false_iff]
    rintro ⟨hi, hpos, hle⟩
    cases hwhole.symm.trans ((hread i).2 ⟨hi, hi.unsigned hpos, hle⟩)

namespace Config

variable {α : Type} {files : Files α} {given : Overrides} {settings : Settings}
  {unknown : List (List String)}

/-- Whatever gave the time before, a time that is given instead is in force unless it is zero. -/
theorem load_timed (h : load files given = .ok (settings, unknown)) (seconds : Nat) :
    load files { given with statementTimeout := some seconds } =
      if seconds = 0 then .error (.input .zeroTimeout)
      else .ok ({ settings with statementTimeout := seconds }, unknown) := by
  rw [load] at h
  obtain ⟨profile, hprofile, h⟩ := bind_eq_ok.1 h
  obtain ⟨overlay, hoverlay, h⟩ := bind_eq_ok.1 h
  obtain ⟨settled, hsettle, h⟩ := bind_eq_ok.1 h
  obtain ⟨rfl, rfl⟩ := Prod.mk.inj (Except.ok.inj h)
  rw [settle] at hsettle
  rw [load, hprofile]
  simp only [bind, Except.bind, hoverlay]
  split at hsettle
  · cases hsettle
  · obtain rfl := Except.ok.inj hsettle
    by_cases hzero : seconds = 0 <;> simp [settle, hzero]

end Config

/-- Every outcome of a program that is not aborted has one of three exit codes. -/
theorem CommandLine.exitCode_run (disk : Disk) (vars : Variables) (args : List String) :
    (CommandLine.run disk vars args).1.exitCode ≤ 2 := by
  have hoperation (r : Except AccessError Json) (noted : Option ErrorRecord) :
      (Outcome.ofOperation r noted).exitCode ≤ 2 := by
    cases r with
    | ok j => exact Nat.zero_le _
    | error e => cases noted <;> exact Nat.le_succ 1
  rw [run]
  split
  · rename_i e _
    cases e <;> simp [CommandFault.exitCode]
  · split
    · exact Nat.le_succ 1
    · rw [perform]
      split
      · exact Nat.le_succ 1
      · exact hoperation _ _

namespace Database

def timed (d : Database) (seconds : Nat) : Database :=
  { d with store := { d.store with timeout := 1000 * seconds } }

variable {disk disk' : Disk} {settings : Config.Settings} {d : Database}

theorem connect_timed (h : connect disk settings = .ok (d, disk')) (seconds : Nat) :
    connect disk { settings with statementTimeout := seconds } =
      if seconds = 0 then .error (.invalidInput .zeroTimeout)
      else .ok (d.timed seconds, disk') := by
  rw [connect] at h ⊢
  split at h
  · cases h
  · obtain ⟨target, htarget, h⟩ := bind_eq_ok.1 h
    by_cases hzero : seconds = 0
    · simp [hzero]
    · simp only [hzero, if_false, htarget, bind, Except.bind]
      cases hsystem : target.unknownSystem? with
      | some system =>
        rw [hsystem] at h
        cases h
      | none =>
        cases hplace : target.place with
        | memory =>
          simp only [hsystem, hplace] at h
          obtain ⟨rfl, rfl⟩ := Prod.mk.inj (Except.ok.inj h)
          simp only [timed, Store.ofConnection]
        | file path =>
          simp only [hsystem, hplace] at h
          obtain ⟨opened, hopen, h⟩ := bind_eq_ok.1 h
          obtain ⟨rfl, rfl⟩ := Prod.mk.inj (Except.ok.inj h)
          simp only [hopen, timed, Store.ofConnection]

theorem timeout_opened (h : connect disk settings = .ok (d, disk')) :
    0 < settings.statementTimeout ∧ d.store.timeout = 1000 * settings.statementTimeout := by
  have hself := connect_timed h settings.statementTimeout
  rw [h] at hself
  split at hself
  · cases hself
  · rename_i hzero
    obtain ⟨hd, -⟩ := Prod.mk.inj (Except.ok.inj hself)
    exact ⟨Nat.pos_of_ne_zero hzero, congrArg (fun d => d.store.timeout) hd⟩

/-- Each place that judges the time of a statement lets all through but zero, as far as it can
be read; what is let through is in force. -/
structure Judged (disk disk' : Disk) (settings : Config.Settings) (d : Database) : Prop where
  option : ∀ (a : CommandLine.Argument) (text : String) (i : Int), a.readTimeout text = .ok i ↔
    Decimal.Numeral (Text.trim text.toList) i ∧ 0 < i ∧ i ≤ Decimal.mostWord
  loaded : ∀ given unknown seconds, Config.load disk given = .ok (settings, unknown) →
    (Config.load disk { given with statementTimeout := some seconds } =
      .ok ({ settings with statementTimeout := seconds }, unknown) ↔ 0 < seconds)
  opened : ∀ seconds, connect disk { settings with statementTimeout := seconds } =
    .ok (d.timed seconds, disk') ↔ 0 < seconds

theorem judged (h : connect disk settings = .ok (d, disk')) : Judged disk disk' settings d := by
  refine ⟨fun _ _ _ => CommandLine.Argument.readTimeout_ok, ?_, ?_⟩
  · intro given unknown seconds hload
    rw [Config.load_timed hload]
    split
    · simp [*]
    · simp [Nat.pos_of_ne_zero, *]
  · intro seconds
    rw [connect_timed h]
    split
    · simp [*]
    · simp [Nat.pos_of_ne_zero, *]

structure Timed (d : Database) (seconds : Nat) : Prop where
  deadline : ∀ now m, d.store.deadline? now = some m ↔
    m.total = now.total + 1000000000 * seconds
  run : ∀ now statement r, d.store.runAt now statement = some r ↔
    ¬now.Overshoots seconds ∧ r = d.store.run statement
  upTo : ∀ latest : Int64, (∀ now statement, now.seconds ≤ latest →
    (d.store.runAt now statement).isSome) ↔ latest.toInt + seconds ≤ Decimal.mostInt
  operation : ∀ now (s : Step) r, s.run.startedAt now d = some r ↔
    ¬(now.Overshoots seconds ∧ s.Begins d) ∧ r = s.run d

section

variable {seconds : Nat}

theorem overshoots_iff (h : d.store.timeout = 1000 * seconds) (now : Moment) :
    (d.store.deadline? now).isNone = true ↔ now.Overshoots seconds := by
  rw [Store.deadline?, h]
  exact Moment.later?_isNone

theorem runAt_eq_some (h : d.store.timeout = 1000 * seconds) (now : Moment) (statement : Statement)
    (r : Except AccessError Answer × Store) :
    d.store.runAt now statement = some r ↔
      ¬now.Overshoots seconds ∧ r = d.store.run statement := by
  rw [← overshoots_iff h, Store.runAt]
  cases d.store.deadline? now with
  | none => simp
  | some m => simp [eq_comm]

theorem abortsAt_step (h : d.store.timeout = 1000 * seconds) (now : Moment) (s : Step) :
    s.run.abortsAt now d = true ↔ now.Overshoots seconds ∧ s.Begins d := by
  rw [Operation.abortsAt, Bool.and_eq_true, overshoots_iff h, s.asks_iff]

theorem abortsAt_command (h : d.store.timeout = 1000 * seconds) (now : Moment)
    (command : Command) :
    command.execute.abortsAt now d = true ↔ now.Overshoots seconds ∧ command.Begins d := by
  rw [Operation.abortsAt, Bool.and_eq_true, overshoots_iff h, command.asks_iff]

theorem timed_of_timeout (h : d.store.timeout = 1000 * seconds) : Timed d seconds := by
  constructor
  · intro now m
    rw [Store.deadline?, h, Moment.later?_eq_some]
    push_cast
    rw [← mul_assoc]
    rfl
  · exact runAt_eq_some h
  · intro latest
    have hsome (now : Moment) (statement : Statement) :
        (d.store.runAt now statement).isSome ↔ ¬now.Overshoots seconds := by
      rw [Option.isSome_iff_exists]
      simp [runAt_eq_some h]
    simp only [hsome, Moment.Overshoots, Int.not_lt]
    constructor
    · intro hall
      exact hall ⟨latest, 0, by decide⟩ (.ofText "") (Int64.le_refl latest)
    · intro hleft now _ hnow
      have hle := Int64.le_iff_toInt_le.1 hnow
      omega
  · intro now s r
    rw [← abortsAt_step h, Operation.startedAt]
    split
    · simp [*]
    · simp [*, eq_comm]

end

theorem timeout_afterUses (uses : List Use) (d : Database) :
    (afterUses uses d).store.timeout = d.store.timeout := by
  induction uses using List.reverseRecOn with
  | nil => rfl
  | append_singleton before u ih =>
    rw [afterUses_concat, ← ih]
    cases u with
    | step s => exact s.timeout_run _
    | clear => rfl

theorem runAt_opened {vars : CommandLine.Variables} {args : List String} {invocation : Invocation}
    {unknown : List (List String)}
    (hread : CommandLine.read (CommandLine.allVariables disk vars) args = .ok invocation)
    (hload : Config.load disk invocation.overrides = .ok (settings, unknown))
    (h : connect disk settings = .ok (d, disk')) (now : Moment) :
    CommandLine.runAt now disk vars args =
      if invocation.command.execute.abortsAt now d then (.aborted, disk')
      else CommandLine.run disk vars args := by
  have hopened : CommandLine.opened? disk vars args = some (invocation.command, d, disk') := by
    rw [CommandLine.opened?, hread]
    simp only [Except.toOption, bind, Option.bind, hload, h]
  rw [CommandLine.runAt, hopened]

/-- The time of a statement that is in force is at least one second, and nothing else is asked
of it. After any uses of an opened database each statement begins with a deadline that lies so
many seconds ahead. Where there is no such moment the statement does not run and the program is
aborted, and a command leaves nothing but the file of the database. -/
theorem deadline_shown_iff (h : connect disk settings = .ok (d, disk')) :
    0 < settings.statementTimeout ∧ Judged disk disk' settings d ∧
    (∀ uses, Timed (afterUses uses d) settings.statementTimeout) ∧
    ∀ vars args invocation unknown,
      CommandLine.read (CommandLine.allVariables disk vars) args = .ok invocation →
      Config.load disk invocation.overrides = .ok (settings, unknown) →
      ∀ now, (CommandLine.runAt now disk vars args = (.aborted, disk') ↔
          now.Overshoots settings.statementTimeout ∧ invocation.command.Begins d) ∧
        (CommandLine.runAt now disk vars args = (.aborted, disk') ∨
          CommandLine.runAt now disk vars args = CommandLine.run disk vars args) := by
  obtain ⟨hpositive, htimeout⟩ := timeout_opened h
  refine ⟨hpositive, judged h, ?_, ?_⟩
  · intro uses
    exact timed_of_timeout ((timeout_afterUses uses d).trans htimeout)
  · intro vars args invocation unknown hread hload now
    -- no run of the program ends with the exit code of an aborted one
    have hrun : CommandLine.run disk vars args ≠ (.aborted, disk') := fun heq => by
      have hcode := CommandLine.exitCode_run disk vars args
      rw [heq] at hcode
      simp [CommandLine.Outcome.aborted] at hcode
    rw [runAt_opened hread hload h, ← abortsAt_command htimeout]
    split
    · simp [*]
    · simp [*]

def lastChance : Moment := ⟨9223372036854775777, 0, by decide⟩

def tooLate : Moment := ⟨9223372036854775778, 0, by decide⟩

theorem deadline_shown_iff_memory :
    connect noFiles memorySettings = .ok (inMemory, noFiles) ∧
    (∀ uses, 9223372036854775777 + memorySettings.statementTimeout ≤ Decimal.mostInt ∧
      ((afterUses uses inMemory).store.runAt lastChance (.ofText "SELECT 1")).isSome ∧
      (Step.run .tables).startedAt tooLate (afterUses uses inMemory) = none) ∧
    CommandLine.runAt tooLate noFiles [] ["-d", ":memory:", "tables"] = (.aborted, noFiles) ∧
    CommandLine.runAt lastChance noFiles [] ["-d", ":memory:", "tables"] =
      CommandLine.run noFiles [] ["-d", ":memory:", "tables"] := by
  obtain ⟨-, -, htimed, hprogram⟩ := deadline_shown_iff (connect_memory noFiles)
  have hshown : ¬lastChance.Overshoots memorySettings.statementTimeout := by
    unfold Moment.Overshoots
    decide
  have hover : tooLate.Overshoots memorySettings.statementTimeout := by
    unfold Moment.Overshoots
    decide
  have hread : CommandLine.read (CommandLine.allVariables noFiles [])
      ["-d", ":memory:", "tables"] = .ok ⟨.tables, ⟨some ":memory:", none, none, none⟩⟩ := by
    decide +kernel
  have hload : Config.load noFiles ⟨some ":memory:", none, none, none⟩ =
      .ok (memorySettings, []) := by decide +kernel
  have hbegins : Command.Begins inMemory .tables := ⟨.tables, rfl, trivial⟩
  refine ⟨connect_memory noFiles, ?_, ?_, ?_⟩
  · intro uses
    refine ⟨by decide, ?_, ?_⟩
    · rw [Option.isSome_iff_exists]
      exact ⟨_, ((htimed uses).run lastChance _ _).2 ⟨hshown, rfl⟩⟩
    · rw [Option.eq_none_iff_forall_ne_some]
      intro r hr
      exact (((htimed uses).operation tooLate .tables r).1 hr).1 ⟨hover, trivial⟩
  · exact (hprogram [] _ _ [] hread hload tooLate).1.2 ⟨hover, hbegins⟩
  · obtain ⟨haborts, habortsOr⟩ := hprogram [] _ _ [] hread hload lastChance
    exact habortsOr.resolve_left fun h => hshown (haborts.1 h).1

def longestTime : List String := ["tables", "--statement-timeout", "18446744073709551615"]

def longestSettings : Config.Settings :=
  { Config.Settings.standard with statementTimeout := Decimal.mostWord }

/-- The longest time of a statement is let through everywhere, and aborts the program even on a
clock that has only just started. -/
theorem longest_time_aborts :
    ∃ invocation settings d disk',
      CommandLine.read (CommandLine.allVariables noFiles []) longestTime = .ok invocation ∧
      Config.load noFiles invocation.overrides = .ok (settings, []) ∧
      connect noFiles settings = .ok (d, disk') ∧
      settings.statementTimeout = Decimal.mostWord ∧
      d.store.deadline? ⟨0, 0, by decide⟩ = none ∧
      CommandLine.runAt ⟨0, 0, by decide⟩ noFiles [] longestTime = (.aborted, disk') := by
  have hread : CommandLine.read (CommandLine.allVariables noFiles []) longestTime =
      .ok ⟨.tables, ⟨none, none, some Decimal.mostWord, none⟩⟩ := by decide +kernel
  have hload : Config.load noFiles ⟨none, none, some Decimal.mostWord, none⟩ =
      .ok (longestSettings, []) := by decide +kernel
  have hok : (connect noFiles longestSettings).toOption.isSome = true := by decide +kernel
  cases hconnect : connect noFiles longestSettings with
  | error e =>
    rw [hconnect] at hok
    cases hok
  | ok opened =>
    have htimeout := (timeout_opened hconnect).2
    have hover : Moment.Overshoots ⟨0, 0, by decide⟩ Decimal.mostWord := by
      unfold Moment.Overshoots
      decide
    refine ⟨_, _, opened.1, opened.2, hread, hload, hconnect, rfl, ?_, ?_⟩
    · exact Option.isNone_iff_eq_none.1 ((overshoots_iff htimeout _).2 hover)
    · rw [runAt_opened hread hload hconnect,
        if_pos ((abortsAt_command htimeout _ _).2 ⟨hover, .tables, rfl, trivial⟩)]

end Database
end Tabular
