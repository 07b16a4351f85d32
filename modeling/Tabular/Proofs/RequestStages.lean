import Tabular.Proofs.CacheCoherence
import Tabular.Proofs.RunStages
import Tabular.Proofs.UnknownColumns

/-!
# The stages of a request

In front of the stages of its run a request has three of its own: the name of the table,
the types of its columns, and the columns that are named. An error is that of the first
stage that fails, and an error of any stage but the last leaves the tables as they were.
-/

set_option autoImplicit false

namespace Tabular

open Database (Operation)
open Database.Operation

namespace ColumnCache

variable {table : String} {e : AccessError}

/-- What goes wrong with the types of columns is told with the name of the table. -/
theorem types_error {answer : Except AccessError Answer} (h : types table answer = .error e) :
    ∃ reason, e = .schema table reason := by
  obtain ⟨reason, -, he⟩ := types_error_iff.1 h
  exact ⟨reason, he⟩

end ColumnCache

structure Ends {α : Type} (y : Except AccessError α × Database)
    (x : Except AccessError Answer × Store) : Prop where
  error : ∀ e, y.1 = .error e ↔ x.1 = .error e
  store : y.2.store = x.2

section

variable {α β : Type} {op : Operation α} {d : Database} {x : Except AccessError Answer × Store}

theorem ends_error (e : AccessError) (d : Database) :
    Ends ((.error e, d) : Except AccessError α × Database) (.error e, d.store) := by
  constructor
  · intro e'
    simp
  · rfl

theorem ends_execute (s : Statement) (d : Database) :
    Ends (Database.execute s d) (d.store.run s) := by
  constructor
  · intro e
    rfl
  · rfl

theorem Ends.done (h : Ends (op d) x) (f : α → β) : Ends ((op >>= fun a => pure (f a)) d) x := by
  obtain ⟨herror, hstore⟩ := h
  rw [bind_eq]
  generalize op d = y at herror hstore
  rcases y with ⟨e | a, d'⟩
  · constructor
    · intro e'
      rw [← herror]
      simp
    · exact hstore
  · constructor
    · intro e'
      rw [← herror]
      exact iff_of_false (fun he => by cases he) (fun he => by cases he)
    · exact hstore

theorem Ends.tracked (h : Ends (op d) x) : Ends (tracked op d) x := by
  obtain ⟨hresult, hstore, -⟩ := tracked_eq op d
  constructor
  · intro e
    rw [hresult]
    exact h.error e
  · rw [hstore]
    exact h.store

end

namespace Request

def step (table : String) : Request → Step
  | insert fields => .add table fields
  | update id fields => .update table id fields
  | get id => .get table id
  | delete id => .delete table id
  | list request => .list table request

def found (table : String) (d : Database) :
    Request → Except AccessError ColumnTypes × Store × ColumnCache
  | insert _ | update _ _ | list _ => d.columns.resolve Store.run d.store table
  | get _ | delete _ => (.ok ⟨[]⟩, d.store, d.columns)

def outcome (table : String) (d : Database) (r : Request) : Except AccessError Answer × Store :=
  if Identifier.isPlain table then
    match (r.found table d).1 with
    | .error e => (.error e, (r.found table d).2.1)
    | .ok types =>
      match r.complaint types with
      | some e => (.error e, (r.found table d).2.1)
      | none => (r.found table d).2.1.run (r.written table types)
  else (.error (.invalidInput (.tableName table)), d.store)

variable {table : String} {d : Database} {α : Type} {f : Statement → Operation α}

theorem ends_stated (ht : Identifier.isPlain table) (r : Request) (types : ColumnTypes)
    (hf : ∀ s d, Ends (f s d) (d.store.run s)) (d : Database) :
    Ends ((lift (r.statement table types) >>= f) d)
      (match r.complaint types with
        | some e => (.error e, d.store)
        | none => d.store.run (r.written table types)) := by
  rw [statement_eq ht]
  cases r.complaint types with
  | some e => exact ends_error e d
  | none => exact hf _ d

theorem ends_asking (r : Request) (hr : r.found table d = d.columns.resolve Store.run d.store table)
    (hf : ∀ s d, Ends (f s d) (d.store.run s)) :
    Ends ((Database.typesOf table >>= fun types => lift (r.statement table types) >>= f) d)
      (r.outcome table d) := by
  rw [outcome, hr, bind_eq, Database.typesOf_eq, Statement.checkTable]
  by_cases ht : Identifier.isPlain table
  · rw [if_pos ht, if_pos ht]
    rcases d.columns.resolve Store.run d.store table with ⟨e | types, store, columns⟩
    · exact ends_error e { d with store, columns }
    · exact ends_stated ht r types hf { d with store, columns }
  · rw [if_neg ht, if_neg ht]
    exact ends_error _ d

theorem ends_keeping (r : Request) (hr : r.found table d = (.ok ⟨[]⟩, d.store, d.columns))
    (hf : ∀ s d, Ends (f s d) (d.store.run s)) :
    Ends ((lift (r.statement table ⟨[]⟩) >>= f) d) (r.outcome table d) := by
  rw [outcome, hr]
  by_cases ht : Identifier.isPlain table
  · rw [if_pos ht]
    exact ends_stated ht r ⟨[]⟩ hf d
  · rw [if_neg ht, statement_irregular (by simpa using ht)]
    exact ends_error _ d

/-- The operation ends as the stages of the request say. -/
theorem ends_step (table : String) (d : Database) (r : Request) :
    Ends ((r.step table).run d) (r.outcome table d) := by
  have hcounted {β : Type} (g : Answer → β) (s : Statement) (d : Database) :
      Ends ((Database.execute s >>= fun a => pure (g a)) d) (d.store.run s) :=
    (ends_execute s d).done g
  cases r with
  | insert fields =>
    exact (ends_asking (.insert fields) rfl (hcounted _)).tracked.done Reply.id
  | update id fields =>
    exact (ends_asking (.update id fields) rfl (hcounted _)).tracked.done Reply.count
  | get id => exact (ends_keeping (.get id) rfl ends_execute).tracked.done Reply.answer
  | delete id => exact (ends_keeping (.delete id) rfl (hcounted _)).tracked.done Reply.count
  | list request => exact (ends_asking (.list request) rfl ends_execute).tracked.done Reply.answer

theorem found_error {r : Request} {e : AccessError} (h : (r.found table d).1 = .error e) :
    ∃ reason, e = .schema table reason := by
  have hresolve (h : (d.columns.resolve Store.run d.store table).1 = .error e) :
      ∃ reason, e = .schema table reason := by
    cases hget : d.columns.get? table with
    | some types =>
      rw [ColumnCache.resolve_hit hget] at h
      cases h
    | none =>
      rw [ColumnCache.resolve_miss hget] at h
      exact ColumnCache.types_error h
  cases r with
  | insert | update | list => exact hresolve h
  | get | delete => cases h

/-- What a stage of a request fails with, whatever the other stages do. Those from the columns on
are given the types that were found. -/
inductive Fails (table : String) (d : Database) (r : Request) : Stage → AccessError → Prop
  | table (irregular : ¬Identifier.isPlain table) :
      Fails table d r .table (.invalidInput (.tableName table))
  | types {reason : String} (missing : (r.found table d).1 = .error (.schema table reason)) :
      Fails table d r .types (.schema table reason)
  | columns {types : ColumnTypes} {e : AccessError} (found : (r.found table d).1 = .ok types)
      (wrong : r.complaint types = some e) : Fails table d r .columns e
  | run {types : ColumnTypes} {stage : Stage} {e : AccessError}
      (found : (r.found table d).1 = .ok types)
      (fails : (r.found table d).2.1.Fails (r.written table types) stage e) :
      Fails table d r stage e

variable {r : Request}

theorem Fails.unique {stage : Stage} {e e' : AccessError} (h : r.Fails table d stage e)
    (h' : r.Fails table d stage e') : e = e' := by
  cases h with
  | table irregular =>
    cases h' with
    | table _ => rfl
    | run _ fails => exact absurd fails.late (by decide)
  | types missing =>
    cases h' with
    | types missing' => exact Except.error.inj (missing.symm.trans missing')
    | run _ fails => exact absurd fails.late (by decide)
  | columns found wrong =>
    cases h' with
    | columns found' wrong' =>
      obtain rfl := Except.ok.inj (found.symm.trans found')
      exact Option.some.inj (wrong.symm.trans wrong')
    | run _ fails => exact absurd fails.late (by decide)
  | run found fails =>
    cases h' with
    | table _ => exact absurd fails.late (by decide)
    | types _ => exact absurd fails.late (by decide)
    | columns _ _ => exact absurd fails.late (by decide)
    | run found' fails' =>
      obtain rfl := Except.ok.inj (found.symm.trans found')
      exact fails.unique fails'

theorem first_table (irregular : ¬Identifier.isPlain table) :
    FirstFailure (r.Fails table d) .table (.invalidInput (.tableName table)) where
  here := .table irregular
  before earlier e hlt := by cases hlt

section

variable (ht : Identifier.isPlain table)

include ht

theorem first_types {reason : String}
    (missing : (r.found table d).1 = .error (.schema table reason)) :
    FirstFailure (r.Fails table d) .types (.schema table reason) where
  here := .types missing
  before earlier e' hlt hf := by
    cases hf with
    | table irregular => exact irregular ht
    | types _ => exact absurd hlt (by decide)
    | columns _ _ => exact absurd hlt (by decide)
    | run found _ => cases missing.symm.trans found

variable {types : ColumnTypes} (found : (r.found table d).1 = .ok types)

include found

theorem first_columns {e : AccessError} (wrong : r.complaint types = some e) :
    FirstFailure (r.Fails table d) .columns e where
  here := .columns found wrong
  before earlier e' hlt hf := by
    cases hf with
    | table irregular => exact irregular ht
    | types missing => cases missing.symm.trans found
    | columns _ _ => exact absurd hlt (by decide)
    | run _ fails => exact absurd hlt (Nat.lt_asymm fails.late)

variable (fine : r.complaint types = none)

include fine

/-- In front of the run no stage of a request fails, so that only the run is left to fail. -/
theorem fails_run {stage : Stage} {e : AccessError} (h : r.Fails table d stage e) :
    (r.found table d).2.1.Fails (r.written table types) stage e := by
  cases h with
  | table irregular => exact absurd ht irregular
  | types missing => cases missing.symm.trans found
  | columns found' wrong =>
    obtain rfl := Except.ok.inj (found.symm.trans found')
    cases fine.symm.trans wrong
  | run found' fails =>
    obtain rfl := Except.ok.inj (found.symm.trans found')
    exact fails

theorem first_run {stage : Stage} {e : AccessError}
    (h : FirstFailure ((r.found table d).2.1.Fails (r.written table types)) stage e) :
    FirstFailure (r.Fails table d) stage e where
  here := .run found h.here
  before earlier e' hlt hf := h.before earlier e' hlt (fails_run ht found fine hf)

end

/-- A request as it goes through its stages: none fails, or the first that does gives the error,
and then the connection is as it was, unless that is the last one. -/
theorem outcome_cases (table : String) (d : Database) (r : Request) :
    (∃ a, (r.outcome table d).1 = .ok a ∧ ∀ stage e, ¬r.Fails table d stage e) ∨
      ∃ stage e, (r.outcome table d).1 = .error e ∧ FirstFailure (r.Fails table d) stage e ∧
        (stage ≠ .execution → (r.found table d).2.1.connection = d.store.connection →
          (r.outcome table d).2.connection = d.store.connection) := by
  rw [outcome]
  by_cases ht : Identifier.isPlain table
  · rw [if_pos ht]
    cases hfound : (r.found table d).1 with
    | error e =>
      obtain ⟨reason, rfl⟩ := found_error hfound
      exact .inr ⟨.types, _, rfl, first_types ht hfound, fun _ hsame => hsame⟩
    | ok types =>
      simp only
      cases hwrong : r.complaint types with
      | some e =>
        exact .inr ⟨.columns, e, rfl, first_columns ht hfound hwrong, fun _ hsame => hsame⟩
      | none =>
        rcases Store.run_cases (r.found table d).2.1 (r.written table types) with
          ⟨a, ha, hc⟩ | ⟨stage, e, he, hfirst, htouch⟩
        · refine .inl ⟨a, ha, ?_⟩
          intro stage e hf
          exact hc.not_fails stage e (fails_run ht hfound hwrong hf)
        · refine .inr ⟨stage, e, he, first_run ht hfound hwrong hfirst, ?_⟩
          intro hstage hsame
          exact (htouch hstage).trans hsame
  · rw [if_neg ht]
    exact .inr ⟨.table, _, rfl, first_table ht, fun _ _ => rfl⟩

theorem step_error_iff (r : Request) (table : String) (d : Database) (e : AccessError) :
    ((r.step table).run d).1 = .error e ↔ ∃ stage, FirstFailure (r.Fails table d) stage e := by
  have hunique : ∀ stage e e', r.Fails table d stage e → r.Fails table d stage e' → e = e' :=
    fun _ _ _ => Fails.unique
  rw [(ends_step table d r).error e]
  apply error_iff_firstFailure hunique
  rcases outcome_cases table d r with ⟨a, ha, hnone⟩ | ⟨stage, e, he, hfirst, -⟩
  · exact .inl ⟨a, ha, hnone⟩
  · exact .inr ⟨stage, e, he, hfirst⟩

/-- The execution of a statement fails with nothing but errors of its own kind and timeouts. -/
theorem Fails.execution {e : AccessError} (h : r.Fails table d .execution e) :
    (∃ cause, e = .exec cause) ∨ ∃ seconds, e = .timeout seconds := by
  cases h with
  | run _ fails =>
    cases fails with
    | execution _ _ _ =>
      rw [Store.timedOut]
      split
      · exact .inr ⟨_, rfl⟩
      · exact .inl ⟨_, rfl⟩

/-- Where the types of columns are found without a change, an error of another kind than those of
executing leaves the connection as it was. -/
theorem step_untouched {e : AccessError}
    (hsame : (r.found table d).2.1.connection = d.store.connection)
    (h : ((r.step table).run d).1 = .error e) (hexec : ∀ cause, e ≠ .exec cause)
    (htime : ∀ seconds, e ≠ .timeout seconds) :
    ((r.step table).run d).2.store.connection = d.store.connection := by
  have hends := ends_step table d r
  rw [hends.store]
  rw [hends.error] at h
  rcases outcome_cases table d r with ⟨a, ha, -⟩ | ⟨stage, e', he', hfirst, htouch⟩
  · cases h.symm.trans ha
  · obtain rfl := Except.error.inj (h.symm.trans he')
    apply htouch _ hsame
    rintro rfl
    rcases hfirst.here.execution with ⟨cause, he⟩ | ⟨seconds, he⟩
    · exact hexec cause he
    · exact htime seconds he

end Request

namespace Store

open ColumnCache

theorem Reachable.asked {s : Store} (h : Reachable s) : Asked s :=
  Sql.Question.known_of_reachable (q := ColumnCache.asked) h

end Store

namespace Database

inductive Reachable : Database → Prop
  | opened {disk disk' : Disk} {settings : Config.Settings} {d : Database}
      (h : connect disk settings = .ok (d, disk')) : Reachable d
  | used {d : Database} (h : Reachable d) (s : Step) : Reachable (s.run d).2
  | cleared {d : Database} (h : Reachable d) : Reachable (clearError d).2

namespace Operation

def Orderly {α : Type} (op : Operation α) : Prop :=
  ∀ d, d.store.Reachable → (op d).2.store.Reachable

variable {α β : Type}

theorem orderly_lift (r : Except AccessError α) : Orderly (lift r) := fun _ h => h

theorem orderly_pure (a : α) : Orderly (pure a : Operation α) := fun _ h => h

theorem orderly_execute (s : Statement) : Orderly (execute s) := fun _ h => h.ran s

theorem Orderly.bind {op : Operation α} {f : α → Operation β} (h : Orderly op)
    (hf : ∀ a, Orderly (f a)) : Orderly (op >>= f) := by
  intro d hd
  have hop := h d hd
  rw [bind_eq]
  generalize op d = y at hop
  rcases y with ⟨e | a, d'⟩
  · exact hop
  · exact hf a d' hop

theorem Orderly.tracked {op : Operation α} (h : Orderly op) : Orderly (tracked op) := by
  intro d hd
  rw [(tracked_eq op d).2.1]
  exact h d hd

theorem orderly_typesOf (table : String) : Orderly (typesOf table) := by
  intro d hd
  rw [typesOf_eq]
  cases Statement.checkTable table with
  | error e => exact hd
  | ok _ =>
    cases hget : d.columns.get? table with
    | some types =>
      rw [ColumnCache.resolve_hit hget]
      exact hd
    | none =>
      rw [ColumnCache.resolve_miss hget]
      exact hd.ran _

theorem Orderly.map {op : Operation α} (h : Orderly op) (f : α → β) : Orderly (f <$> op) :=
  h.bind fun a => orderly_pure (f a)

theorem orderly_change (r : Except AccessError Statement) (f : Answer → α) :
    Orderly (lift r >>= fun s => execute s >>= fun a => pure (f a)) :=
  (orderly_lift r).bind fun s => (orderly_execute s).bind fun a => orderly_pure (f a)

theorem orderly_lookup (r : Except AccessError Statement) :
    Orderly (lift r >>= fun s => execute s) := (orderly_lift r).bind orderly_execute

theorem orderly_step (s : Step) : Orderly s.run := by
  cases s with
  | types table => exact (orderly_typesOf table).tracked.map _
  | add table fields =>
    exact ((orderly_typesOf table).bind fun types => orderly_change _ _).tracked.map _
  | update table id fields =>
    exact ((orderly_typesOf table).bind fun types => orderly_change _ _).tracked.map _
  | get table id => exact (orderly_lookup _).tracked.map _
  | list table request =>
    exact ((orderly_typesOf table).bind fun types => orderly_lookup _).tracked.map _
  | delete table id => exact (orderly_change _ _).tracked.map _
  | hasTable table =>
    exact ((orderly_execute _).bind fun a => orderly_pure _).tracked.map _
  | tables => exact (orderly_execute _).tracked.map _
  | query sql =>
    have hdropping : ∀ a, Orderly (Step.dropping sql a) := by
      intro a d hd
      rw [Step.dropping]
      split <;> exact hd
    exact ((orderly_execute _).bind hdropping).tracked.map _

end Operation

/-- A database as it is opened: nothing is kept of its columns, and no error is noted. -/
theorem opened_eq {disk disk' : Disk} {settings : Config.Settings} {d : Database}
    (h : connect disk settings = .ok (d, disk')) :
    ∃ name file c timeout, d =
      ⟨name, file, .ofConnection c timeout, .ofSetting settings.cache.enabled, none⟩ := by
  rw [connect] at h
  split at h
  · cases h
  · obtain ⟨target, -, h⟩ := bind_eq_ok.1 h
    split at h
    · cases h
    · obtain ⟨rfl, -⟩ := Prod.mk.inj (Except.ok.inj h)
      exact ⟨_, _, _, _, rfl⟩
    · obtain ⟨opened, -, h⟩ := bind_eq_ok.1 h
      obtain ⟨rfl, -⟩ := Prod.mk.inj (Except.ok.inj h)
      exact ⟨_, _, _, _, rfl⟩

theorem Reachable.store {d : Database} (h : Reachable d) : d.store.Reachable := by
  induction h with
  | opened h =>
    obtain ⟨_, _, c, timeout, rfl⟩ := opened_eq h
    exact .opened c timeout
  | used _ s ih => exact Operation.orderly_step s _ ih
  | cleared _ ih => exact ih

/-- Asking for the types of columns leaves the connection as it is. -/
theorem Reachable.found_same {d : Database} (h : Reachable d) (table : String) (r : Request) :
    (r.found table d).2.1.connection = d.store.connection := by
  have hresolve : (d.columns.resolve Store.run d.store table).2.1.connection =
      d.store.connection := by
    cases hget : d.columns.get? table with
    | some types => rw [ColumnCache.resolve_hit hget]
    | none => rw [ColumnCache.resolve_miss hget, ColumnCache.run_question h.store.asked]
  cases r with
  | insert | update | list => exact hresolve
  | get | delete => rfl

/-- A statement is run in four stages and a request goes through seven. The error is that of the
first stage that fails. Before the last stage nothing has run, so that in a database in use an
error of a request that is no error of executing and no timeout leaves everything as it was. -/
theorem first_stage_fails :
    (∀ (s : Store) (statement : Statement),
      (∀ e, (s.run statement).1 = .error e ↔ ∃ stage, FirstFailure (s.Fails statement) stage e) ∧
      (∀ a, (s.run statement).1 = .ok a ↔ s.Completes statement a) ∧
      ∀ stage e, FirstFailure (s.Fails statement) stage e → stage ≠ .execution →
        (s.run statement).2.connection = s.connection) ∧
    ∀ d : Database, d.Reachable → ∀ (table : String) (r : Request) (e : AccessError),
      (((r.step table).run d).1 = .error e ↔ ∃ stage, FirstFailure (r.Fails table d) stage e) ∧
      (((r.step table).run d).1 = .error e → (∀ cause, e ≠ .exec cause) →
        (∀ seconds, e ≠ .timeout seconds) →
        ((r.step table).run d).2.store.connection = d.store.connection) := by
  constructor
  · intro s statement
    exact ⟨s.run_error_iff statement, s.run_ok_iff statement, fun _ _ => Store.run_untouched⟩
  · intro d hd table r e
    exact ⟨r.step_error_iff table d e, Request.step_untouched (hd.found_same table r)⟩

theorem connect_memory (disk : Disk) :
    connect disk { Config.Settings.standard with url := ":memory:" } = .ok (inMemory, disk) := by
  have hscheme : Address.withScheme ":memory:" = "sqlite::memory:" := by decide +kernel
  have hname : Address.name? "sqlite::memory:" = none := by decide +kernel
  have htarget : Address.target "sqlite::memory:" = .ok ⟨.memory, false, none⟩ := by
    decide +kernel
  simp only [connect, hscheme, hname, htarget]
  rfl

def counting : Database := (Step.run (.query "CREATE TABLE t(n INTEGER)") inMemory).2

def miscounting : Request := .insert [("n", "x")]

theorem reachable_counting : counting.Reachable := by
  rw [counting]
  exact .used (.opened (connect_memory ⟨"", [], []⟩)) (.query "CREATE TABLE t(n INTEGER)")

theorem error_miscounting :
    ((miscounting.step "t").run counting).1 = .error (.invalidValue 0 "x" .integer) :=
  eq_error_of_map (f := fun _ => ()) (by decide +kernel)

theorem first_stage_fails_value :
    counting.Reachable ∧
      ((miscounting.step "t").run counting).1 = .error (.invalidValue 0 "x" .integer) ∧
      (∃ stage, FirstFailure (miscounting.Fails "t" counting) stage
        (.invalidValue 0 "x" .integer)) ∧
      ((miscounting.step "t").run counting).2.store.connection = counting.store.connection := by
  obtain ⟨hiff, hsame⟩ := first_stage_fails.2 counting reachable_counting "t" miscounting
    (.invalidValue 0 "x" .integer)
  refine ⟨reachable_counting, error_miscounting, hiff.1 error_miscounting, ?_⟩
  exact hsame error_miscounting (by simp) (by simp)

end Database
end Tabular
