import Tabular.CommandLine.Execution
import Tabular.Proofs.RequestStages

/-!
# The statements of an operation

An operation runs at most two statements: the question for the types of a table's columns,
where they are not kept, and then its own. It runs none just if it ends before the first, by
the name of its table or with what is kept.
-/

set_option autoImplicit false

namespace Tabular

namespace Store

def afterAll (s : Store) (statements : List Statement) : Store :=
  statements.foldl (fun s statement => (s.run statement).2) s

theorem timeout_run (s : Store) (statement : Statement) :
    (s.run statement).2.timeout = s.timeout := by
  rw [run_eq]

theorem compiled_run (s : Store) (statement : Statement) :
    (s.run statement).2.compiled ≠ [] := by
  rw [run_eq]
  exact List.cons_ne_nil _ _

theorem timeout_afterAll (s : Store) (statements : List Statement) :
    (s.afterAll statements).timeout = s.timeout := by
  induction statements generalizing s with
  | nil => rfl
  | cons statement rest ih => exact (ih _).trans (s.timeout_run statement)

/-- Whatever has run last is known. -/
theorem compiled_afterAll (s : Store) {statements : List Statement} (h : statements ≠ []) :
    (s.afterAll statements).compiled ≠ [] := by
  rw [afterAll, ← List.dropLast_append_getLast h, List.foldl_append]
  exact compiled_run _ _

end Store

namespace Request

def given? (table : String) (d : Database) : Request → Option ColumnTypes
  | insert _ | update _ _ | list _ => d.columns.get? table
  | get _ | delete _ => some ⟨[]⟩

def Begins (table : String) (d : Database) (r : Request) : Prop :=
  Identifier.isPlain table ∧ ∀ types, r.given? table d = some types → r.complaint types = none

variable {table : String} {d : Database} {r : Request}

theorem found_given {types : ColumnTypes} (h : r.given? table d = some types) :
    r.found table d = (.ok types, d.store, d.columns) := by
  have hresolve (h : d.columns.get? table = some types) :
      d.columns.resolve Store.run d.store table = (.ok types, d.store, d.columns) :=
    ColumnCache.resolve_hit h
  cases r with
  | insert | update | list => exact hresolve h
  | get | delete =>
    obtain rfl := Option.some.inj h
    rfl

theorem found_asking (h : r.given? table d = none) :
    (r.found table d).2.1 = (d.store.run (ColumnCache.question table)).2 := by
  have hresolve (h : d.columns.get? table = none) :
      (d.columns.resolve Store.run d.store table).2.1 =
        (d.store.run (ColumnCache.question table)).2 := by
    rw [ColumnCache.resolve_miss h]
  cases r with
  | insert | update | list => exact hresolve h
  | get | delete => cases h

theorem outcome_store (table : String) (d : Database) (r : Request) :
    ∃ statements, (r.outcome table d).2 = d.store.afterAll statements ∧
      (statements = [] ↔ ¬r.Begins table d) := by
  rw [outcome]
  by_cases ht : Identifier.isPlain table
  · rw [if_pos ht]
    cases hgiven : r.given? table d with
    | some types =>
      have hbegins : r.Begins table d ↔ r.complaint types = none :=
        ⟨fun h => h.2 types hgiven, fun h => ⟨ht, fun types' h' => by
          obtain rfl := Option.some.inj (hgiven.symm.trans h')
          exact h⟩⟩
      rw [hbegins]
      simp only [found_given hgiven]
      cases hwrong : r.complaint types with
      | some e => exact ⟨[], rfl, by simp⟩
      | none => exact ⟨[r.written table types], rfl, by simp⟩
    | none =>
      have hbegins : r.Begins table d := ⟨ht, fun types h => by cases hgiven.symm.trans h⟩
      simp only [found_asking hgiven]
      cases (r.found table d).1 with
      | error e => exact ⟨[ColumnCache.question table], rfl, by simp [hbegins]⟩
      | ok types =>
        simp only
        cases r.complaint types with
        | some e => exact ⟨[ColumnCache.question table], rfl, by simp [hbegins]⟩
        | none =>
          exact ⟨[ColumnCache.question table, r.written table types], rfl, by simp [hbegins]⟩
  · rw [if_neg ht]
    exact ⟨[], rfl, iff_of_true rfl fun h => ht h.1⟩

end Request

namespace Step

open Database Database.Operation

def Begins (d : Database) : Step → Prop
  | .types table => Identifier.isPlain table ∧ d.columns.get? table = none
  | .add table fields => (Request.insert fields).Begins table d
  | .update table id fields => (Request.update id fields).Begins table d
  | .get table id => (Request.get id).Begins table d
  | .list table request => (Request.list request).Begins table d
  | .delete table id => (Request.delete id).Begins table d
  | .hasTable _ | .tables | .query _ => True

theorem store_types (table : String) (d : Database) :
    ∃ statements, ((types table).run d).2.store = d.store.afterAll statements ∧
      (statements = [] ↔ ¬(types table).Begins d) := by
  have hstore : ((types table).run d).2.store = (typesOf table d).2.store := by
    obtain ⟨-, hstore, -⟩ := tracked_eq (typesOf table) d
    rw [← hstore, run, snd_map]
    rfl
  rw [hstore, typesOf_eq, Statement.checkTable]
  by_cases ht : Identifier.isPlain table
  · rw [if_pos ht]
    cases hget : d.columns.get? table with
    | some types =>
      rw [ColumnCache.resolve_hit hget]
      exact ⟨[], rfl, iff_of_true rfl fun h => by cases hget.symm.trans h.2⟩
    | none =>
      rw [ColumnCache.resolve_miss hget]
      exact ⟨[ColumnCache.question table], rfl, by simp [Begins, ht, hget]⟩
  · rw [if_neg ht]
    exact ⟨[], rfl, iff_of_true rfl fun h => ht h.1⟩

/-- The store is changed by the statements that the operation runs, if it comes to any. -/
theorem store_run (s : Step) (d : Database) :
    ∃ statements, (s.run d).2.store = d.store.afterAll statements ∧
      (statements = [] ↔ ¬s.Begins d) := by
  have hrequest (table : String) (r : Request) :
      ∃ statements, ((r.step table).run d).2.store = d.store.afterAll statements ∧
        (statements = [] ↔ ¬r.Begins table d) := by
    rw [(Request.ends_step table d r).store]
    exact r.outcome_store table d
  have hone {x : Database} (statement : Statement) (h : x.store = (d.store.run statement).2) :
      ∃ statements, x.store = d.store.afterAll statements ∧ (statements = [] ↔ ¬True) :=
    ⟨[statement], h, by simp⟩
  cases s with
  | types table => exact store_types table d
  | add table fields => exact hrequest table (.insert fields)
  | update table id fields => exact hrequest table (.update id fields)
  | get table id => exact hrequest table (.get id)
  | list table request => exact hrequest table (.list request)
  | delete table id => exact hrequest table (.delete id)
  | hasTable table => exact hone _ (((ends_execute _ d).done _).tracked.done Reply.flag).store
  | tables => exact hone _ ((ends_execute _ d).tracked.done Reply.answer).store
  | query sql =>
    apply hone (.ofText sql)
    rw [run_query, execute]
    rcases d.store.run (.ofText sql) with ⟨_ | a, store⟩
    · rfl
    · cases Definition.definesSchema sql <;> rfl

theorem timeout_run (s : Step) (d : Database) :
    (s.run d).2.store.timeout = d.store.timeout := by
  obtain ⟨statements, hstore, -⟩ := s.store_run d
  rw [hstore, Store.timeout_afterAll]

/-- An operation asks the store just if it comes to a statement. -/
theorem asks_iff (s : Step) (d : Database) : s.run.asks d = true ↔ s.Begins d := by
  -- what an operation comes to does not depend on the texts that are compiled
  have hsame : s.Begins { d with store := { d.store with compiled := [] } } ↔ s.Begins d := by
    cases s <;> exact Iff.rfl
  obtain ⟨statements, hstore, hnone⟩ :=
    s.store_run { d with store := { d.store with compiled := [] } }
  rw [hsame] at hnone
  rw [asks, hstore]
  by_cases hs : statements = []
  · subst hs
    exact iff_of_false (by simp [Store.afterAll]) (hnone.1 rfl)
  · have hcompiled := Store.compiled_afterAll { d.store with compiled := [] } hs
    exact iff_of_true (by simpa using hcompiled) (not_not.1 (mt hnone.2 hs))

end Step

namespace Command

open Database Database.Operation

def step? : Command → Option Step
  | .tables => some .tables
  | .hasTable table => some (.hasTable table)
  | .columns table => some (.types table)
  | .get table id => some (.get table id)
  | .list table filter order select limit =>
    match Filter.readOptional filter with
    | .ok filter => some (.list table ⟨order, filter, select, limit⟩)
    | .error _ => none
  | .add table fields => some (.add table fields)
  | .update table id fields => some (.update table id fields)
  | .delete table id => some (.delete table id)
  | .query sql => some (.query sql)

theorem execute_step {command : Command} {s : Step} (h : command.step? = some s) (d : Database) :
    (command.execute d).2 = (s.run d).2 := by
  cases command with
  | list table filter order select limit =>
    rw [step?] at h
    cases hr : Filter.readOptional filter with
    | error e =>
      rw [hr] at h
      cases h
    | ok filter' =>
      rw [hr] at h
      obtain rfl := Option.some.inj h
      rw [execute, hr]
      exact (snd_map _ _ d).trans (snd_map _ _ d).symm
  | _ =>
    obtain rfl := Option.some.inj h
    exact (snd_map _ _ d).trans (snd_map _ _ d).symm

theorem execute_unread {command : Command} (h : command.step? = none) (d : Database) :
    (command.execute d).2 = d := by
  cases command with
  | list table filter order select limit =>
    rw [step?] at h
    cases hr : Filter.readOptional filter with
    | error e =>
      rw [execute, hr]
      rfl
    | ok filter' =>
      rw [hr] at h
      cases h
  | _ => cases h

def Begins (d : Database) (command : Command) : Prop :=
  ∃ s, command.step? = some s ∧ s.Begins d

theorem asks_iff (command : Command) (d : Database) :
    command.execute.asks d = true ↔ command.Begins d := by
  rw [Begins]
  cases hs : command.step? with
  | none =>
    rw [asks, execute_unread hs]
    simp
  | some s =>
    have hasks : command.execute.asks d = s.run.asks d := by
      rw [asks, asks, execute_step hs]
    rw [hasks, s.asks_iff]
    simp

end Command
end Tabular
