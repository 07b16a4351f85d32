import Tabular.Proofs.StoreRuns

/-!
# Questions to a store

A question is the text of one query that means the same on every catalog. It is compiled alike
on all connections whose stores can be read, and asking it changes no connection.
-/

set_option autoImplicit false

namespace Tabular.Sql

structure Question where
  sql : String
  query : Query
  tokens : List Token
  parameters : Parameters
  columns : List String
  trimmed : Text.trimmed sql = sql
  begins : (tokensOf sql).dropWhile (fun t => t.is ";") = tokensOf sql
  numbered : Parameters.empty.number (tokensOf sql) = .ok (tokens, parameters)
  read : Reader.next tokens = .ok (some (.query query), Connection.ended)
  readable (catalog : Catalog) : Connection.columnsOf catalog (.query query) = .ok columns
  unreadable : Connection.columnsOfDamaged (.query query) = .error .notADatabase

namespace Question

variable (q : Question)

def prepared : Prepared := ⟨.query q.query, q.parameters, q.columns⟩

def compiled (c : Connection) : Connection.Compiled × Option Fault :=
  if c.damaged then (.ofText q.sql, some .notADatabase)
  else (⟨[q.prepared], Connection.ended⟩, none)

variable {q}

theorem compiled_intact {c : Connection} (h : c.damaged = false) :
    q.compiled c = (⟨[q.prepared], Connection.ended⟩, none) := by
  rw [compiled, h, if_neg Bool.false_ne_true]

theorem compiled_damaged {c : Connection} (h : c.damaged = true) :
    q.compiled c = (.ofText q.sql, some .notADatabase) := by
  rw [compiled, h, if_pos rfl]

theorem compiled_congr {c c' : Connection} (h : c.damaged = c'.damaged) :
    q.compiled c = q.compiled c' := by
  rw [compiled, compiled, h]

theorem prepare_eq (c : Connection) : c.prepare (.ofText q.sql) = q.compiled c := by
  rw [Connection.prepare_statement c q.begins q.numbered q.read, Connection.columnsHere]
  cases h : c.damaged with
  | true =>
    rw [compiled_damaged h, if_pos rfl, q.unreadable]
  | false =>
    rw [compiled_intact h, if_neg Bool.false_ne_true, q.readable]
    rfl

/-- The question is compiled alike the first time and later. -/
theorem prepared_eq (c : Connection) {known : Option Connection.Compiled}
    (h : known = none ∨ known = some (q.compiled c).1) :
    Store.prepared c known q.sql = q.compiled c := by
  rcases h with rfl | rfl
  · rw [Store.prepared, Option.getD_none, q.trimmed, prepare_eq]
  · rw [Store.prepared, Option.getD_some]
    cases h : c.damaged with
    | true =>
      rw [compiled_damaged h]
      exact (prepare_eq c).trans (compiled_damaged h)
    | false =>
      rw [compiled_intact h]
      exact Connection.prepare_ended c _

/-- A query leaves its connection as it was. -/
theorem runAll_query (values : List Value) (patience : Nat) (c : Connection) (used : Nat)
    (ran : Store.Ran) (query : Query) (ps : Parameters) (columns : List String) :
    (Store.runAll values patience c used ran [⟨.query query, ps, columns⟩]).2 = c := by
  have hrun (vs : List Value) : (c.run patience vs (.query query)).1 = c := by
    have hw : (c.readOnly && Connection.writes (.query query)) = false := Bool.and_false _
    simp only [Connection.run, hw, Bool.false_eq_true, if_false]
    split <;> rfl
  simp only [Store.runAll]
  split
  · rfl
  · rename_i bound _ _
    have h := hrun bound
    rcases hr : c.run patience bound (.query query) with ⟨c', _ | _⟩ <;>
      exact (congrArg Prod.fst hr).symm.trans h

theorem outcome_same (q : Question) (c : Connection) (timeout : Nat) (statement : Statement) :
    (Store.outcome c timeout (Store.ready (q.compiled c)) statement).2 = c := by
  cases h : c.damaged with
  | true =>
    rw [compiled_damaged h]
    rfl
  | false =>
    rw [compiled_intact h]
    simp only [Store.ready, Store.outcome]
    split
    · rfl
    · rename_i values _
      have hrun := runAll_query values (Store.ofConnection c timeout).patience c 0 ⟨[], 0⟩ q.query
        q.parameters q.columns
      rcases hr : Store.runAll values (Store.ofConnection c timeout).patience c 0 ⟨[], 0⟩
        [q.prepared] with ⟨_ | _, c'⟩ <;> exact (congrArg Prod.snd hr).symm.trans hrun

variable {s : Store}

variable (q) in
def Known (s : Store) : Prop :=
  s.known q.sql = none ∨ s.known q.sql = some (q.compiled s.connection).1

variable (q) in
def reply (c : Connection) (timeout : Nat) (statement : Statement) : Except AccessError Answer :=
  (Store.outcome c timeout (Store.ready (q.compiled c)) statement).1

theorem run_eq (h : q.Known s) {statement : Statement} (hq : statement.sql = q.sql) :
    s.run statement = (q.reply s.connection s.timeout statement,
      ⟨s.connection, s.keeping q.sql (q.compiled s.connection).1, s.timeout⟩) := by
  rw [Store.run_eq, hq, prepared_eq s.connection h]
  simp only [outcome_same]
  rfl

/-- Whatever runs, the question stays as it is compiled. -/
theorem Known.run (h : q.Known s) (statement : Statement) : q.Known (s.run statement).2 := by
  have hsame : q.compiled (s.run statement).2.connection = q.compiled s.connection :=
    compiled_congr (s.run_damaged statement)
  rw [Known, hsame]
  by_cases hsql : statement.sql = q.sql
  · rw [run_eq h hsql]
    exact .inr (Store.known_keeping _ _)
  · refine or_iff_not_imp_left.2 fun hknown => ?_
    obtain ⟨before, hbefore⟩ := Option.ne_none_iff_exists'.1 hknown
    rw [Store.run_eq] at hbefore ⊢
    have hold := Store.known_of_keeping (Ne.symm hsql) hbefore
    rcases h with h | h
    · cases hold.symm.trans h
    · obtain rfl := Option.some.inj (hold.symm.trans h)
      exact hbefore

theorem known_of_reachable (h : s.Reachable) : q.Known s := by
  induction h with
  | opened c timeout => exact .inl rfl
  | ran _ statement ih => exact ih.run statement

end Question
end Tabular.Sql
