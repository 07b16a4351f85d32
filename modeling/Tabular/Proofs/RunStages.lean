import Mathlib.Data.List.Forall2
import Tabular.Proofs.StoreRuns

/-!
# The stages of a run

A statement is compiled, its values are counted, then converted, and last it is run. What
fails is told of by the first stage that fails, and nothing runs before the last one.
-/

set_option autoImplicit false

namespace Tabular

inductive Stage where
  | table
  | types
  | columns
  | prepare
  | arity
  | value
  | execution
deriving DecidableEq

namespace Stage

def place : Stage → Nat
  | table => 0
  | types => 1
  | columns => 2
  | prepare => 3
  | arity => 4
  | value => 5
  | execution => 6

end Stage

/-- The stage fails with the error, and none before it fails. -/
structure FirstFailure (fails : Stage → AccessError → Prop) (stage : Stage) (e : AccessError) :
    Prop where
  here : fails stage e
  before : ∀ earlier e', earlier.place < stage.place → ¬fails earlier e'

theorem Stage.place_inj {a b : Stage} (h : a.place = b.place) : a = b := by
  cases a <;> cases b <;> first | rfl | cases h

theorem FirstFailure.unique {fails : Stage → AccessError → Prop} {a b : Stage} {e e' : AccessError}
    (ha : FirstFailure fails a e) (hb : FirstFailure fails b e')
    (hf : ∀ stage e e', fails stage e → fails stage e' → e = e') : a = b ∧ e = e' := by
  have hab : ¬a.place < b.place := fun h => hb.before a e h ha.here
  have hba : ¬b.place < a.place := fun h => ha.before b e' h hb.here
  obtain rfl := Stage.place_inj (by omega : a.place = b.place)
  exact ⟨rfl, hf a e e' ha.here hb.here⟩

/-- Where either no stage fails or the first that does gives the error, each error is that of the
first stage that fails. -/
theorem error_iff_firstFailure {α : Type} {fails : Stage → AccessError → Prop}
    {r : Except AccessError α} (hf : ∀ stage e e', fails stage e → fails stage e' → e = e')
    (h : (∃ a, r = .ok a ∧ ∀ stage e, ¬fails stage e) ∨
      ∃ stage e, r = .error e ∧ FirstFailure fails stage e) (e : AccessError) :
    r = .error e ↔ ∃ stage, FirstFailure fails stage e := by
  rcases h with ⟨a, rfl, hnone⟩ | ⟨stage, e', rfl, hfirst⟩
  · constructor
    · intro he
      cases he
    · rintro ⟨stage, hstage⟩
      exact absurd hstage.here (hnone stage e)
  · constructor
    · intro he
      obtain rfl := Except.error.inj he
      exact ⟨stage, hfirst⟩
    · rintro ⟨stage', hfirst'⟩
      rw [(hfirst.unique hfirst' hf).2]

def Statement.typed (s : Statement) : List (String × ColumnType) := s.values.zip s.types

namespace Store

open Sql (Connection Fault Prepared)

def verdict (s : Store) (sql : String) : Except Fault (List Prepared) := (s.compile sql).1

def placeholders (ps : List Prepared) : Nat := Sql.total (ps.map fun p => p.parameters.count)

def Agree (statement : Statement) (ps : List Prepared) : Prop :=
  statement.values.length = statement.types.length ∧
    statement.values.length = placeholders ps

def Converted (typed : List (String × ColumnType)) (bound : List Sql.Value) : Prop :=
  List.Forall₂ (fun p v => convert p.2 p.1 = some v) typed bound

structure FirstUnread (typed : List (String × ColumnType)) (i : Nat) (value : String)
    (type : ColumnType) : Prop where
  here : typed[i]? = some (value, type)
  unread : convert type value = none
  before : ∀ j < i, ∀ p, typed[j]? = some p → (convert p.2 p.1).isSome

inductive Fails (s : Store) (statement : Statement) : Stage → AccessError → Prop
  | prepare {fault : Fault} (rejected : s.verdict statement.sql = .error fault) :
      Fails s statement .prepare (s.timedOut (.sql fault) .prepare)
  | arity {ps : List Prepared} (accepted : s.verdict statement.sql = .ok ps)
      (differ : ¬Agree statement ps) :
      Fails s statement .arity
        (.bindArity (placeholders ps) statement.values.length statement.types.length)
  | value {i : Nat} {value : String} {type : ColumnType}
      (first : FirstUnread statement.typed i value type) :
      Fails s statement .value (.invalidValue i value type)
  | execution {ps : List Prepared} {bound : List Sql.Value} {c : Connection} {cause : StoreError}
      (accepted : s.verdict statement.sql = .ok ps) (converted : Converted statement.typed bound)
      (failed : runAll bound s.patience s.connection 0 ⟨[], 0⟩ ps = (.error cause, c)) :
      Fails s statement .execution (s.timedOut cause .exec)

inductive Completes (s : Store) (statement : Statement) : Answer → Prop
  | mk {ps : List Prepared} {bound : List Sql.Value} {ran : Ran} {c : Connection}
      (accepted : s.verdict statement.sql = .ok ps)
      (agree : Agree statement ps)
      (converted : Converted statement.typed bound)
      (done : runAll bound s.patience s.connection 0 ⟨[], 0⟩ ps = (.ok ran, c)) :
      Completes s statement
        (if ∃ p ∈ ps, p.columns ≠ [] then .ofRows ran.rows
          else .ofCounts ran.changes (if ps = [] then 0 else c.counters.lastId))

section

variable {typed : List (String × ColumnType)} {bound bound' : List Sql.Value} {i k : Nat}
  {value : String} {type : ColumnType}

theorem Converted.unique (h : Converted typed bound) (h' : Converted typed bound') :
    bound = bound' := by
  induction h generalizing bound' with
  | nil => cases h'; rfl
  | cons first _ ih =>
    cases h' with
    | cons first' rest' =>
      obtain rfl := Option.some.inj (first.symm.trans first')
      rw [ih rest']

theorem Converted.isSome (h : Converted typed bound) {p : String × ColumnType} (hp : p ∈ typed) :
    (convert p.2 p.1).isSome := by
  induction h with
  | nil => cases hp
  | cons first _ ih =>
    rcases List.mem_cons.1 hp with rfl | hp
    · simp [first]
    · exact ih hp

theorem Converted.not_unread (h : Converted typed bound) : ¬FirstUnread typed i value type := by
  intro hu
  have hsome := h.isSome (List.mem_of_getElem? hu.here)
  simp [hu.unread] at hsome

theorem FirstUnread.cons {p : String × ColumnType} (hp : (convert p.2 p.1).isSome)
    (h : FirstUnread typed i value type) : FirstUnread (p :: typed) (i + 1) value type where
  here := h.here
  unread := h.unread
  before j hj q hq := by
    cases j with
    | zero =>
      obtain rfl := Option.some.inj hq
      exact hp
    | succ j => exact h.before j (Nat.lt_of_succ_lt_succ hj) q hq

theorem FirstUnread.unique {i' : Nat} {value' : String} {type' : ColumnType}
    (h : FirstUnread typed i value type) (h' : FirstUnread typed i' value' type') :
    i = i' ∧ value = value' ∧ type = type' := by
  have hle {a b : Nat} {v w : String} {t u : ColumnType} (ha : FirstUnread typed a v t)
      (hb : FirstUnread typed b w u) : a ≤ b := by
    by_contra hlt
    have hsome := ha.before b (Nat.lt_of_not_le hlt) _ hb.here
    simp [hb.unread] at hsome
  obtain rfl : i = i' := Nat.le_antisymm (hle h h') (hle h' h)
  obtain ⟨rfl, rfl⟩ := Prod.mk.inj (Option.some.inj (h.here.symm.trans h'.here))
  exact ⟨rfl, rfl, rfl⟩

/-- All values are converted, or the first that cannot be is told of. -/
theorem convertAll_cases (k : Nat) (values : List String) (types : List ColumnType) :
    (∃ bound, convertAll k values types = .ok bound ∧ Converted (values.zip types) bound) ∨
      ∃ i value type, convertAll k values types = .error (.invalidValue (k + i) value type) ∧
        FirstUnread (values.zip types) i value type := by
  induction values generalizing k types with
  | nil => exact .inl ⟨[], by rw [convertAll]; simp, .nil⟩
  | cons value values ih =>
    cases types with
    | nil => exact .inl ⟨[], by rw [convertAll]; simp, .nil⟩
    | cons type types =>
      rw [convertAll, List.zip_cons_cons]
      cases hv : convert type value with
      | none =>
        refine .inr ⟨0, value, type, rfl, rfl, hv, ?_⟩
        intro j hj
        cases hj
      | some v =>
        rcases ih (k + 1) types with ⟨bound, hc, hbound⟩ | ⟨i, value', type', hc, hfirst⟩
        · refine .inl ⟨v :: bound, ?_, .cons hv hbound⟩
          simp only [hc]
          rfl
        · have hsome : (convert type value).isSome := by simp [hv]
          refine .inr ⟨i + 1, value', type', ?_, hfirst.cons hsome⟩
          simp only [hc]
          rw [show k + 1 + i = k + (i + 1) by omega]
          rfl

end

variable {s : Store} {statement : Statement}

theorem Fails.unique {stage : Stage} {e e' : AccessError} (h : s.Fails statement stage e)
    (h' : s.Fails statement stage e') : e = e' := by
  cases h with
  | prepare rejected =>
    cases h' with
    | prepare rejected' =>
      obtain rfl := Except.error.inj (rejected.symm.trans rejected')
      rfl
  | arity accepted _ =>
    cases h' with
    | arity accepted' _ =>
      obtain rfl := Except.ok.inj (accepted.symm.trans accepted')
      rfl
  | value first =>
    cases h' with
    | value first' =>
      obtain ⟨rfl, rfl, rfl⟩ := first.unique first'
      rfl
  | execution accepted converted failed =>
    cases h' with
    | execution accepted' converted' failed' =>
      obtain rfl := Except.ok.inj (accepted.symm.trans accepted')
      obtain rfl := converted.unique converted'
      obtain ⟨he, -⟩ := Prod.mk.inj (failed.symm.trans failed')
      obtain rfl := Except.error.inj he
      rfl

/-- The stages of a run come after those of a request. -/
theorem Fails.late {stage : Stage} {e : AccessError} (h : s.Fails statement stage e) :
    Stage.columns.place < stage.place := by
  cases h <;> decide

theorem Completes.unique {a a' : Answer} (h : s.Completes statement a)
    (h' : s.Completes statement a') : a = a' := by
  obtain ⟨accepted, _, converted, done⟩ := h
  obtain ⟨accepted', _, converted', done'⟩ := h'
  obtain rfl := Except.ok.inj (accepted.symm.trans accepted')
  obtain rfl := converted.unique converted'
  obtain ⟨hran, rfl⟩ := Prod.mk.inj (done.symm.trans done')
  obtain rfl := Except.ok.inj hran
  rfl

theorem Completes.not_fails {a : Answer} (h : s.Completes statement a) (stage : Stage)
    (e : AccessError) : ¬s.Fails statement stage e := by
  obtain ⟨accepted, agree, converted, done⟩ := h
  intro hf
  cases hf with
  | prepare rejected => cases accepted.symm.trans rejected
  | arity accepted' differ =>
    obtain rfl := Except.ok.inj (accepted.symm.trans accepted')
    exact differ agree
  | value first => exact converted.not_unread first
  | execution accepted' converted' failed =>
    obtain rfl := Except.ok.inj (accepted.symm.trans accepted')
    obtain rfl := converted.unique converted'
    cases (Prod.mk.inj (done.symm.trans failed)).1

section

variable {ps : List Prepared}

theorem first_prepare {fault : Fault} (rejected : s.verdict statement.sql = .error fault) :
    FirstFailure (s.Fails statement) .prepare (s.timedOut (.sql fault) .prepare) where
  here := .prepare rejected
  before earlier e hlt hf := by
    cases hf <;> simp [Stage.place] at hlt

theorem first_arity (accepted : s.verdict statement.sql = .ok ps) (h : ¬Agree statement ps) :
    FirstFailure (s.Fails statement) .arity
      (.bindArity (placeholders ps) statement.values.length statement.types.length) where
  here := .arity accepted h
  before earlier e hlt hf := by
    cases hf with
    | prepare rejected => cases accepted.symm.trans rejected
    | arity | value | execution => simp [Stage.place] at hlt

theorem no_arity (accepted : s.verdict statement.sql = .ok ps) (h : Agree statement ps)
    {e : AccessError} : ¬s.Fails statement .arity e := by
  intro hf
  cases hf with
  | arity accepted' differ =>
    obtain rfl := Except.ok.inj (accepted.symm.trans accepted')
    exact differ h

theorem first_value (accepted : s.verdict statement.sql = .ok ps) (h : Agree statement ps)
    {i : Nat} {value : String} {type : ColumnType}
    (first : FirstUnread statement.typed i value type) :
    FirstFailure (s.Fails statement) .value (.invalidValue i value type) where
  here := .value first
  before earlier e hlt hf := by
    cases hf with
    | prepare rejected => cases accepted.symm.trans rejected
    | arity accepted' differ => exact no_arity accepted h (.arity accepted' differ)
    | value | execution => simp [Stage.place] at hlt

theorem first_execution (accepted : s.verdict statement.sql = .ok ps) (h : Agree statement ps)
    {bound : List Sql.Value} (converted : Converted statement.typed bound) {c : Connection}
    {cause : StoreError}
    (failed : runAll bound s.patience s.connection 0 ⟨[], 0⟩ ps = (.error cause, c)) :
    FirstFailure (s.Fails statement) .execution (s.timedOut cause .exec) where
  here := .execution accepted converted failed
  before earlier e hlt hf := by
    cases hf with
    | prepare rejected => cases accepted.symm.trans rejected
    | arity accepted' differ => exact no_arity accepted h (.arity accepted' differ)
    | value first => exact converted.not_unread first
    | execution => simp [Stage.place] at hlt

theorem answer_eq (ps : List Prepared) (ran : Ran) (c : Connection)
    (h : ps = [] → ran.changes = 0) :
    answer ps ran c =
      if ∃ p ∈ ps, p.columns ≠ [] then .ofRows ran.rows
      else .ofCounts ran.changes (if ps = [] then 0 else c.counters.lastId) := by
  have hany : (ps.any fun p => !p.columns.isEmpty) = true ↔ ∃ p ∈ ps, p.columns ≠ [] := by
    simp
  rw [answer]
  by_cases hc : ∃ p ∈ ps, p.columns ≠ []
  · rw [if_pos (hany.2 hc), if_pos hc]
  · rw [if_neg (mt hany.1 hc), if_neg hc]
    cases ps with
    | nil => simp [h rfl]
    | cons => simp

end

/-- A run as it goes through its stages: it completes, or it fails at one of them, and then it
has not touched the connection unless that is the last one. -/
theorem run_cases (s : Store) (statement : Statement) :
    (∃ a, (s.run statement).1 = .ok a ∧ s.Completes statement a) ∨
      ∃ stage e, (s.run statement).1 = .error e ∧ FirstFailure (s.Fails statement) stage e ∧
        (stage ≠ .execution → (s.run statement).2.connection = s.connection) := by
  obtain ⟨compiled, hcompile⟩ : ∃ compiled,
      s.compile statement.sql = (s.verdict statement.sql, { s with compiled }) := by
    rw [verdict, compile_eq]
    exact ⟨_, rfl⟩
  rw [run, hcompile]
  cases hv : s.verdict statement.sql with
  | error fault => exact .inr ⟨.prepare, _, rfl, first_prepare hv, fun _ => rfl⟩
  | ok ps =>
    by_cases hagree : Agree statement ps
    · have hb : bindings ps statement = convertAll 0 statement.values statement.types :=
        if_neg (not_or.2 ⟨not_not.2 hagree.1, not_not.2 hagree.2⟩)
      simp only [hb]
      rcases convertAll_cases 0 statement.values statement.types with
        ⟨bound, hc, hbound⟩ | ⟨i, value, type, hc, hfirst⟩
      · rw [hc]
        have hpatience : ({ s with compiled } : Store).patience = s.patience := rfl
        simp only [hpatience]
        cases hrun : runAll bound s.patience s.connection 0 ⟨[], 0⟩ ps with
        | mk r c =>
          cases r with
          | error cause =>
            refine .inr ⟨.execution, _, rfl, first_execution hv hagree hbound hrun, ?_⟩
            intro hlast
            exact absurd rfl hlast
          | ok ran =>
            have hchanges : ps = [] → ran.changes = 0 := by
              rintro rfl
              cases hrun
              rfl
            refine .inl ⟨_, rfl, ?_⟩
            rw [answer_eq ps ran c hchanges]
            exact .mk hv hagree hbound hrun
      · rw [hc, Nat.zero_add]
        exact .inr ⟨.value, _, rfl, first_value hv hagree hfirst, fun _ => rfl⟩
    · have hb : bindings ps statement = .error (.bindArity (placeholders ps)
          statement.values.length statement.types.length) := if_pos (not_and_or.1 hagree)
      refine .inr ⟨.arity, _, ?_, first_arity hv hagree, ?_⟩
      · simp only [hb]
      · simp only [hb, implies_true]

theorem run_error_iff (s : Store) (statement : Statement) (e : AccessError) :
    (s.run statement).1 = .error e ↔ ∃ stage, FirstFailure (s.Fails statement) stage e := by
  have hunique : ∀ stage e e', s.Fails statement stage e → s.Fails statement stage e' → e = e' :=
    fun _ _ _ => Fails.unique
  apply error_iff_firstFailure hunique
  rcases run_cases s statement with ⟨a, ha, hc⟩ | ⟨stage, e, he, hfirst, -⟩
  · exact .inl ⟨a, ha, hc.not_fails⟩
  · exact .inr ⟨stage, e, he, hfirst⟩

theorem run_untouched {stage : Stage} {e : AccessError}
    (h : FirstFailure (s.Fails statement) stage e) (hs : stage ≠ .execution) :
    (s.run statement).2.connection = s.connection := by
  rcases run_cases s statement with ⟨a, -, hc⟩ | ⟨stage', e', -, hfirst, htouch⟩
  · exact absurd h.here (hc.not_fails stage e)
  · obtain ⟨rfl, -⟩ := h.unique hfirst fun _ _ _ => Fails.unique
    exact htouch hs

theorem run_ok_iff (s : Store) (statement : Statement) (a : Answer) :
    (s.run statement).1 = .ok a ↔ s.Completes statement a := by
  rcases run_cases s statement with ⟨a', ha', hc⟩ | ⟨stage, e, he, hfirst, -⟩
  · constructor
    · intro ha
      obtain rfl := Except.ok.inj (ha.symm.trans ha')
      exact hc
    · intro hc'
      rw [ha', hc.unique hc']
  · constructor
    · intro ha
      cases ha.symm.trans he
    · intro hc
      exact absurd hfirst.here (hc.not_fails stage e)

end Store
end Tabular
