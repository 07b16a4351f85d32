import Tabular.Proofs.RunStages

/-!
# Runs with bound values

A text of one statement runs as its instruction, once its values are converted. The values
are bound in their order where no parameter has a name.
-/

set_option autoImplicit false

namespace Tabular.Store

open Sql (Connection Prepared Value)

theorem bindFrom_unnamed (m : Nat) (values : List Value) {left used : Nat}
    (h : used + left ≤ values.length) (n : Nat) :
    bindFrom ⟨m, []⟩ values left n used = .ok ((values.drop used).take left, used + left) := by
  induction left generalizing used n with
  | zero => rfl
  | succ left ih =>
    have hlt : used < values.length := by omega
    have hnext : values.drop used = values[used] :: values.drop (used + 1) :=
      List.drop_eq_getElem_cons hlt
    have hname : (⟨m, []⟩ : Sql.Parameters).name? n = none := rfl
    have hfewer : used + 1 + left ≤ values.length := by omega
    have hrest := ih hfewer (n + 1)
    rw [bindFrom]
    simp only [hname, bind, Except.bind, Nat.add_sub_cancel, List.getElem?_eq_getElem hlt, hrest,
      hnext, List.take_succ_cons]
    rw [Nat.add_right_comm, Nat.add_assoc]

theorem bindFrom_all (values : List Value) :
    bindFrom ⟨values.length, []⟩ values values.length 1 0 = .ok (values, values.length) := by
  rw [bindFrom_unnamed _ _ (by omega), List.drop_zero, List.take_length, Nat.zero_add]

variable {s : Store} {statement : Statement} {p : Prepared} {bound : List Value}

theorem convertAll_converted {values : List String} {types : List ColumnType}
    (h : Converted (values.zip types) bound) (k : Nat) :
    convertAll k values types = .ok bound := by
  rcases convertAll_cases k values types with ⟨bound', hc, hbound⟩ | ⟨_, _, _, -, hfirst⟩
  · rw [hc, h.unique hbound]
  · exact absurd hfirst h.not_unread

def ofOutcome (s : Store) (p : Prepared) (o : Connection.Outcome) : Except AccessError Answer :=
  match o.2 with
  | .ok rows =>
    .ok (answer [p] ⟨rows.map (NamedRow.ofValues p.columns), o.1.counters.changes⟩ o.1)
  | .error e => .error (s.timedOut (.sql e) .exec)

theorem converted_of_bindings {ps : List Prepared} (h : bindings ps statement = .ok bound) :
    Converted statement.typed bound := by
  rw [bindings] at h
  split at h
  · cases h
  · rcases convertAll_cases 0 statement.values statement.types with
      ⟨bound', hc, hbound⟩ | ⟨i, value, type, hc, -⟩
    · obtain rfl := Except.ok.inj (hc.symm.trans h)
      exact hbound
    · cases hc.symm.trans h

theorem length_bound (hv : statement.values.length = statement.types.length)
    (hb : Converted statement.typed bound) : statement.values.length = bound.length := by
  have hzip := List.Forall₂.length_eq hb
  rw [Statement.typed, List.length_zip] at hzip
  omega

/-- One statement whose parameters have no names runs with the values in their order. -/
theorem outcome_single (hparameters : p.parameters = ⟨bound.length, []⟩)
    (hb : bindings [p] statement = .ok bound) :
    outcome s.connection s.timeout (.ok [p]) statement =
      (s.ofOutcome p (s.connection.run s.patience bound p.instruction),
        (s.connection.run s.patience bound p.instruction).1) := by
  have hpatience : (ofConnection s.connection s.timeout).patience = s.patience := rfl
  simp only [outcome, hb, runAll, hparameters, bindFrom_all, hpatience]
  rcases s.connection.run s.patience bound p.instruction with ⟨c, e | rows⟩
  · rfl
  · simp only [ofOutcome, List.nil_append, Nat.zero_add]

/-- A statement whose text is compiled as one runs as its instruction. -/
theorem run_compiled (statement : Statement)
    (hp : prepared s.connection (s.known statement.sql) statement.sql =
      (⟨[p], Connection.ended⟩, none))
    (hparameters : p.parameters = ⟨bound.length, []⟩)
    (hv : statement.values.length = statement.types.length)
    (hb : Converted statement.typed bound) :
    s.run statement =
      (s.ofOutcome p (s.connection.run s.patience bound p.instruction),
        ⟨(s.connection.run s.patience bound p.instruction).1,
          s.keeping statement.sql ⟨[p], Connection.ended⟩, s.timeout⟩) := by
  have hlength := length_bound hv hb
  have hcount : Sql.total ([p].map fun p => p.parameters.count) = bound.length := by
    simp [Sql.total, hparameters]
  have hbindings : bindings [p] statement = .ok bound := by
    rw [bindings, hcount, if_neg (by omega)]
    exact convertAll_converted hb 0
  have hready : ready (⟨[p], Connection.ended⟩, none) = .ok [p] := rfl
  rw [run_eq, hp, hready, outcome_single hparameters hbindings]

/-- A statement that is accepted as one, its values bound, runs as its instruction with them. -/
theorem run_single {n : Nat} (hverdict : s.verdict statement.sql = .ok [p])
    (hparameters : p.parameters = ⟨n, []⟩) (hb : bindings [p] statement = .ok bound) :
    (s.run statement).1 = s.ofOutcome p (s.connection.run s.patience bound p.instruction) ∧
      (s.run statement).2.connection = (s.connection.run s.patience bound p.instruction).1 := by
  have hn : n = bound.length := by
    have hbound := hb
    rw [bindings] at hbound
    split at hbound
    · cases hbound
    · next hcounts =>
      obtain ⟨hv, hcount⟩ := not_or.1 hcounts
      simp only [Sql.total, hparameters, List.map_cons, List.map_nil, List.foldr_cons,
        List.foldr_nil, Nat.add_zero] at hcount
      have hlength := length_bound (not_not.1 hv) (converted_of_bindings hb)
      omega
  have hready : ready (prepared s.connection (s.known statement.sql) statement.sql) = .ok [p] := by
    rw [← hverdict, verdict, compile_eq]
  rw [run_eq, hready, outcome_single (hn ▸ hparameters) hb]
  exact ⟨rfl, rfl⟩

end Tabular.Store
