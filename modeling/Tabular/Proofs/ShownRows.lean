import Tabular.Proofs.NamedRows
import Tabular.Proofs.RowWidths
import Tabular.Proofs.RunStages

/-!
# The rows of an answer

The answer to a statement has a row for each row that its statements yield, in their order. Each
is shown under the columns of its statement.
-/

set_option autoImplicit false

namespace Tabular

namespace Sql

def Prepared.Current (c : Connection) (p : Prepared) : Prop :=
  Connection.columnsOf c.catalog p.instruction = .ok p.columns

/-- A text that is compiled as a whole is compiled for the tables as they are. -/
theorem Connection.prepareMore_current {c : Connection} (hd : c.damaged = false) (fuel : Nat)
    {done : Compiled} (h : ∀ p ∈ done.ready, p.Current c) :
    ∀ p ∈ (c.prepareMore fuel done).1.ready, p.Current c := by
  induction fuel generalizing done with
  | zero => exact h
  | succ fuel ih =>
    rw [prepareMore]
    split
    · exact h
    · exact h
    · next p rest hnext =>
      apply ih
      intro q hq
      rcases List.mem_append.1 hq with hq | hq
      · exact h q hq
      obtain rfl := List.mem_singleton.1 hq
      rw [prepareNext] at hnext
      obtain ⟨⟨ts, parameters⟩, -, hnext⟩ := bind_eq_ok.1 hnext
      obtain ⟨⟨i, left⟩, -, hnext⟩ := bind_eq_ok.1 hnext
      cases i with
      | none => cases hnext
      | some i =>
        dsimp only at hnext
        rw [if_neg (by simp [hd])] at hnext
        obtain ⟨columns, hcolumns, hnext⟩ := bind_eq_ok.1 hnext
        obtain ⟨hp, -⟩ := Prod.mk.inj (Except.ok.inj hnext)
        obtain rfl := Option.some.inj hp
        exact hcolumns

end Sql

namespace Store

open Sql (Connection Prepared)

structure Fetch where
  connection : Connection
  statement : Prepared
  row : Sql.Row

namespace Fetch

def Full (f : Fetch) : Prop := f.row.length = f.statement.columns.length

def shown (f : Fetch) : NamedRow := .ofValues f.statement.columns f.row

end Fetch

inductive Fetches (values : List Sql.Value) (patience : Nat) :
    Connection → Nat → List Prepared → List Fetch → Connection → Prop
  | done {c : Connection} {used : Nat} : Fetches values patience c used [] [] c
  | next {c c' last : Connection} {used used' : Nat} {p : Prepared} {ps : List Prepared}
      {bound : List Sql.Value} {rows : List Sql.Row} {fetched : List Fetch}
      (binds : bindFrom p.parameters values p.parameters.count 1 used = .ok (bound, used'))
      (runs : c.run patience bound p.instruction = (c', .ok rows))
      (rest : Fetches values patience c' used' ps fetched last) :
      Fetches values patience c used (p :: ps) (rows.map (Fetch.mk c p) ++ fetched) last

section

variable {values : List Sql.Value} {patience used : Nat} {c c' : Connection} {ps : List Prepared}
  {fetched : List Fetch}

theorem runAll_fetches {ran ran' : Ran}
    (h : runAll values patience c used ran ps = (.ok ran', c')) :
    ∃ fetched, Fetches values patience c used ps fetched c' ∧
      ran'.rows = ran.rows ++ fetched.map Fetch.shown := by
  induction ps generalizing c used ran with
  | nil =>
    obtain ⟨hran, rfl⟩ := Prod.mk.inj h
    obtain rfl := Except.ok.inj hran
    exact ⟨[], .done, (List.append_nil _).symm⟩
  | cons p ps ih =>
    rw [runAll] at h
    split at h
    · cases (Prod.mk.inj h).1
    · next bound used' hbinds =>
      split at h
      · cases (Prod.mk.inj h).1
      · next next rows hruns =>
        obtain ⟨fetched, hfetches, hrows⟩ := ih h
        refine ⟨_, .next hbinds hruns hfetches, ?_⟩
        rw [hrows, List.map_append, List.map_map, List.append_assoc]
        rfl

/-- A row is full if its statement is compiled for the tables as they are when it runs. -/
theorem Fetches.full (h : Fetches values patience c used ps fetched c') :
    ∀ f ∈ fetched, f.statement.Current f.connection → f.Full := by
  induction h with
  | done =>
    intro f hf
    cases hf
  | next _ runs _ ih =>
    intro f hf hcurrent
    rcases List.mem_append.1 hf with hf | hf
    · obtain ⟨row, hrow, rfl⟩ := List.mem_map.1 hf
      exact Connection.run_width hcurrent runs row hrow
    · exact ih f hf hcurrent

/-- The rows of a single statement are yielded by it on the connection as it was. -/
theorem Fetches.single {p : Prepared} (h : Fetches values patience c used [p] fetched c') :
    ∀ f ∈ fetched, f.connection = c ∧ f.statement = p := by
  cases h with
  | next _ _ rest =>
    cases rest
    intro f hf
    rw [List.append_nil] at hf
    obtain ⟨row, -, rfl⟩ := List.mem_map.1 hf
    exact ⟨rfl, rfl⟩

end

/-- The answer has a row for each row that the statements yield, if any of them has columns, and
else it has none. -/
structure Presents (ps : List Prepared) (fetched : List Fetch) (a : Answer) : Prop where
  rows : (∃ p ∈ ps, p.columns ≠ []) →
    List.Forall₂ (fun f shown => NamedRow.Shows f.statement.columns f.row shown) fetched a.rows
  rowless : (∀ p ∈ ps, p.columns = []) → a.rows = []

theorem Presents.mem {ps : List Prepared} {fetched : List Fetch} {a : Answer}
    (h : Presents ps fetched a) {row : NamedRow} (hrow : row ∈ a.rows) :
    ∃ f ∈ fetched, NamedRow.Shows f.statement.columns f.row row := by
  by_cases hp : ∃ p ∈ ps, p.columns ≠ []
  · obtain ⟨i, hi, rfl⟩ := List.getElem_of_mem hrow
    have hall := h.rows hp
    have hif : i < fetched.length := hall.length_eq ▸ hi
    exact ⟨fetched[i], List.getElem_mem hif, hall.get hif hi⟩
  · rw [h.rowless (by simpa using hp)] at hrow
    cases hrow

/-- All rows of one statement have the same columns, and so has the answer if there is a row. -/
theorem Presents.columns {p : Prepared} {fetched : List Fetch} {a : Answer}
    (h : Presents [p] fetched a) (hp : ∀ f ∈ fetched, f.statement = p) :
    (∀ row ∈ a.rows, row.keys = p.columns.eraseDups) ∧
      (a.rows ≠ [] → a.columns = p.columns.eraseDups) := by
  have hkeys : ∀ row ∈ a.rows, row.keys = p.columns.eraseDups := by
    intro row hrow
    obtain ⟨f, hf, hshows⟩ := h.mem hrow
    rw [← hp f hf]
    exact hshows.keys
  refine ⟨hkeys, fun hne => ?_⟩
  obtain ⟨row, rows, hrows⟩ := List.exists_cons_of_ne_nil hne
  rw [Answer.columns, hrows]
  exact hkeys row (hrows ▸ List.mem_cons_self)

structure Fresh (s : Store) (sql : String) : Prop where
  unknown : s.known sql = none
  undamaged : s.connection.damaged = false

theorem Fresh.current {s : Store} {sql : String} (h : s.Fresh sql) {ps : List Prepared}
    (hps : s.verdict sql = .ok ps) : ∀ p ∈ ps, p.Current s.connection := by
  rw [verdict, compile_eq, h.unknown] at hps
  have hall : ∀ p ∈ (prepared s.connection none sql).1.ready, p.Current s.connection := by
    apply Connection.prepareMore_current h.undamaged
    intro p hp
    cases hp
  unfold ready at hps
  dsimp only at hps
  split at hps
  · cases hps
  · obtain rfl := Except.ok.inj hps
    exact hall

/-- An answer comes of a run of the statements of the text, and has the rows that they yield. -/
theorem run_presents {s : Store} {statement : Statement} {a : Answer}
    (h : (s.run statement).1 = .ok a) :
    a.position = 0 ∧ ∃ ps bound fetched c,
      s.verdict statement.sql = .ok ps ∧ Converted statement.typed bound ∧
      Fetches bound s.patience s.connection 0 ps fetched c ∧ Presents ps fetched a := by
  obtain ⟨accepted, -, converted, done⟩ := (run_ok_iff s statement a).1 h
  rename_i ps bound ran c
  obtain ⟨fetched, hfetches, hrows⟩ := runAll_fetches done
  have hshown : List.Forall₂ (fun f shown => NamedRow.Shows f.statement.columns f.row shown)
      fetched (fetched.map Fetch.shown) := by
    rw [List.forall₂_map_right_iff, List.forall₂_same]
    exact fun f _ => NamedRow.shows_ofValues f.statement.columns f.row
  refine ⟨?_, ps, bound, fetched, c, accepted, converted, hfetches, ?_, ?_⟩
  · split <;> rfl
  · intro hp
    rw [if_pos hp]
    change List.Forall₂ _ fetched ran.rows
    rw [hrows]
    exact hshown
  · intro hp
    have hnone : ¬∃ p ∈ ps, p.columns ≠ [] := by simpa using hp
    rw [if_neg hnone]
    rfl

end Store
end Tabular
