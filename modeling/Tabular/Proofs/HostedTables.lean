import Tabular.Proofs.TableRequests

/-!
# Stores with a plain table

Each request on a plain table of a store does what it says to the row of one number, and
leaves a store with a plain table, so that the next request can follow.
-/

set_option autoImplicit false

namespace Tabular

open Sql Sql.Connection

def rowText (table : String) : String :=
  String.ofList (pieceText (Statement.selectByIdPieces table))

namespace Request

variable {table : String} {types : ColumnTypes} {r : Request}

theorem head_rowText (table : String) : (rowText table).toList.head? = some 'S' := by
  rw [rowText, String.toList_ofList]
  rfl

theorem rowText_ne_question (table : String) : rowText table ≠ ColumnCache.questionText := by
  intro h
  have hstar : (rowText table).toList[7]? = some '*' := by
    rw [rowText, String.toList_ofList]
    rfl
  have hname : ColumnCache.questionText.toList[7]? = some 'n' := by rfl
  rw [h, hname] at hstar
  cases hstar

def Changes : Request → Prop
  | insert _ | update _ _ | delete _ => True
  | get _ | list _ => False

theorem Changes.silent (h : r.Changes) : IsSilent (r.instruction table) := by
  cases r <;> first | rfl | cases h

theorem Changes.no_columns (h : r.Changes) {p : Prepared} (hp : r.Compiled table types p) :
    p.columns = [] := by
  obtain ⟨c, hc⟩ := hp.columns
  exact columns_silent (hp.instruction ▸ h.silent) hc

theorem Changes.text_ne (h : r.Changes) : (r.written table types).sql ≠ rowText table := by
  intro he
  have hhead := head_rowText table
  rw [← he, written, String.toList_ofList] at hhead
  cases r with
  | insert fields => cases (show some 'I' = some 'S' from hhead)
  | update id fields => cases (show some 'U' = some 'S' from hhead)
  | delete id => cases (show some 'D' = some 'S' from hhead)
  | get | list => cases h

end Request

namespace Store

/-- A store that can be written holds a plain table under a name that can stand in a text. If it
knows how to ask for a row, then with the columns of the table as it is. -/
structure Hosts (s : Store) (table : String) (t : Table) : Prop where
  reachable : s.Reachable
  regular : Identifier.isPlain table
  unreserved : isReserved table = false
  writable : s.connection.readOnly = false
  intact : s.connection.damaged = false
  held : s.connection.catalog.Holds table t
  noted : s.connection.catalog.Notes t
  plain : t.Plain
  sound : t.Sound
  current : ∀ p, s.known (rowText table) = some ⟨[p], ended⟩ → p.columns = t.columns.map Column.name

namespace Hosts

variable {s : Store} {table : String} {t : Table} {id : Int64} {fields : List Field}
  {types : ColumnTypes}

theorem one_within (v : Value) : [v].length ≤ Parameters.limit :=
  (by decide : 1 ≤ Parameters.limit)

/-- The table is hosted on after a statement that leaves it with other rows. -/
theorem ran (h : s.Hosts table t) {statement : Statement} {p : Prepared} {c : Connection}
    (rows : Rows) (new : Option Int64)
    (hrun : (s.run statement).2 = ⟨c, s.keeping statement.sql ⟨[p], ended⟩, s.timeout⟩)
    (htext : statement.sql = rowText table → p.columns = t.columns.map Column.name)
    (hw : c.readOnly = s.connection.readOnly) (hd : c.damaged = s.connection.damaged)
    (hc : c.catalog = s.connection.catalog.storing t rows new) (hs : (t.holding rows).Sound) :
    (s.run statement).2.Hosts table (t.holding rows) where
  reachable := h.reachable.ran statement
  regular := h.regular
  unreserved := h.unreserved
  writable := by rw [hrun, hw, h.writable]
  intact := by rw [hrun, hd, h.intact]
  held := by
    rw [hrun, hc]
    exact h.held.storing h.noted rows new
  noted := by
    rw [hrun, hc]
    exact h.noted.storing rows new
  plain := h.plain.holding rows
  sound := hs
  current q hq := by
    rw [hrun] at hq
    by_cases hsql : statement.sql = rowText table
    · rw [← hsql, known_keeping] at hq
      cases hq
      exact htext hsql
    · exact h.current q (known_of_keeping (Ne.symm hsql) hq)

theorem run_get (h : s.Hosts table t) (types : ColumnTypes) (id : Int64) :
    (s.run ((Request.get id).written table types)).1 =
        .ok (.ofRows
          ((t.rows.get? id).toList.map (NamedRow.ofValues (t.columns.map Column.name)))) ∧
      (s.run ((Request.get id).written table types)).2.connection = s.connection ∧
      (s.run ((Request.get id).written table types)).2.Hosts table t := by
  have hcolumns : s.connection.columnsHere ((Request.get id).instruction table) =
      .ok (t.columns.map Column.name) := Table.columns_row h.intact h.held h.plain
  have hrow : s.connection.run s.patience [.int id] ((Request.get id).instruction table) =
      (s.connection, .ok (t.rows.get? id).toList) :=
    Table.run_row h.held h.plain h.sound rfl
  have hrun := Request.run_here types (r := .get id) h.reachable h.regular h.unreserved
    trivial trivial (Request.bound_id id) (one_within _) hcolumns fun q _ hq => h.current q hq
  simp only [hrow] at hrun
  have hnamed : (t.columns.map Column.name).isEmpty = false := by simpa using h.plain.columns_ne
  refine ⟨?_, congrArg (fun o => o.2.connection) hrun, ?_⟩
  · rw [hrun, ofOutcome]
    simp only [answer, List.any_cons, hnamed, Bool.not_false, Bool.true_or, if_true]
  · exact h.ran t.rows none (congrArg Prod.snd hrun) (fun _ => rfl) rfl rfl
      h.held.setRows_same.symm h.sound

/-- A request that changes rows answers with their count, and other rows are in the table. -/
theorem run_change {r : Request} {bound : List Value} {w : Work} {rows : Rows}
    (new : Option Int64) (h : s.Hosts table t) (hr : r.Changes) (hk : r.Known types)
    (ho : r.Ordinary types) (hb : r.Bound types bound) (hl : bound.length ≤ Parameters.limit)
    (hcolumns : s.connection.columnsHere (r.instruction table) = .ok [])
    (hrun : s.connection.run s.patience bound (r.instruction table) =
      (s.connection.after w, .ok []))
    (hw : w.catalog = s.connection.catalog.storing t rows new) (hs : (t.holding rows).Sound) :
    (s.run (r.written table types)).1 = .ok (.ofCounts w.changes w.lastId) ∧
      (s.run (r.written table types)).2.connection = s.connection.after w ∧
      (s.run (r.written table types)).2.Hosts table (t.holding rows) := by
  have hdone := Request.run_here types h.reachable h.regular h.unreserved hk ho hb hl hcolumns
    fun _ hq _ => hr.no_columns hq
  simp only [hrun] at hdone
  refine ⟨?_, congrArg (fun o => o.2.connection) hdone, ?_⟩
  · rw [hdone]
    rfl
  · exact h.ran rows new (congrArg Prod.snd hdone) (fun ht => absurd ht hr.text_ne) rfl rfl hw hs

theorem columns_ok {α : Type} {c : Connection} {i : Instruction} {r : Except Fault α}
    {f : α → List String} {a : α} (hd : c.damaged = false) (hi : columnsOf c.catalog i = r.map f)
    (hr : r = .ok a) : c.columnsHere i = .ok (f a) := by
  rw [Connection.columnsHere, hd, if_neg Bool.false_ne_true, hi, hr]
  rfl

/-- A deletion takes the row of a number away, if there is one. -/
theorem run_delete (h : s.Hosts table t) (types : ColumnTypes) (id : Int64) :
    ∃ w : Work, w.catalog = s.connection.catalog.setRows t.name (t.rows.erase id) ∧
      (s.run ((Request.delete id).written table types)).1 =
        .ok (.ofCounts (if (t.rows.get? id).isSome then 1 else 0) w.lastId) ∧
      (s.run ((Request.delete id).written table types)).2.connection = s.connection.after w ∧
      (s.run ((Request.delete id).written table types)).2.Hosts table
        (t.holding (t.rows.erase id)) := by
  obtain ⟨i, idc, -, hi, hname⟩ := h.plain.numbered
  have hcolumns : s.connection.columnsHere ((Request.delete id).instruction table) = .ok [] :=
    columns_ok (f := fun r => r.returning.map Output.name) h.intact rfl
      (resolve_deletion h.held h.plain hi hname)
  have hnumber : [Value.int id][0]? = some (.int id) := rfl
  have hrun := run_deletion s.patience h.writable h.held h.plain h.sound hnumber
  cases hrow : t.rows.get? id with
  | some row =>
    simp only [hrow] at hrun
    exact ⟨_, rfl, h.run_change none (r := .delete id) trivial trivial trivial (Request.bound_id id)
      (one_within _) hcolumns hrun rfl (h.sound.erase id)⟩
  | none =>
    simp only [hrow] at hrun
    have hsame : s.connection.work.catalog =
        s.connection.catalog.setRows t.name (t.rows.erase id) := by
      rw [Rows.erase_absent hrow, h.held.setRows_same]
      rfl
    exact ⟨_, hsame, h.run_change none (r := .delete id) trivial trivial trivial
      (Request.bound_id id) (one_within _) hcolumns hrun hsame (h.sound.erase id)⟩

/-- An update gives the row of a number what the fields say, if there is one. -/
theorem run_update (h : s.Hosts table t) (ha : t.Accepts fields) (id : Int64) :
    ∃ w : Work, w.catalog = s.connection.catalog.setRows t.name (t.updated id fields) ∧
      (s.run ((Request.update id fields).written table t.types)).1 =
        .ok (.ofCounts (if (t.rows.get? id).isSome then 1 else 0) w.lastId) ∧
      (s.run ((Request.update id fields).written table t.types)).2.connection =
        s.connection.after w ∧
      (s.run ((Request.update id fields).written table t.types)).2.Hosts table
        (t.holding (t.updated id fields)) := by
  obtain ⟨i, idc, -, hi, hname⟩ := h.plain.numbered
  obtain ⟨pairs, hp⟩ := ha.placed
  have hb : (Request.update id fields).Bound t.types (pairs.map Prod.snd ++ [.int id]) :=
    List.rel_append (hp.bound h.plain) (Request.bound_id id)
  have hl : (pairs.map Prod.snd ++ [Value.int id]).length ≤ Parameters.limit := by
    have hfewer := hp.fewer h.plain ha.distinct
    have hnarrow := h.plain.narrow
    simp only [List.length_append, List.length_map, List.length_singleton, hp.length_eq]
    omega
  have hk : (Request.update id fields).Known t.types := ⟨ha.given, hp.known h.plain⟩
  have hcolumns :
      s.connection.columnsHere ((Request.update id fields).instruction table) = .ok [] :=
    columns_ok (f := fun r => r.returning.map Output.name) h.intact rfl
      (resolve_update h.held h.plain hi hname hp)
  have hrun := Sql.run_update s.patience id h.writable h.held h.plain h.sound hp
    ha.distinct
  have hsound := h.sound.updated h.plain ha id
  cases hrow : t.rows.get? id with
  | some row =>
    simp only [hrow] at hrun
    exact ⟨_, by rw [Table.updated, hrow], h.run_change none (r := .update id fields) trivial hk
      h.plain.ordinary_types hb hl hcolumns hrun (by rw [Table.updated, hrow]; rfl) hsound⟩
  | none =>
    simp only [hrow] at hrun
    have hsame : s.connection.work.catalog =
        s.connection.catalog.setRows t.name (t.updated id fields) := by
      rw [Table.updated, hrow]
      exact h.held.setRows_same.symm
    exact ⟨_, hsame, h.run_change none (r := .update id fields) trivial hk h.plain.ordinary_types
      hb hl hcolumns hrun hsame hsound⟩

/-- An insertion adds a row under a fresh number. Where there is none left, nothing happens, but
for a transaction that is rolled back. -/
theorem run_insert (h : s.Hosts table t) (ha : t.Accepts fields) :
    (∃ id w, freshId s.connection.catalog t = .ok id ∧
      w.catalog =
        s.connection.catalog.storing t (t.rows.set id (t.newRow id fields)) (some id) ∧
      (s.run ((Request.insert fields).written table t.types)).1 = .ok (.ofCounts 1 id) ∧
      (s.run ((Request.insert fields).written table t.types)).2.connection =
        s.connection.after w ∧
      (s.run ((Request.insert fields).written table t.types)).2.Hosts table
        (t.holding (t.rows.set id (t.newRow id fields)))) ∨
    ∃ e e', freshId s.connection.catalog t = .error e' ∧
      (s.run ((Request.insert fields).written table t.types)).1 = .error e ∧
      (s.connection.transaction = none →
        (s.run ((Request.insert fields).written table t.types)).2.connection.catalog =
            s.connection.catalog ∧
          (s.run ((Request.insert fields).written table t.types)).2.connection.transaction = none ∧
          (s.run ((Request.insert fields).written table t.types)).2.Hosts table t) := by
  obtain ⟨pairs, hp⟩ := ha.placed
  have hb : (Request.insert fields).Bound t.types (pairs.map Prod.snd) := hp.bound h.plain
  have hl : (pairs.map Prod.snd).length ≤ Parameters.limit := by
    have hfewer := hp.fewer h.plain ha.distinct
    have hnarrow := h.plain.narrow
    rw [List.length_map, hp.length_eq]
    omega
  have hk : (Request.insert fields).Known t.types := ⟨ha.given, hp.known h.plain⟩
  have hcolumns :
      s.connection.columnsHere ((Request.insert fields).instruction table) = .ok [] := by
    obtain ⟨cs, hresolve⟩ := resolve_insertion h.held h.plain hp ha.given
    exact columns_ok (i := (Request.insert fields).instruction table)
      (f := fun r => r.returning.map Output.name) h.intact rfl hresolve
  rcases run_insertion s.patience h.writable h.held h.noted h.plain h.sound hp ha.given with
    ⟨id, hid, hrun⟩ | ⟨e, counters, hfull, herror, hsame⟩
  · exact .inl ⟨id, _, hid, rfl,
      h.run_change (some id) (r := .insert fields) trivial hk trivial hb hl hcolumns hrun rfl
        (h.sound.set (h.plain.fits_newRow id fields))⟩
  · have hdone := Request.run_here t.types (r := .insert fields) h.reachable h.regular h.unreserved
      hk trivial hb hl hcolumns fun _ hq _ =>
        Request.Changes.no_columns (r := .insert fields) trivial hq
    simp only [Request.instruction] at hdone
    refine .inr ⟨s.timedOut (.sql e) .exec, e, hfull, ?_, fun hnone => ?_⟩
    · rw [hdone, ofOutcome, herror]
    · have hconnection := (congrArg (fun o => o.2.connection) hdone).trans (hsame hnone)
      simp only [hsame hnone] at hdone
      exact ⟨by rw [hconnection], by rw [hconnection, hnone], h.ran t.rows none
        (congrArg Prod.snd hdone)
        (fun ht => absurd ht (Request.Changes.text_ne (r := .insert fields) trivial)) rfl rfl
        h.held.setRows_same.symm h.sound⟩

end Hosts
end Store
end Tabular
