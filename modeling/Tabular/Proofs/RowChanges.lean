import Tabular.Proofs.RowSelection

/-!
# Changes of single rows

On a plain table an insertion adds one row under a fresh number, and an update and a
deletion change the row under a number, if there is one. All else stays as it is.
-/

set_option autoImplicit false

namespace Tabular.Sql

section

variable {s : Scene} {c : Catalog} {t : Table} {id : Int64} {row : Row} {name : String}

theorem requireCells_free {columns : List Column}
    (hfree : ∀ column ∈ columns, column.required = none) (hl : row.length = columns.length)
    (conflict : Option Conflict) :
    requireCells s conflict t columns row = .ok (some row) := by
  induction columns generalizing row with
  | nil =>
    rw [List.length_eq_zero_iff.1 hl]
    rfl
  | cons column columns ih =>
    obtain ⟨hcolumn, hrest⟩ := List.forall_mem_cons.1 hfree
    cases row with
    | nil => cases hl
    | cons v row =>
      have hl : row.length = columns.length := Nat.succ.inj hl
      rw [requireCells]
      simp only [hcolumn, List.headD_cons, List.tail_cons, ih hrest hl, bind, Except.bind,
        Option.map_some]

theorem clearIndexes_repeatable (s : Scene) (id : Int64) (row : Row) {indexes : List Index}
    {u : Table}
    (hrepeat : ∀ i ∈ indexes, i.unique = false) (hu : c.table? name = some u)
    (conflict : Option Conflict) :
    clearIndexes s conflict name id row indexes c = .ok (some c) := by
  induction indexes with
  | nil => rfl
  | cons i indexes ih =>
    obtain ⟨hi, hrest⟩ := List.forall_mem_cons.1 hrepeat
    have hrival : i.rival? (s.holding c) u id row = .ok none := by
      rw [Index.rival?, hi]
      rfl
    rw [clearIndexes]
    simp only [hu, hrival, Attempt.ofResult, bind, Except.bind, clearWay, ih hrest]

def vacated (c : Catalog) (t : Table) : Option Int64 → Catalog
  | some old => c.setRows t.name (t.rows.erase old)
  | none => c

theorem table?_vacated (h : c.Holds name t) (old : Option Int64) :
    ∃ u, (vacated c t old).table? t.name = some u := by
  cases old with
  | none => exact ⟨t, h.itself.table?⟩
  | some o => exact ⟨_, (h.setRows (t.rows.erase o)).itself.table?⟩

/-- A row of a plain table breaks no rule, if its number is its own. -/
theorem judge_plain (h : c.Holds name t) (ht : t.Plain) (hl : row.length = t.width)
    (old : Option Int64) (hown : old ≠ some id → t.rows.get? id = none) :
    judge s none c t old id row = .ok (some (row, vacated c t old)) := by
  have hcells : requireCells (s.holding c) none t t.columns row = .ok (some row) :=
    requireCells_free (fun column hc => (ht.free column hc).1) hl none
  have htypes : requireTypes t row = .ok () := by
    rw [requireTypes]
    split
    · rw [ht.loose]
      rfl
    · rfl
  have hrival : (if old ≠ some id && t.rows.contains id then some id else none) = none := by
    by_cases ho : old = some id
    · simp [ho]
    · simp [Rows.contains, hown ho]
  obtain ⟨u, hu⟩ := table?_vacated h old
  have hclear := clearIndexes_repeatable s id row h.repeatable hu none
  rw [judge]
  simp only [hcells, htypes, ht.unchecked, meetsChecks, hrival, clearWay, bind, Except.bind,
    Bool.not_true, Bool.false_eq_true, if_false]
  cases old with
  | none =>
    rw [vacated] at hclear
    simp only [hclear, vacated]
  | some o =>
    rw [vacated] at hclear
    simp only [h.itself.table?, Option.map_some, Option.getD_some, hclear, vacated]

theorem writeRow_vacated (h : c.Holds name t) (hs : t.Sound) (old : Option Int64) (id : Int64)
    (row : Row) (hown : ∀ o, old = some o → o = id) :
    writeRow (vacated c t old) t old id row = c.setRows t.name (t.rows.set id row) := by
  cases old with
  | none => simp only [vacated, writeRow, h.itself.table?]
  | some o =>
    obtain rfl := hown o rfl
    have htable := (h.setRows (t.rows.erase o)).itself.table?
    rw [Table.holding] at htable
    simp only [vacated, writeRow, htable, Rows.erase_erase, hs.ascending.set_erase,
      Catalog.setRows_setRows]

theorem eraseRow_plain (h : c.Holds name t) (hrow : t.rows.get? id = some row) (depth : Nat) :
    eraseRow s (depth + 1) c t.name id = .ok (c.setRows t.name (t.rows.erase id)) := by
  simp only [eraseRow, h.itself.table?, hrow, h.unreferred]
  rfl

theorem followChange_plain {before : Catalog} (h : before.Holds name t) (old new : Row)
    (after : Catalog) (depth : Nat) :
    followChange s (depth + 1) before after t.name old new = .ok after := by
  simp only [followChange, h.unreferred]
  rfl

variable {w : Work}

theorem deleteRow_plain (h : w.catalog.Holds name t) (hrow : t.rows.get? id = some row) :
    deleteRow s w t.name id = .ok (some (⟨w.catalog.setRows t.name (t.rows.erase id),
      w.changes + 1, w.lastId⟩, id, row)) := by
  have herase := eraseRow_plain (s := s.holding w.catalog) h hrow (chainLimit - 1)
  have hlimit : chainLimit - 1 + 1 = chainLimit := rfl
  rw [hlimit] at herase
  simp only [deleteRow, h.itself.table?, Option.bind_some, hrow, herase, bind, Except.bind]

/-- The values that are assigned, as they are written into a row one after the other. -/
theorem getElem?_assigned {pairs : List (Nat × Value)} (hd : (pairs.map Prod.fst).Nodup) {n : Nat}
    {v : Value} (hv : row[n]? = some v) :
    (pairs.foldl (fun (row : Row) p => row.set p.1 p.2) row)[n]? =
      some ((Table.Placed.valueAt pairs n).getD v) := by
  induction pairs generalizing row v with
  | nil => exact hv
  | cons p pairs ih =>
    obtain ⟨hnew, hd⟩ := List.nodup_cons.1 hd
    obtain ⟨hlt, -⟩ := List.getElem?_eq_some_iff.1 hv
    rw [List.foldl_cons, Table.Placed.valueAt_cons]
    by_cases hp : p.1 = n
    · subst hp
      have hset : (row.set p.1 p.2)[p.1]? = some p.2 := by
        rw [List.getElem?_set_self hlt]
      have hnone : Table.Placed.valueAt pairs p.1 = none := by
        rw [Table.Placed.valueAt, Option.map_eq_none_iff, List.find?_eq_none]
        intro q hq
        have hne : q.1 ≠ p.1 := fun he => hnew (he ▸ List.mem_map_of_mem hq)
        simpa using hne
      rw [ih hd hset, hnone, if_pos rfl]
      rfl
    · rw [if_neg hp]
      exact ih hd ((List.getElem?_set_ne hp).trans hv)

theorem length_assigned (pairs : List (Nat × Value)) (row : Row) :
    (pairs.foldl (fun (row : Row) p => row.set p.1 p.2) row).length = row.length := by
  induction pairs generalizing row with
  | nil => rfl
  | cons p pairs ih => rw [List.foldl_cons, ih, List.length_set]

variable {fields : List Field} {pairs : List (Nat × Value)}

def assignedOf (pairs : List (Nat × Value)) : List (Assigned × Value) :=
  pairs.map fun p => (.cell p.1, p.2)

theorem updateRow_plain (h : w.catalog.Holds name t) (ht : t.Plain) (hs : t.Sound)
    (hp : t.Placed fields pairs) (hd : (fields.map Prod.fst).Nodup)
    (hrow : t.rows.get? id = some row) :
    updateRow s none w t.name id (assignedOf pairs) =
      .ok (some (⟨w.catalog.setRows t.name (t.rows.set id (t.changedRow fields row)),
        w.changes + 1, w.lastId⟩, id, t.changedRow fields row)) := by
  have hfits := hs.get? hrow
  have hplaced :
      (pairs.map fun p => (Assigned.cell p.1, p.2)).filter (fun a => a.1 = .id) = [] := by
    simp [List.filter_map, Function.comp_def]
  have hlength := (length_assigned pairs row).trans hfits.1
  have hstored : t.stored id (pairs.foldl (fun (row : Row) p => row.set p.1 p.2) row) =
      t.changedRow fields row :=
    hp.stored_changed ht hfits hlength fun n v hv => getElem?_assigned (hp.nodup hd) hv
  have hwidth : (t.changedRow fields row).length = t.width := by
    rw [← hstored, Table.length_stored, hlength, Nat.min_self]
  have hjudge := judge_plain (s := s) h ht hwidth (some id) fun hne => absurd rfl hne
  have hwrite := writeRow_vacated h hs (some id) id (t.changedRow fields row)
    fun o ho => (Option.some.inj ho).symm
  have hfollow (s : Scene) (after : Catalog) :
      followChange s chainLimit (vacated w.catalog t (some id)) after t.name row
        (t.changedRow fields row) = .ok after :=
    followChange_plain (h.setRows _) row _ after (chainLimit - 1)
  rw [updateRow, assignedOf]
  simp only [h.itself.table?, hrow, hplaced, List.getLast?_nil, List.foldl_map, hstored, hjudge,
    hwrite, hfollow, bind, Except.bind]

theorem newCells_free {columns : List Column} (source : Row) (places : List (Option Nat))
    (hfree : ∀ column ∈ columns, column.default = none) (hl : places.length = columns.length) :
    newCells s source columns places =
      .ok (places.map fun place => (place.bind fun i => source[i]?).getD .null) := by
  induction columns generalizing places with
  | nil =>
    rw [List.length_eq_zero_iff.1 hl]
    rfl
  | cons column columns ih =>
    obtain ⟨hcolumn, hrest⟩ := List.forall_mem_cons.1 hfree
    cases places with
    | nil => cases hl
    | cons place places =>
      have hdefault : column.defaultValue s = .ok .null := by rw [Column.defaultValue, hcolumn]
      simp only [newCells, ih places hrest (Nat.succ.inj hl), hdefault, bind, Except.bind]
      cases place <;> rfl

def placesOf (t : Table) (pairs : List (Nat × Value)) : List (Option Nat) :=
  (List.range t.width).map fun n =>
    (pairs.map fun p => Assigned.cell p.1).findIdx? fun a => a = .cell n

theorem value_supplied (pairs : List (Nat × Value)) (n : Nat) :
    (((pairs.map fun p => Assigned.cell p.1).findIdx? fun a => a = .cell n).bind fun i =>
      (pairs.map Prod.snd)[i]?) = Table.Placed.valueAt pairs n := by
  induction pairs with
  | nil => rfl
  | cons p pairs ih =>
    rw [Table.Placed.valueAt_cons, List.map_cons, List.findIdx?_cons]
    by_cases hp : p.1 = n
    · simp [hp]
    · simp only [Assigned.cell.injEq, hp, decide_false, Bool.false_eq_true, if_false]
      rw [← ih, Option.bind_map]
      rfl

def insertingOf (t : Table) (pairs : List (Nat × Value)) (plan : Plan) : Inserting :=
  ⟨t, none, placesOf t pairs, none, some plan, [], []⟩

theorem insertRow_plain (h : w.catalog.Holds name t) (ht : t.Plain) (hs : t.Sound)
    (hp : t.Placed fields pairs) (plan : Plan) (hid : freshId w.catalog t = .ok id) :
    insertRow s (insertingOf t pairs plan) w (pairs.map Prod.snd) =
      .ok (some (⟨w.catalog.storing t (t.rows.set id (t.newRow id fields)) (some id),
        w.changes + 1, id⟩, id, t.newRow id fields)) := by
  have hfresh := freshId_absent hs.ascending hid
  have hcells := newCells_free (s := s.holding w.catalog) (pairs.map Prod.snd)
    (placesOf t pairs) (fun column hc => (ht.free column hc).2)
    (by simp [placesOf, Table.width])
  have hstored : t.stored id ((placesOf t pairs).map fun place =>
      (place.bind fun i => (pairs.map Prod.snd)[i]?).getD .null) = t.newRow id fields := by
    refine hp.stored_new ht (by simp [placesOf]) fun n hn => ?_
    rw [List.getElem?_map, placesOf, List.getElem?_map, List.getElem?_range hn, Option.map_some,
      Option.map_some, value_supplied]
  have hwidth : (t.newRow id fields).length = t.width := List.length_map _
  have hjudge := judge_plain (s := s) h ht hwidth none fun _ => hfresh
  have hwrite := writeRow_vacated h hs none id (t.newRow id fields) fun o ho =>
    absurd ho (Option.some_ne_none o).symm
  rw [insertRow, insertingOf]
  simp only [h.itself.table?, hid, hcells, hstored, upsertFor, hjudge, hwrite, Attempt.ofResult,
    bind, Except.bind]
  rfl

/-- Where no number is left, no row is added. -/
theorem insertRow_full {e : Fault} (h : w.catalog.Holds name t) (pairs : List (Nat × Value))
    (plan : Plan) (values : Row) (hfull : freshId w.catalog t = .error e) :
    insertRow s (insertingOf t pairs plan) w values = .error ⟨e, .abort⟩ := by
  rw [insertRow, insertingOf]
  simp only [h.itself.table?, hfull, Attempt.ofResult, bind, Except.bind]

end

theorem stepThrough_one {α : Type} (s : Scene) {step : Work → α → Attempt Stepped} {w next : Work}
    {a : α} {id : Int64} {row : Row} (h : step w a = .ok (some (next, id, row))) :
    stepThrough s [] step w [] [a] = ⟨next, [], none⟩ := by
  rw [stepThrough, h]
  rfl

namespace Connection

variable {c : Connection}

def after (c : Connection) (w : Work) : Connection :=
  { c with
    catalog := w.catalog
    counters := ⟨w.changes, c.counters.totalChanges + w.changes, w.lastId⟩ }

@[simp]
theorem catalog_after (c : Connection) (w : Work) : (c.after w).catalog = w.catalog := rfl

@[simp]
theorem transaction_after (c : Connection) (w : Work) :
    (c.after w).transaction = c.transaction := rfl

theorem referencesKept_of_eq {next : Catalog}
    (h : ∀ deferred, next.violations deferred = c.catalog.violations deferred) :
    c.referencesKept next = true := by
  simp [referencesKept, h]

theorem settled_kept {w : Work} {rows : List Row} (h : c.referencesKept w.catalog = true) :
    c.settled ⟨w, rows, none⟩ = (c.after w, .ok rows) := by
  rw [settled]
  simp only [h, if_true]
  rfl

end Connection

section

open Connection

variable {c : Connection} {t : Table} {name : String} {id : Int64} {patience : Nat}
  {parameters : List Value}

theorem writableTable_ok {catalog : Catalog} (h : catalog.Holds name t) :
    writableTable catalog (tableName name) = .ok t := by
  simp [writableTable, tableName, isKnownSchema, h.own, h.table?]

theorem checkReferences_plain (catalog : Catalog) (ht : t.Plain) :
    checkReferences catalog t = .ok () := by
  rw [checkReferences, ht.unlinked]
  rfl

theorem checkReferring_plain {catalog : Catalog} (h : catalog.Holds name t) :
    checkReferring catalog t = .ok () := by
  rw [checkReferring, h.unreferred]
  rfl

variable {i : Nat} {idc : Column}

theorem condition_alone {catalog : Catalog} (ht : t.Plain) (hi : t.columns[i]? = some idc)
    (hname : idc.name = "id") (n : Nat) :
    (idTerm n).resolveAlone resolveQuery
        ((Site.ofCatalog catalog).within (.ofRanges [t.range t.name 0])) =
      .ok (.plain (Table.idFormula i idc n)) := by
  have hterm := ht.resolve_id hi hname resolveQuery (Site.ofCatalog catalog).refuseAggregates
    t.name [] n []
  rw [Term.resolveAlone, Resolving.alone]
  exact congrArg (Except.map Prod.fst) hterm

theorem resolve_deletion {catalog : Catalog} (h : catalog.Holds name t) (ht : t.Plain)
    (hi : t.columns[i]? = some idc) (hname : idc.name = "id") :
    resolveDeletion catalog [] ⟨tableName name, none, some (idTerm 1), []⟩ =
      .ok ⟨t, selectionOf [t.sourced t.name] (some (Table.idFormula i idc 1)) [idOf t], []⟩ := by
  have horigins := Table.resolve_origins (Site.ofCatalog catalog) h.itself rfl rfl rfl resolveQuery
    t.name (some t.name)
  have hrange : (t.sourced t.name).range = t.range t.name 0 := rfl
  rw [resolveDeletion]
  simp only [writableTable_ok h, withCommons_nil, Option.getD_none, ownSource, horigins,
    Option.getD_some, List.map_cons, List.map_nil, hrange, condition_alone ht hi hname,
    checkReferences_plain catalog ht, checkReferring_plain h, bind, Except.bind, Except.map]
  rfl

/-- A deletion takes the row under the number away, if there is one. -/
theorem run_deletion (patience : Nat) (hw : c.readOnly = false) (h : c.catalog.Holds name t)
    (ht : t.Plain) (hs : t.Sound) (hn : parameters[0]? = some (.int id)) :
    c.run patience parameters (deletionOf name) =
      match t.rows.get? id with
      | some _ =>
        (c.after ⟨c.catalog.setRows t.name (t.rows.erase id), 1, c.counters.lastId⟩, .ok [])
      | none => (c.after c.work, .ok []) := by
  obtain ⟨i, idc, hid, hi, hname⟩ := ht.numbered
  have hplan : (selectionOf [t.sourced t.name] (some (Table.idFormula i idc 1)) [idOf t]).run
      (c.scene parameters patience) =
        .ok (.all ((t.rows.get? id).map fun _ => [.int id]).toList) := by
    refine Table.run_selection ht hs h.itself.readable? hid hi hn (fun row hrow => ?_) _
    have hlength := (hs.get? hrow).1
    simp [idOf, Expr.evalAll, Expr.eval, Scene.place, Scene.within, Table.seen, ← hlength, bind,
      Except.bind]
  have hresolve := resolve_deletion h ht hi hname
  have hreferences := fun rows => c.referencesKept_of_eq (h.violations ht.unlinked rows)
  simp only [deletionOf, Connection.run, hw, Bool.false_and, Bool.false_eq_true, if_false, hresolve,
    Except.bind, deleteAll, hplan]
  cases hrow : t.rows.get? id with
  | none => exact settled_kept (referencesKept_of_eq fun _ => rfl)
  | some row =>
    have hstep := deleteRow_plain (s := c.scene parameters patience) (w := c.work) h hrow
    change c.settled (stepThrough (c.scene parameters patience) []
      (fun w row => deleteRow (c.scene parameters patience) w t.name (frontId row)) c.work []
      [[Value.int id]]) = _
    rw [stepThrough_one _ (a := [Value.int id]) hstep]
    exact settled_kept (hreferences _)

def parametersOf (n : Nat) : List Formula := (List.range n).map fun j => .parameter (j + 1)

theorem parametersOf_zipIdx {α : Type} (as : List α) :
    (as.zipIdx.map fun x => (.parameter (x.2 + 1) : Formula)) = parametersOf as.length := by
  have hplaces := List.zipIdx_map_snd 0 as
  rw [parametersOf, List.range_eq_range', ← hplaces, List.map_map]
  rfl

theorem evalAll_parameters (run : Plan → Scene → Except Fault Found) {s : Scene} {n : Nat}
    (h : n ≤ s.parameters.length) :
    Expr.evalAll run s (parametersOf n) = .ok (s.parameters.take n) := by
  have hvalues : ((List.range n).map fun j => (s.parameters[j]?).getD .null) =
      s.parameters.take n := by
    apply List.ext_getElem?
    intro j
    rw [List.getElem?_map, List.getElem?_take]
    by_cases hj : j < n
    · have hlt : j < s.parameters.length := Nat.lt_of_lt_of_le hj h
      simp [hj, hlt]
    · simp [hj]
  rw [parametersOf, evalAll_map (v := fun j => (s.parameters[j]?).getD .null) fun _ _ => rfl,
    hvalues]

variable {fields : List Field} {pairs : List (Nat × Value)}

theorem assigned_cell (ht : t.Plain) {n : Nat} {column : Column} (hn : t.columns[n]? = some column)
    (hother : column.name ≠ "id") : t.assigned? column.name = some (.cell n) := by
  have hid : t.idColumn ≠ some n := mt (ht.id_iff hn).1 hother
  rw [Table.assigned?, ht.columnIndex hn (sameName_self _)]
  simp [hid]

theorem resolve_assignments (ht : t.Plain) (hp : t.Placed fields pairs) (site : Site) (k : Nat) :
    resolveAssignments site t
        (((fields.map Prod.fst).zipIdx k).map fun x => (x.1, .parameter (x.2 + 1))) =
      .ok ((pairs.zipIdx k).map fun x => (.cell x.1.1, .parameter (x.2 + 1))) := by
  induction hp generalizing k with
  | nil => rfl
  | @cons name text n column v fields pairs here named other _ _ ih =>
    subst named
    have hterm : (Term.parameter (k + 1) : Words).resolveAlone resolveQuery site =
        .ok (.plain (.parameter (k + 1))) := rfl
    simp only [List.map_cons, List.zipIdx_cons, resolveAssignments, hterm,
      assigned_cell ht here other, ih (k + 1), bind, Except.bind]
    rfl

def updatingOf (t : Table) (i : Nat) (idc : Column) (pairs : List (Nat × Value)) : Updating :=
  ⟨t, none, pairs.map fun p => .cell p.1, selectionOf [t.sourced t.name]
    (some (Table.idFormula i idc (pairs.length + 1))) (idOf t :: parametersOf pairs.length), []⟩

theorem resolve_update {catalog : Catalog} (h : catalog.Holds name t) (ht : t.Plain)
    (hi : t.columns[i]? = some idc) (hname : idc.name = "id") (hp : t.Placed fields pairs) :
    resolveUpdate catalog [] ⟨tableName name, none, none,
        (fields.map Prod.fst).zipIdx.map fun x => (x.1, .parameter (x.2 + 1)), [],
        some (idTerm ((fields.map Prod.fst).length + 1)), []⟩ =
      .ok (updatingOf t i idc pairs) := by
  have horigins := Table.resolve_origins (Site.ofCatalog catalog) h.itself rfl rfl rfl resolveQuery
    t.name (some t.name)
  have hrange : (t.sourced t.name).range = t.range t.name 0 := rfl
  let assigned : List (Assigned × Formula) :=
    pairs.zipIdx.map fun x => (.cell x.1.1, .parameter (x.2 + 1))
  have htargets : assigned.map Prod.fst = pairs.map fun p => .cell p.1 := by
    have hpairs := congrArg (List.map fun p => Assigned.cell p.1) (List.zipIdx_map_fst 0 pairs)
    rw [List.map_map] at hpairs
    exact (List.map_map ..).trans hpairs
  have hvalues : assigned.map Prod.snd = parametersOf pairs.length :=
    (List.map_map ..).trans (parametersOf_zipIdx pairs)
  have hlength : (fields.map Prod.fst).length = pairs.length := by
    rw [List.length_map, hp.length_eq]
  rw [resolveUpdate]
  simp only [writableTable_ok h, withCommons_nil, Option.getD_none, ownSource, horigins,
    Option.getD_some, List.map_cons, List.map_nil, hrange, condition_alone ht hi hname,
    checkReferences_plain catalog ht, checkReferring_plain h, bind, Except.bind, Except.map,
    Table.resolve_joins, resolve_assignments ht hp, hlength]
  change Except.ok (⟨t, none, assigned.map Prod.fst, selectionOf [t.sourced t.name] _
    (idOf t :: assigned.map Prod.snd), []⟩ : Updating) = _
  rw [htargets, hvalues]
  rfl

/-- An update finds the row under the number, with the values behind it. -/
theorem run_updating (patience : Nat) (h : c.catalog.Holds name t) (ht : t.Plain) (hs : t.Sound)
    (hi : t.columns[i]? = some idc) (hid : t.idColumn = some i) (pairs : List (Nat × Value)) :
    (updatingOf t i idc pairs).plan.run (c.scene (pairs.map Prod.snd ++ [.int id]) patience) =
      .ok (.all ((t.rows.get? id).map fun _ => .int id :: pairs.map Prod.snd).toList) := by
  let parameters := pairs.map Prod.snd ++ [.int id]
  have hn : parameters[pairs.length + 1 - 1]? = some (.int id) := by
    simp [parameters]
  change (updatingOf t i idc pairs).plan.run (c.scene parameters patience) = _
  refine Table.run_selection ht hs h.itself.readable? hid hi hn (fun row hrow => ?_) _
  have hlength := (hs.get? hrow).1
  have hvalues := evalAll_parameters innerRun (n := pairs.length)
    (s := (c.scene parameters patience).within (Table.seen id row)) (by
      simp [parameters, scene, Scene.within])
  have hfirst : Expr.eval innerRun ((c.scene parameters patience).within (Table.seen id row))
      (idOf t) = .ok (.int id) := by
    simp [idOf, Expr.eval, Scene.place, Scene.within, Table.seen, ← hlength]
  have htake : ((c.scene parameters patience).within (Table.seen id row)).parameters.take
      pairs.length = pairs.map Prod.snd := by
    simp [parameters, scene, Scene.within]
  rw [htake] at hvalues
  simp only [Expr.evalAll, hfirst, hvalues, bind, Except.bind]

/-- An update changes the row under the number, if there is one. -/
theorem run_update (patience : Nat) (id : Int64) (hw : c.readOnly = false)
    (h : c.catalog.Holds name t) (ht : t.Plain) (hs : t.Sound) (hp : t.Placed fields pairs)
    (hd : (fields.map Prod.fst).Nodup) :
    c.run patience (pairs.map Prod.snd ++ [.int id]) (updateOf name (fields.map Prod.fst)) =
      match t.rows.get? id with
      | some row =>
        (c.after ⟨c.catalog.setRows t.name (t.rows.set id (t.changedRow fields row)), 1,
          c.counters.lastId⟩, .ok [])
      | none => (c.after c.work, .ok []) := by
  obtain ⟨i, idc, hid, hi, hname⟩ := ht.numbered
  let parameters := pairs.map Prod.snd ++ [.int id]
  have hresolve := resolve_update h ht hi hname hp
  have hreferences := fun rows => c.referencesKept_of_eq (h.violations ht.unlinked rows)
  simp only [updateOf, Connection.run, hw, Bool.false_and, Bool.false_eq_true, if_false, hresolve,
    Except.bind, updateAll]
  rw [run_updating patience h ht hs hi hid pairs]
  cases hrow : t.rows.get? id with
  | none => exact settled_kept (referencesKept_of_eq fun _ => rfl)
  | some row =>
    have hassigned : (updatingOf t i idc pairs).targets.zip (pairs.map Prod.snd) =
        assignedOf pairs := List.zip_map' ..
    have hstep :=
      updateRow_plain (s := c.scene parameters patience) (w := c.work) h ht hs hp hd hrow
    rw [← hassigned] at hstep
    change c.settled (stepThrough (c.scene parameters patience) [] (fun w row =>
      updateRow (c.scene parameters patience) none w t.name (frontId row)
        ((updatingOf t i idc pairs).targets.zip row.tail)) c.work []
      [Value.int id :: pairs.map Prod.snd]) = _
    rw [stepThrough_one _ (a := Value.int id :: pairs.map Prod.snd) hstep]
    exact settled_kept (hreferences _)

/-- Outside of a transaction a fault changes nothing. -/
theorem failed_untied (c : Connection) (e : Fault) :
    (c.failed e).2 = .error e ∧ (c.transaction = none → (c.failed e).1 = c) := by
  have hback (h : c.transaction = none) : c.rolledBack = c := by
    rw [rolledBack, base, h]
    cases c
    simp_all
  cases e <;> first | exact ⟨rfl, hback⟩ | exact ⟨rfl, fun _ => rfl⟩

def valuesQuery (names : List String) : QueryOf Query :=
  ⟨false, [], .values [names.zipIdx.map fun x => .parameter (x.2 + 1)], [], [], none, none⟩

theorem resolveAll_parameters {β : Type} (sub : Sub) (site : Site) (f : β → Nat) (bs : List β)
    (gathered : List (Gathered Plan)) :
    Term.resolveAll sub site (bs.map fun b => (.parameter (f b) : Words)) gathered =
      .ok (bs.map fun b => .plain (.parameter (f b)), gathered) := by
  induction bs with
  | nil => rfl
  | cons b bs ih =>
    have hfirst : (Term.parameter (f b) : Words).resolve sub site gathered =
        .ok (.plain (.parameter (f b)), gathered) := rfl
    rw [List.map_cons, Term.resolveAll, Resolving.bind_ok hfirst, Resolving.bind_ok ih]
    rfl

theorem resolve_values (site : Site) (names : List String) :
    ∃ cs headings, headings.length = names.length ∧
      resolveQuery site (.mk (valuesQuery names)) =
        .ok ⟨.query ⟨names.length, cs, .values [parametersOf names.length], [], [], none, none⟩,
          headings⟩ := by
  let typed : List Typed := names.zipIdx.map fun x => .plain (.parameter (x.2 + 1))
  have htyped : typed.length = names.length := by simp [typed]
  have hexprs : typed.map Typed.expr = parametersOf names.length :=
    (List.map_map ..).trans (parametersOf_zipIdx names)
  have hcore (site : Site) : ∃ outputs : List Output, outputs.length = names.length ∧
      resolveCore innerSub site [] (valuesQuery names).first =
        .ok ⟨.values [parametersOf names.length], outputs, []⟩ := by
    have hrow := resolveAll_parameters innerSub (site.within (.ofRanges [])).refuseAggregates
      (fun x : String × Nat => x.2 + 1) names.zipIdx []
    refine ⟨typed.zipIdx.map fun x => ⟨"column" ++ Decimal.showNat (x.2 + 1), false, "",
      { x.1 with affinity := .unset }⟩, by simp [htyped], ?_⟩
    rw [valuesQuery, resolveCore, resolveValues]
    simp only [List.mapM_cons, List.mapM_nil, Resolving.alone, hrow, bind, Except.bind, Except.map,
      pure, Except.pure]
    rw [if_neg (by simp)]
    change Except.ok (⟨.values [typed.map Typed.expr], _, []⟩ : Selected) = _
    rw [hexprs]
    rfl
  obtain ⟨outputs, hlength, houtputs⟩ := hcore site.refuseAggregates
  have hnone (f : Words → Resolving Typed) : optional none f [] = .ok (none, []) := rfl
  refine ⟨outputs.map fun o => o.typed.collationOrBinary, outputs.map Output.heading,
    (List.length_map _).trans hlength, ?_⟩
  rw [valuesQuery] at houtputs
  rw [resolveQuery_mk, resolveBody, ← hlength]
  simp only [valuesQuery, withCommons_nil, hnone, houtputs, bind, Except.bind, List.isEmpty_nil,
    if_true, resolveRest, List.map_nil, hlength]

theorem insertPlaces_plain (ht : t.Plain) (hp : t.Placed fields pairs) (hgiven : fields ≠ []) :
    insertPlaces t (fields.map Prod.fst) = .ok (placesOf t pairs, none) := by
  have htargets (f : String → Except Fault Assigned)
      (hf : ∀ (n : Nat) c, t.columns[n]? = some c → c.name ≠ "id" → f c.name = .ok (.cell n)) :
      (fields.map Prod.fst).mapM f = .ok (pairs.map fun p => .cell p.1) := by
    clear hgiven
    induction hp with
    | nil => rfl
    | cons here named other _ _ ih =>
      subst named
      rw [List.map_cons, List.mapM_cons, hf _ _ here other, ih]
      rfl
  have hid : ((pairs.map fun p => Assigned.cell p.1).zipIdx.filter fun x => x.1 = .id) = [] := by
    refine List.filter_eq_nil_iff.2 fun x hx => ?_
    have hmem := List.mem_of_getElem? (List.mem_zipIdx_iff_getElem?.1 hx)
    obtain ⟨p, -, hcell⟩ := List.mem_map.1 hmem
    simp [← hcell]
  have hnames : (fields.map Prod.fst).isEmpty = false := by simpa using hgiven
  rw [insertPlaces, hnames, if_neg Bool.false_ne_true]
  refine (congrArg (· >>= _) (htargets _ fun n c hn hother => ?_)).trans ?_
  · rw [assigned_cell ht hn hother]
  simp only [bind, Except.bind, hid, List.getLast?_nil, Option.map_none]
  rfl

theorem resolve_insertion {catalog : Catalog} (h : catalog.Holds name t) (ht : t.Plain)
    (hp : t.Placed fields pairs) (hgiven : fields ≠ []) :
    ∃ cs, resolveInsertion catalog ⟨tableName name, none, none, fields.map Prod.fst,
        some (.mk (valuesQuery (fields.map Prod.fst))), [], []⟩ =
      .ok (insertingOf t pairs (.query ⟨pairs.length, cs, .values [parametersOf pairs.length],
        [], [], none, none⟩)) := by
  obtain ⟨cs, headings, hheadings, hvalues⟩ :=
    resolve_values (Site.ofCatalog catalog) (fields.map Prod.fst)
  have hlength : (fields.map Prod.fst).length = pairs.length := by
    rw [List.length_map, hp.length_eq]
  have hnames : (fields.map Prod.fst).isEmpty = false := by simpa using hgiven
  rw [hlength] at hheadings hvalues
  refine ⟨cs, ?_⟩
  rw [resolveInsertion]
  simp only [writableTable_ok h, insertPlaces_plain ht hp hgiven, hvalues, hheadings, hlength,
    hnames, checkReferences_plain catalog ht, bind, Except.bind, Bool.false_eq_true, if_false,
    ne_eq, not_true_eq_false]
  rfl

/-- The plan for as many values as there are parameters makes one row of them. -/
theorem run_values {s : Scene} {n : Nat} (hn : s.parameters.length = n) (cs : List Collation) :
    Plan.run (.query ⟨n, cs, .values [parametersOf n], [], [], none, none⟩) s =
      .ok (.all [s.parameters]) := by
  have hvalues := evalAll_parameters innerRun (s := s.within []) (Nat.le_of_eq hn.symm)
  have htake : (s.within []).parameters.take n = s.parameters :=
    List.take_of_length_le (Nat.le_of_eq hn)
  rw [htake] at hvalues
  refine run_stage ?_ (by simp [hn])
  simp only [Stage.run, List.mapM_cons, List.mapM_nil, hvalues, bind, Except.bind, pure,
    Except.pure]

/-- An insertion adds a row under a fresh number. Where there is none left, all stays as it is,
but for a transaction that is rolled back. -/
theorem run_insertion (patience : Nat) (hw : c.readOnly = false) (h : c.catalog.Holds name t)
    (hn : c.catalog.Notes t) (ht : t.Plain) (hs : t.Sound) (hp : t.Placed fields pairs)
    (hgiven : fields ≠ []) :
    (∃ id, freshId c.catalog t = .ok id ∧
      c.run patience (pairs.map Prod.snd) (insertionOf name (fields.map Prod.fst)) =
        (c.after ⟨c.catalog.storing t (t.rows.set id (t.newRow id fields)) (some id), 1, id⟩,
          .ok [])) ∨
    ∃ e counters, freshId c.catalog t = .error e ∧
      (c.run patience (pairs.map Prod.snd) (insertionOf name (fields.map Prod.fst))).2 = .error e ∧
      (c.transaction = none →
        (c.run patience (pairs.map Prod.snd) (insertionOf name (fields.map Prod.fst))).1 =
          { c with counters }) := by
  obtain ⟨cs, hresolve⟩ := resolve_insertion h ht hp hgiven
  let plan : Plan :=
    .query ⟨pairs.length, cs, .values [parametersOf pairs.length], [], [], none, none⟩
  let s := c.scene (pairs.map Prod.snd) patience
  have hplan : plan.run s = .ok (.all [pairs.map Prod.snd]) :=
    run_values (s := s) (by simp [s, scene]) cs
  have hrun : c.run patience (pairs.map Prod.snd) (insertionOf name (fields.map Prod.fst)) =
      c.settled (stepThrough s [] (insertRow s (insertingOf t pairs plan)) c.work []
        [pairs.map Prod.snd]) := by
    simp only [insertionOf, Connection.run, hw, Bool.false_and, Bool.false_eq_true, if_false]
    rw [valuesQuery] at hresolve
    rw [hresolve]
    change c.changed (insertAll s (insertingOf t pairs plan) c.work) = _
    simp only [insertAll, insertingOf, hplan, bind, Except.bind]
    rfl
  rw [hrun]
  cases hid : freshId c.catalog t with
  | ok id =>
    have hstep := insertRow_plain (s := s) (w := c.work) h ht hs hp plan hid
    refine .inl ⟨id, rfl, ?_⟩
    rw [stepThrough_one s hstep]
    exact settled_kept (c.referencesKept_of_eq
      (Catalog.violations_storing h hn _ (some id) ht.unlinked))
  | error e =>
    have hstep := insertRow_full (s := s) (w := c.work) h pairs plan (pairs.map Prod.snd) hid
    refine .inr ⟨e, ⟨0, c.counters.totalChanges, c.counters.lastId⟩, rfl, ?_⟩
    have hfailed : c.settled (stepThrough s [] (insertRow s (insertingOf t pairs plan)) c.work []
        [pairs.map Prod.snd]) =
          failed { c with counters := ⟨0, c.counters.totalChanges, c.counters.lastId⟩ } e := by
      rw [stepThrough, hstep, settled]
      rfl
    rw [hfailed]
    exact failed_untied _ e

end

end Tabular.Sql
