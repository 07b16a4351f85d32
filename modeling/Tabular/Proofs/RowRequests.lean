import Tabular.Proofs.HostedTables
import Tabular.Proofs.NamedRows
import Tabular.Proofs.RequestStages

/-!
# Adding, changing and deleting rows

What is added can be read back under its number, a change concerns the row of one number
and the columns that are given, and a deletion takes one row away. All other rows stay.
-/

set_option autoImplicit false

namespace Tabular

open Sql Sql.Connection

namespace Sql.Table

/-- A row that holds what fields give, each value as its column stores it, and in the other
columns what another row holds. -/
structure Given (t : Table) (fields : List Field) (old new : Row) : Prop where
  width : new.length = t.width
  given : ∀ (n : Nat) c text, t.columns[n]? = some c → (c.name, text) ∈ fields →
    ∃ v, Store.convert (.ofDeclared c.type) text = some v ∧ new[n]? = some (c.affinity.store v)
  kept : ∀ (n : Nat) c, t.columns[n]? = some c → c.name ∉ fields.map Prod.fst → new[n]? = old[n]?

def blankRow (t : Table) (id : Int64) : Row :=
  t.columns.map fun c => if c.name = "id" then .int id else .null

variable {t : Table} {fields : List Field} {n : Nat} {c : Column} {id : Int64} {row : Row}

/-- Where no name stands twice, a field is found by its name. -/
theorem find?_field {f : Field} (hd : (fields.map Prod.fst).Nodup) (hf : f ∈ fields) :
    fields.find? (fun g => g.1 = f.1) = some f := by
  induction fields with
  | nil => cases hf
  | cons g fields ih =>
    obtain ⟨hnew, hd⟩ := List.nodup_cons.1 hd
    rcases List.mem_cons.1 hf with rfl | hf
    · exact List.find?_cons_of_pos (by simp)
    · have hne : g.1 ≠ f.1 := fun he => hnew (he ▸ List.mem_map_of_mem hf)
      rw [List.find?_cons_of_neg (by simpa using hne)]
      exact ih hd hf

theorem Accepts.given_of_mem (h : t.Accepts fields) (ht : t.Plain) (hn : t.columns[n]? = some c)
    {text : String} (hm : (c.name, text) ∈ fields) :
    ∃ v, Store.convert (.ofDeclared c.type) text = some v ∧
      c.given? fields = some (c.affinity.store v) := by
  obtain ⟨-, c', hc', hname, hsome⟩ := h.fits _ hm
  obtain ⟨m, hm'⟩ := List.mem_iff_getElem?.1 hc'
  obtain rfl := ht.place_inj hm' hn (congrArg foldName hname)
  obtain rfl := Option.some.inj (hm'.symm.trans hn)
  obtain ⟨v, hv⟩ := Option.isSome_iff_exists.1 hsome
  have hfind : fields.find? (fun f => f.1 = c'.name) = some (c'.name, text) :=
    find?_field h.distinct hm
  refine ⟨v, hv, ?_⟩
  rw [Column.given?, hfind, Option.bind_some, hv, Option.map_some]

theorem Accepts.holding (h : t.Accepts fields) (rows : Rows) : (t.holding rows).Accepts fields :=
  ⟨h.given, h.distinct, h.fits⟩

theorem columns_holding (t : Table) (rows : Rows) : (t.holding rows).columns = t.columns := rfl

theorem Given.of_holding {rows : Rows} {new : Row} (h : (t.holding rows).Given fields row new) :
    t.Given fields row new :=
  ⟨h.width, h.given, h.kept⟩

theorem given_newRow (h : t.Accepts fields) (ht : t.Plain) (id : Int64) :
    t.Given fields (t.blankRow id) (t.newRow id fields) where
  width := length_newRow t id fields
  given n c text hn hm := by
    obtain ⟨v, hv, hgiven⟩ := h.given_of_mem ht hn hm
    have hother : c.name ≠ "id" := (h.fits _ hm).1
    exact ⟨v, hv, by rw [getElem?_newRow id fields hn, if_neg hother, hgiven, Option.getD_some]⟩
  kept n c hn hm := by
    rw [getElem?_newRow id fields hn, given?_of_not_mem hm, Option.getD_none, blankRow,
      List.getElem?_map, hn, Option.map_some]

theorem given_changedRow (h : t.Accepts fields) (ht : t.Plain) (hrow : row.length = t.width) :
    t.Given fields row (t.changedRow fields row) where
  width := length_changedRow fields hrow
  given n c text hn hm := by
    obtain ⟨v, hv, hgiven⟩ := h.given_of_mem ht hn hm
    obtain ⟨old, hold⟩ := exists_cell hrow hn
    exact ⟨v, hv, by rw [getElem?_changedRow fields hn hold, hgiven, Option.getD_some]⟩
  kept n c hn hm := by
    obtain ⟨old, hold⟩ := exists_cell hrow hn
    rw [getElem?_changedRow fields hn hold, given?_of_not_mem hm, Option.getD_none, hold]

end Sql.Table

def Request.Accepted (t : Table) : Request → Prop
  | .insert fields | .update _ fields => t.Accepts fields
  | .get _ | .delete _ => True
  | .list _ => False

/-- Which fields a table accepts does not depend on its rows. -/
theorem Request.Accepted.holding {t : Table} {r : Request} (h : r.Accepted t) (rows : Rows) :
    r.Accepted (t.holding rows) := by
  cases r with
  | insert fields | update _ fields => exact Table.Accepts.holding h rows
  | get | delete => trivial
  | list => cases h

namespace Database

structure Hosts (d : Database) (table : String) (t : Table) : Prop where
  store : d.store.Hosts table t
  types : ∀ types, d.columns.get? table = some types → types = t.types

section

variable {d : Database} {table : String} {t : Table}

theorem put_same (c : ColumnCache) (types other : ColumnTypes)
    (h : (c.put table types).get? table = some other) : other = types := by
  cases hk : c.kept with
  | none =>
    rw [ColumnCache.put_uncached hk, ColumnCache.get?_uncached table hk] at h
    cases h
  | some kept =>
    rw [ColumnCache.get?_put (by simp [hk]), if_pos rfl] at h
    exact (Option.some.inj h).symm

theorem Hosts.typesOf (h : d.Hosts table t) :
    ∃ d', Database.typesOf table d = (.ok t.types, d') ∧ d'.Hosts table t ∧
      d'.store.connection = d.store.connection := by
  rw [typesOf_eq, Statement.checkTable_ok.2 h.store.regular]
  cases hget : d.columns.get? table with
  | some types =>
    obtain rfl := h.types types hget
    rw [ColumnCache.resolve_hit hget]
    exact ⟨d, rfl, h, rfl⟩
  | none =>
    have hasked := h.store.reachable.asked
    have hanswer := ColumnCache.answerAbout_plain hasked h.store.intact
      h.store.plain.narrow h.store.plain.columns_ne h.store.held.readable?
    have hrun := ColumnCache.run_question hasked table
    rw [Sql.Question.compiled_intact h.store.intact] at hrun
    rw [ColumnCache.resolve_miss hget, hanswer]
    refine ⟨_, rfl, ⟨?_, put_same _ _⟩, ?_⟩
    · exact h.store.ran t.rows none (congrArg Prod.snd hrun)
        (fun htext => absurd htext.symm (Request.rowText_ne_question table)) rfl rfl
        h.store.held.setRows_same.symm h.store.sound
    · exact congrArg (fun o => o.2.connection) hrun

end

namespace Operation

variable {α : Type} {d d' : Database} {s : Statement}

structure Ran (op : Operation α) (d d' : Database) (s : Statement) (f : Answer → α) : Prop where
  answer : (op d).1 = (d'.store.run s).1.map f
  store : (op d).2.store = (d'.store.run s).2
  columns : (op d).2.columns = d'.columns

theorem ran_execute (d : Database) (s : Statement) : Ran (execute s) d d s fun a => a where
  answer := by
    rw [execute]
    cases (d.store.run s).1 <;> rfl
  store := rfl
  columns := rfl

theorem ran_done (f : Answer → α) (d : Database) (s : Statement) :
    Ran (execute s >>= fun a => pure (f a)) d d s f := by
  constructor <;> rw [bind_eq, execute] <;> rcases d.store.run s with ⟨_ | _, _⟩ <;> rfl

variable {op : Operation α} {f : Answer → α}

theorem Ran.tracked (h : Ran op d d' s f) : Ran (tracked op) d d' s f := by
  obtain ⟨hanswer, hstore, hcolumns⟩ := tracked_eq op d
  exact ⟨hanswer.trans h.answer, hstore.trans h.store, hcolumns.trans h.columns⟩

theorem Ran.lifted {r : Except AccessError Statement} {next : Statement → Operation α}
    (hr : r = .ok s) (h : Ran (next s) d d' s f) : Ran (lift r >>= next) d d' s f := by
  subst hr
  exact ⟨h.answer, h.store, h.columns⟩

theorem Ran.asked {table : String} {types : ColumnTypes} {next : ColumnTypes → Operation α}
    (ht : Database.typesOf table d = (.ok types, d')) (h : Ran (next types) d' d' s f) :
    Ran (Database.typesOf table >>= next) d d' s f := by
  have hop : (Database.typesOf table >>= next) d = next types d' := by rw [bind_eq, ht]
  exact ⟨hop ▸ h.answer, hop ▸ h.store, hop ▸ h.columns⟩

end Operation

open Operation

section

variable {d d' : Database} {table : String} {t : Table} {fields : List Field}

theorem ran_get (ht : Identifier.isPlain table) (types : ColumnTypes) (id : Int64) (d : Database) :
    Ran (get table id) d d ((Request.get id).written table types) fun a => a :=
  (Ran.lifted (Request.statement_known (r := .get id) ht trivial).1 (ran_execute d _)).tracked

theorem ran_delete (ht : Identifier.isPlain table) (types : ColumnTypes) (id : Int64)
    (d : Database) :
    Ran (delete table id) d d ((Request.delete id).written table types) Answer.rowsAffected :=
  (Ran.lifted (Request.statement_known (r := .delete id) ht trivial).1 (ran_done _ d _)).tracked

theorem Hosts.known (h : d.Hosts table t) (ha : t.Accepts fields) :
    fields ≠ [] ∧ ∀ f ∈ fields, (t.types.get? f.1).isSome := by
  obtain ⟨pairs, hp⟩ := ha.placed
  exact ⟨ha.given, hp.known h.store.plain⟩

theorem Hosts.ran_add (h : d.Hosts table t) (ha : t.Accepts fields) :
    ∃ d', d'.Hosts table t ∧ d'.store.connection = d.store.connection ∧
      Ran (add table fields) d d' ((Request.insert fields).written table t.types)
        Answer.lastInsertId := by
  obtain ⟨d', htypes, hd, hsame⟩ := h.typesOf
  exact ⟨d', hd, hsame, (Ran.asked htypes (Ran.lifted (Request.statement_known (r := .insert fields)
    h.store.regular (h.known ha)).1 (ran_done _ d' _))).tracked⟩

theorem Hosts.ran_update (h : d.Hosts table t) (ha : t.Accepts fields) (id : Int64) :
    ∃ d', d'.Hosts table t ∧ d'.store.connection = d.store.connection ∧
      Ran (update table id fields) d d' ((Request.update id fields).written table t.types)
        Answer.rowsAffected := by
  obtain ⟨d', htypes, hd, hsame⟩ := h.typesOf
  exact ⟨d', hd, hsame, (Ran.asked htypes (Ran.lifted (Request.statement_known
    (r := .update id fields) h.store.regular (h.known ha)).1 (ran_done _ d' _))).tracked⟩

end

/-- From one database to the next nothing changes of a table but the row of one number, and
nothing of the others. Where the numbers of new rows are noted, the note is made in a table of
the engine. -/
structure Sets (d d' : Database) (table : String) (t : Table) (id : Int64) (row? : Option Row) :
    Prop where
  here : ∃ rows, d'.Hosts table (t.holding rows) ∧ rows.get? id = row? ∧
    ∀ other, other ≠ id → rows.get? other = t.rows.get? other
  elsewhere : ∀ other, ¬sameName other table →
    ¬(t.autoincrement = true ∧ t.rows.get? id = none ∧ sameName other sequenceName) →
    d'.store.connection.catalog.table? other = d.store.connection.catalog.table? other
  transaction : d'.store.connection.transaction = d.store.connection.transaction

structure Leaves (d d' : Database) (table : String) (t : Table) : Prop where
  hosts : d'.Hosts table t
  catalog : d'.store.connection.catalog = d.store.connection.catalog
  transaction : d'.store.connection.transaction = d.store.connection.transaction

section

variable {d d' : Database} {table : String} {t : Table} {fields : List Field} {α : Type}
  {op : Operation α} {s : Statement} {f : Answer → α} {rows : Rows} {w : Work}

/-- An operation whose statement stores other rows leaves the table with them. -/
theorem Operation.Ran.hosts (hr : Ran op d d' s f) (rows : Rows) (hd : d'.Hosts table t)
    (hhosts : (d'.store.run s).2.Hosts table (t.holding rows)) :
    (op d).2.Hosts table (t.holding rows) where
  store := hr.store ▸ hhosts
  types := hr.columns ▸ hd.types

/-- An operation whose statement stores other rows for a table has no part in other tables. -/
theorem Operation.Ran.sets (new : Option Int64) {id : Int64} {row? : Option Row}
    (hr : Ran op d d' s f) (h : d.Hosts table t) (hd : d'.Hosts table t)
    (hsame : d'.store.connection = d.store.connection)
    (hw : w.catalog = d'.store.connection.catalog.storing t rows new)
    (hnew : new = none ∨ t.rows.get? id = none)
    (hconnection : (d'.store.run s).2.connection = d'.store.connection.after w)
    (hhosts : (d'.store.run s).2.Hosts table (t.holding rows))
    (hrows : ∀ other, rows.get? other = if other = id then row? else t.rows.get? other) :
    d.Sets (op d).2 table t id row? where
  here := by
    refine ⟨rows, hr.hosts rows hd hhosts, ?_, fun other hother => ?_⟩
    · rw [hrows, if_pos rfl]
    · rw [hrows, if_neg hother]
  elsewhere other hother hnote := by
    have hne : ¬sameName other t.name := fun hs => hother (sameName_iff.2
      ((sameName_iff.1 hs).trans (sameName_iff.1 h.store.held.named)))
    have htable := Catalog.table?_storing hd.store.noted rows new hne fun ⟨hauto, hsome, hs⟩ =>
      hnote ⟨hauto, hnew.resolve_left (Option.isSome_iff_ne_none.1 hsome), hs⟩
    rw [hr.store, hconnection, catalog_after, hw, htable, hsame]
  transaction := by rw [hr.store, hconnection, transaction_after, hsame]

theorem Operation.Ran.leaves (hr : Ran op d d' s f) (h : d.Hosts table t) (hd : d'.Hosts table t)
    (hsame : d'.store.connection = d.store.connection)
    (hw : w.catalog = d'.store.connection.catalog.setRows t.name t.rows)
    (hconnection : (d'.store.run s).2.connection = d'.store.connection.after w)
    (hhosts : (d'.store.run s).2.Hosts table t) : d.Leaves (op d).2 table t where
  hosts := hr.hosts t.rows hd hhosts
  catalog := by rw [hr.store, hconnection, catalog_after, hw, hsame, h.store.held.setRows_same]
  transaction := by rw [hr.store, hconnection, transaction_after, hsame]

/-- The row of a number is shown as it is stored, or there is none. -/
theorem Hosts.get (h : d.Hosts table t) (id : Int64) :
    (∃ shown, (get table id d).1 = .ok (.ofRows shown) ∧
      List.Forall₂ (NamedRow.Shows (t.columns.map Column.name)) (t.rows.get? id).toList shown) ∧
    d.Leaves (Database.get table id d).2 table t := by
  obtain ⟨hrow, hconnection, hhosts⟩ := h.store.run_get ⟨[]⟩ id
  have hr := ran_get h.store.regular ⟨[]⟩ id d
  refine ⟨⟨(t.rows.get? id).toList.map (NamedRow.ofValues (t.columns.map Column.name)), ?_, ?_⟩,
    hr.hosts t.rows h hhosts, ?_, ?_⟩
  · rw [hr.answer, hrow]
    rfl
  · rw [List.forall₂_map_right_iff, List.forall₂_same]
    exact fun row _ => NamedRow.shows_ofValues _ row
  · rw [hr.store, hconnection]
  · rw [hr.store, hconnection]

/-- A row that is set for a number is shown when it is asked for. -/
theorem Sets.get {id : Int64} {row : Row} (hs : d.Sets d' table t id (some row)) :
    ∃ shown, (get table id d').1 = .ok (.ofRows [shown]) ∧
      NamedRow.Shows (t.columns.map Column.name) row shown := by
  obtain ⟨rows, hhosts, hrow, -⟩ := hs.here
  obtain ⟨shown, hanswer, hshown⟩ := (hhosts.get id).1
  rw [Table.holding, hrow, Option.toList_some, List.forall₂_cons_left_iff] at hshown
  obtain ⟨first, rest, hfirst, hrest, rfl⟩ := hshown
  obtain rfl := List.forall₂_nil_left_iff.1 hrest
  exact ⟨first, hanswer, hfirst⟩

/-- No row is shown for a number that has none. -/
theorem Hosts.get_absent (h : d.Hosts table t) {id : Int64} (hrow : t.rows.get? id = none) :
    (Database.get table id d).1 = .ok (.ofRows []) := by
  obtain ⟨shown, hanswer, hshown⟩ := (h.get id).1
  rw [hrow, Option.toList_none, List.forall₂_nil_left_iff] at hshown
  rw [hanswer, hshown]

/-- What is added stands under a fresh number, as the fields say. -/
theorem Hosts.add (h : d.Hosts table t) (ha : t.Accepts fields) :
    (∃ k, freshId d.store.connection.catalog t = .ok k ∧ (add table fields d).1 = .ok k ∧
      d.Sets (Database.add table fields d).2 table t k (some (t.newRow k fields))) ∨
    ∃ e fault, freshId d.store.connection.catalog t = .error fault ∧
      (Database.add table fields d).1 = .error e ∧
      (d.store.connection.transaction = none →
        d.Leaves (Database.add table fields d).2 table t) := by
  obtain ⟨d', hd, hsame, hr⟩ := h.ran_add ha
  rcases hd.store.run_insert ha with
    ⟨k, w, hfresh, hw, hanswer, hconnection, hhosts⟩ | ⟨e, fault, hfull, herror, hrolled⟩
  · have hfree := freshId_absent hd.store.sound.ascending hfresh
    refine .inl ⟨k, hsame ▸ hfresh, ?_,
      hr.sets (some k) h hd hsame hw (.inr hfree) hconnection hhosts fun other => ?_⟩
    · rw [hr.answer, hanswer]
      rfl
    · rw [Rows.get?_set]
  · refine .inr ⟨e, fault, hsame ▸ hfull, ?_, fun hnone => ?_⟩
    · rw [hr.answer, herror]
      rfl
    · obtain ⟨hcatalog, htransaction, hhosts⟩ := hrolled (hsame ▸ hnone)
      exact ⟨hr.hosts t.rows hd hhosts, by rw [hr.store, hcatalog, hsame],
        by rw [hr.store, htransaction, hnone]⟩

theorem Hosts.update (h : d.Hosts table t) (ha : t.Accepts fields) (id : Int64) :
    match t.rows.get? id with
    | some row => (update table id fields d).1 = .ok 1 ∧
      d.Sets (Database.update table id fields d).2 table t id (some (t.changedRow fields row))
    | none => (Database.update table id fields d).1 = .ok 0 ∧
      d.Leaves (Database.update table id fields d).2 table t := by
  obtain ⟨d', hd, hsame, hr⟩ := h.ran_update ha id
  obtain ⟨w, hw, hanswer, hconnection, hhosts⟩ := hd.store.run_update ha id
  have hcount := hr.answer.trans (congrArg (Except.map Answer.rowsAffected) hanswer)
  rw [Table.updated] at hw hhosts
  cases hrow : t.rows.get? id with
  | some row =>
    simp only [hrow] at hw hhosts hcount
    exact ⟨hcount, hr.sets none h hd hsame hw (.inl rfl) hconnection hhosts
      fun other => Rows.get?_set ..⟩
  | none =>
    simp only [hrow] at hw hhosts hcount
    exact ⟨hcount, hr.leaves h hd hsame hw hconnection hhosts⟩

theorem Hosts.delete (h : d.Hosts table t) (id : Int64) :
    match t.rows.get? id with
    | some _ =>
      (delete table id d).1 = .ok 1 ∧ d.Sets (Database.delete table id d).2 table t id none
    | none => (Database.delete table id d).1 = .ok 0 ∧
      d.Leaves (Database.delete table id d).2 table t := by
  have hr := ran_delete h.store.regular ⟨[]⟩ id d
  obtain ⟨w, hw, hanswer, hconnection, hhosts⟩ := h.store.run_delete ⟨[]⟩ id
  have hcount := hr.answer.trans (congrArg (Except.map Answer.rowsAffected) hanswer)
  cases hrow : t.rows.get? id with
  | some row =>
    simp only [hrow] at hcount
    exact ⟨hcount, hr.sets none h h rfl hw (.inl rfl) hconnection hhosts
      fun other => Rows.get?_erase ..⟩
  | none =>
    rw [Rows.erase_absent hrow] at hw hhosts
    simp only [hrow] at hcount
    exact ⟨hcount, hr.leaves h h rfl hw hconnection hhosts⟩

theorem Hosts.refused (h : d.Hosts table t) {r : ColumnTypes → Except AccessError Statement}
    {e : AccessError} (hr : ∀ types, r types = .error e) (next : Statement → Operation α) :
    (tracked (Database.typesOf table >>= fun types => lift (r types) >>= next) d).1 = .error e ∧
      d.Leaves (tracked (Database.typesOf table >>= fun types => lift (r types) >>= next) d).2
        table t := by
  obtain ⟨d', htypes, hd, hsame⟩ := h.typesOf
  have hop : (Database.typesOf table >>= fun types => lift (r types) >>= next) d =
      (.error e, d') := by
    rw [bind_eq, htypes]
    simp only [hr]
    rfl
  obtain ⟨hanswer, hstore, hcolumns⟩ :=
    tracked_eq (Database.typesOf table >>= fun types => lift (r types) >>= next) d
  rw [hop] at hanswer hstore hcolumns
  refine ⟨hanswer, ⟨⟨hstore ▸ hd.store, hcolumns ▸ hd.types⟩, ?_, ?_⟩⟩
  · rw [hstore, hsame]
  · rw [hstore, hsame]

/-- Where there is nothing to write, nothing is written. -/
theorem Hosts.nothing (h : d.Hosts table t) :
    ((Database.add table [] d).1 = .error (.invalidInput .noFields) ∧
      d.Leaves (Database.add table [] d).2 table t) ∧
    ∀ id, (Database.update table id [] d).1 = .error (.invalidInput .noFields) ∧
      d.Leaves (Database.update table id [] d).2 table t := by
  refine ⟨h.refused (fun types => ?_) _, fun id => h.refused (fun types => ?_) _⟩
  · exact Request.statement_void (r := .insert []) h.store.regular rfl
  · exact Request.statement_void (r := .update id []) h.store.regular rfl

end

section

variable {d : Database} {table : String} {t : Table}

theorem Sets.hosts {d' : Database} {id : Int64} {row? : Option Row}
    (h : d.Sets d' table t id row?) : ∃ rows, d'.Hosts table (t.holding rows) := by
  obtain ⟨rows, hhosts, -, -⟩ := h.here
  exact ⟨rows, hhosts⟩

/-- A request about a row leaves a plain table. -/
theorem Hosts.step (h : d.Hosts table t) (hnone : d.store.connection.transaction = none)
    {r : Request} (ha : r.Accepted t) :
    (∃ rows, ((r.step table).run d).2.Hosts table (t.holding rows)) ∧
      ((r.step table).run d).2.store.connection.transaction = none := by
  cases r with
  | insert fields =>
    have hstep : (((Request.insert fields).step table).run d).2 = (Database.add table fields d).2 :=
      snd_map ..
    rw [hstep]
    rcases h.add ha with ⟨k, -, -, hs⟩ | ⟨e, fault, -, -, hl⟩
    · exact ⟨hs.hosts, hs.transaction.trans hnone⟩
    · exact ⟨⟨t.rows, (hl hnone).hosts⟩, (hl hnone).transaction.trans hnone⟩
  | update id fields =>
    have hstep : (((Request.update id fields).step table).run d).2 =
        (Database.update table id fields d).2 := snd_map ..
    have hupdate := h.update ha id
    rw [hstep]
    cases hrow : t.rows.get? id with
    | some row =>
      simp only [hrow] at hupdate
      exact ⟨hupdate.2.hosts, hupdate.2.transaction.trans hnone⟩
    | none =>
      simp only [hrow] at hupdate
      exact ⟨⟨t.rows, hupdate.2.hosts⟩, hupdate.2.transaction.trans hnone⟩
  | get id =>
    have hstep : (((Request.get id).step table).run d).2 = (Database.get table id d).2 := snd_map ..
    rw [hstep]
    exact ⟨⟨t.rows, (h.get id).2.hosts⟩, (h.get id).2.transaction.trans hnone⟩
  | delete id =>
    have hstep : (((Request.delete id).step table).run d).2 = (Database.delete table id d).2 :=
      snd_map ..
    have hdelete := h.delete id
    rw [hstep]
    cases hrow : t.rows.get? id with
    | some row =>
      simp only [hrow] at hdelete
      exact ⟨hdelete.2.hosts, hdelete.2.transaction.trans hnone⟩
    | none =>
      simp only [hrow] at hdelete
      exact ⟨⟨t.rows, hdelete.2.hosts⟩, hdelete.2.transaction.trans hnone⟩
  | list request => cases ha

/-- Whatever requests about rows follow each other, they leave a plain table. -/
theorem Hosts.steps (h : d.Hosts table t) (hnone : d.store.connection.transaction = none)
    {rs : List Request} (ha : ∀ r ∈ rs, r.Accepted t) :
    ∃ rows, (Step.after (rs.map (Request.step table)) d).Hosts table (t.holding rows) := by
  induction rs generalizing d t with
  | nil => exact ⟨t.rows, h⟩
  | cons r rs ih =>
    obtain ⟨hr, hrs⟩ := List.forall_mem_cons.1 ha
    obtain ⟨⟨rows, hhosts⟩, hstill⟩ := h.step hnone hr
    exact ih (t := t.holding rows) hhosts hstill fun r hr => (hrs r hr).holding rows

/-- The laws of rows. A number that is given out was free, one more than the highest as long as
there is one, and the new row is read back as the fields ask for it. An update changes what is
given of the row of a number, and a deletion takes the row away. What they answer tells whether
there was such a row. No other row changes. -/
theorem row_laws (h : d.Hosts table t) :
    (∀ id, ∃ shown, (get table id d).1 = .ok (.ofRows shown) ∧
      List.Forall₂ (NamedRow.Shows (t.columns.map Column.name)) (t.rows.get? id).toList shown) ∧
    (∀ fields, t.Accepts fields →
      (d.store.connection.catalog.highest t ≠ Int64.maxValue →
        (add table fields d).1 = .ok (d.store.connection.catalog.highest t + 1)) ∧
      (∀ k, (add table fields d).1 = .ok k →
        t.rows.get? k = none ∧ ∃ row, t.Given fields (t.blankRow k) row ∧
          d.Sets (add table fields d).2 table t k (some row) ∧
          ∃ shown, (get table k (add table fields d).2).1 = .ok (.ofRows [shown]) ∧
            NamedRow.Shows (t.columns.map Column.name) row shown) ∧
      (∀ e, (add table fields d).1 = .error e → d.store.connection.transaction = none →
        d.Leaves (add table fields d).2 table t) ∧
      ∀ id,
        (∀ old, t.rows.get? id = some old → (update table id fields d).1 = .ok 1 ∧
          ∃ new, t.Given fields old new ∧
            d.Sets (update table id fields d).2 table t id (some new)) ∧
        (t.rows.get? id = none → (update table id fields d).1 = .ok 0 ∧
          d.Leaves (update table id fields d).2 table t)) ∧
    (∀ id,
      (∀ old, t.rows.get? id = some old → (delete table id d).1 = .ok 1 ∧
        d.Sets (delete table id d).2 table t id none) ∧
      (t.rows.get? id = none → (delete table id d).1 = .ok 0 ∧
        d.Leaves (delete table id d).2 table t) ∧
      (get table id (delete table id d).2).1 = .ok (.ofRows [])) ∧
    (add table [] d).1 = .error (.invalidInput .noFields) ∧
    ∀ id, (update table id [] d).1 = .error (.invalidInput .noFields) ∧
      d.Leaves (update table id [] d).2 table t := by
  refine ⟨fun id => (h.get id).1, fun fields ha => ⟨fun hhighest => ?_, fun k hk => ?_,
    fun e he hnone => ?_, fun id => ⟨fun old hold => ?_, fun hfree => ?_⟩⟩,
    fun id => ⟨fun old hold => ?_, fun hfree => ?_, ?_⟩, h.nothing.1.1, h.nothing.2⟩
  · have hnext := freshId_next hhighest
    rcases h.add ha with ⟨k, hfresh, hanswer, -⟩ | ⟨e, fault, hfull, -, -⟩
    · obtain rfl := Except.ok.inj (hfresh.symm.trans hnext)
      exact hanswer
    · cases hfull.symm.trans hnext
  · rcases h.add ha with ⟨k', hfresh, hanswer, hs⟩ | ⟨e, fault, -, herror, -⟩
    · obtain rfl := Except.ok.inj (hanswer.symm.trans hk)
      have hfree := freshId_absent h.store.sound.ascending hfresh
      refine ⟨hfree, _, Table.given_newRow ha h.store.plain k', hs, hs.get⟩
    · cases herror.symm.trans hk
  · rcases h.add ha with ⟨k, -, hanswer, -⟩ | ⟨e', fault, -, -, hl⟩
    · cases hanswer.symm.trans he
    · exact hl hnone
  · have hupdate := h.update ha id
    simp only [hold] at hupdate
    exact ⟨hupdate.1, _,
      Table.given_changedRow ha h.store.plain (h.store.sound.get? hold).1, hupdate.2⟩
  · have hupdate := h.update ha id
    simpa only [hfree] using hupdate
  · have hdelete := h.delete id
    simpa only [hold] using hdelete
  · have hdelete := h.delete id
    simpa only [hfree] using hdelete
  · have hdelete := h.delete id
    cases hrow : t.rows.get? id with
    | some row =>
      simp only [hrow] at hdelete
      obtain ⟨rows, hhosts, hnone, -⟩ := hdelete.2.here
      exact hhosts.get_absent hnone
    | none =>
      simp only [hrow] at hdelete
      exact hdelete.2.hosts.get_absent hrow

end

def IsNew (d : Database) (table : String) (t : Table) : Prop :=
  (d.store.connection.readOnly = false ∧ d.store.connection.damaged = false) ∧
    ((d.store.known (rowText table)).isNone ∧ (d.columns.get? table).isNone) ∧
    d.store.connection.catalog.Alone table t ∧ t.Plain ∧ t.rows.entries.isEmpty

instance (d : Database) (table : String) (t : Table) : Decidable (d.IsNew table t) :=
  inferInstanceAs (Decidable (_ ∧ _))

/-- A table that is new is hosted. -/
theorem IsNew.hosts {d : Database} {table : String} {t : Table} (h : d.IsNew table t)
    (hd : d.Reachable) (ht : d.store.connection.catalog.table? table = some t)
    (hname : Identifier.isPlain table ∧ isReserved table = false)
    (hnotes : d.store.connection.catalog.Notes t) : d.Hosts table t := by
  obtain ⟨⟨hwritable, hintact⟩, ⟨hknown, hkept⟩, halone, hplain, hempty⟩ := h
  have hsound : t.Sound := .of_empty (List.isEmpty_iff.1 hempty)
  refine ⟨⟨hd.store, hname.1, hname.2, hwritable, hintact, halone.holds ht, hnotes, hplain,
    hsound, fun p hp => ?_⟩, fun types htypes => ?_⟩
  · rw [hp] at hknown
    cases hknown
  · rw [htypes] at hkept
    cases hkept

def notebook : Database :=
  (Step.run (.query "CREATE TABLE notes(id INTEGER PRIMARY KEY, title TEXT, stars INT)") inMemory).2

theorem reachable_notebook : notebook.Reachable := by
  rw [notebook]
  exact .used (.opened (connect_memory ⟨"", [], []⟩)) _

theorem notes_there : (notebook.store.connection.catalog.table? "notes").isSome := by
  decide +kernel

def notes : Table := (notebook.store.connection.catalog.table? "notes").get notes_there

theorem notes_new :
    notebook.IsNew "notes" notes ∧
      (notes.autoincrement = false ∧ notebook.store.connection.catalog.highest notes = 0) ∧
      notes.Accepts [("title", "Ada")] ∧ notes.Accepts [("stars", "5")] := by
  decide +kernel

theorem hosts_notes : notebook.Hosts "notes" notes := by
  obtain ⟨hnew, ⟨hauto, -⟩, -, -⟩ := notes_new
  exact hnew.hosts reachable_notebook (Option.some_get notes_there).symm (by decide)
    fun h => absurd h (by simp [hauto])

theorem columns_notes : ∃ a b c : Column, notes.columns = [a, b, c] ∧ a.name = "id" ∧
    (b.name = "title" ∧ ColumnType.ofDeclared b.type = .string ∧ b.affinity = .text) ∧
    c.name = "stars" ∧ ColumnType.ofDeclared c.type = .integer ∧ c.affinity = .integer := by
  have hcolumns : notes.columns.map (fun c => (c.name, ColumnType.ofDeclared c.type, c.affinity)) =
      [("id", .integer, .integer), ("title", .string, .text), ("stars", .integer, .integer)] := by
    decide +kernel
  simp only [List.map_eq_cons_iff, List.map_eq_nil_iff, Prod.mk.injEq] at hcolumns
  obtain ⟨a, _, hall, ⟨ha, -, -⟩, b, _, rfl, hb, c, _, rfl, hc, rfl⟩ := hcolumns
  exact ⟨a, b, c, hall, ha, hb, hc⟩

theorem note_added {row : Row} (h : notes.Given [("title", "Ada")] (notes.blankRow 1) row) :
    row = [.int 1, .text "Ada", .null] := by
  obtain ⟨a, b, c, hall, ha, ⟨hb, htype, hstored⟩, hc, -, -⟩ := columns_notes
  have hblank : notes.blankRow 1 = [.int 1, .null, .null] := by
    rw [Table.blankRow, hall]
    simp [ha, hb, hc]
  have hwidth : row.length = 3 := by
    rw [h.width, Table.width, hall]
    rfl
  obtain ⟨x, y, z, rfl⟩ := List.length_eq_three.1 hwidth
  have hid := h.kept 0 a (by rw [hall]; rfl) (by simp [ha])
  obtain ⟨v, hv, htitle⟩ := h.given 1 b "Ada" (by rw [hall]; rfl) (by simp [hb])
  have hstars := h.kept 2 c (by rw [hall]; rfl) (by simp [hc])
  rw [htype] at hv
  obtain rfl := Option.some.inj hv
  rw [hstored] at htitle
  rw [hblank] at hid hstars
  rw [Option.some.inj hid, Option.some.inj htitle, Option.some.inj hstars]
  rfl

theorem note_changed {row : Row}
    (h : notes.Given [("stars", "5")] [.int 1, .text "Ada", .null] row) :
    row = [.int 1, .text "Ada", .int 5] := by
  obtain ⟨a, b, c, hall, ha, ⟨hb, -, -⟩, hc, htype, hstored⟩ := columns_notes
  have hwidth : row.length = 3 := by
    rw [h.width, Table.width, hall]
    rfl
  obtain ⟨x, y, z, rfl⟩ := List.length_eq_three.1 hwidth
  have hid := h.kept 0 a (by rw [hall]; rfl) (by simp [ha])
  have htitle := h.kept 1 b (by rw [hall]; rfl) (by simp [hb])
  obtain ⟨v, hv, hstars⟩ := h.given 2 c "5" (by rw [hall]; rfl) (by simp [hc])
  have hfive : Store.convert .integer "5" = some (.int 5) := by rfl
  rw [htype, hfive] at hv
  obtain rfl := Option.some.inj hv
  rw [hstored] at hstars
  rw [Option.some.inj hid, Option.some.inj htitle, Option.some.inj hstars]
  rfl

theorem names_notes : notes.columns.map Column.name = ["id", "title", "stars"] := by
  obtain ⟨a, b, c, hall, ha, ⟨hb, -, -⟩, hc, -, -⟩ := columns_notes
  rw [hall, List.map_cons, List.map_cons, List.map_cons, ha, hb, hc]
  rfl

def register : Database :=
  (Step.run (.query ("CREATE TABLE users (id INTEGER PRIMARY KEY AUTOINCREMENT, " ++
    "name VARCHAR(50), age INT, score DOUBLE)")) inMemory).2

theorem reachable_register : register.Reachable := by
  rw [register]
  exact .used (.opened (connect_memory ⟨"", [], []⟩)) _

theorem register_tables :
    (register.store.connection.catalog.table? "users").isSome ∧
      (register.store.connection.catalog.table? sequenceName).isSome := by
  decide +kernel

def users : Table := (register.store.connection.catalog.table? "users").get register_tables.1

def usersSequence : Table :=
  (register.store.connection.catalog.table? sequenceName).get register_tables.2

theorem users_new :
    register.IsNew "users" users ∧
      register.store.connection.catalog.Alone sequenceName usersSequence ∧
      (usersSequence.foreignKeys.isEmpty ∧ ¬sameName users.name sequenceName) ∧
      (users.autoincrement = true ∧ register.store.connection.catalog.highest users = 0) ∧
      users.Accepts [("name", "Ada")] := by
  decide +kernel

theorem hosts_users : register.Hosts "users" users := by
  obtain ⟨hnew, halone, ⟨hkeys, hne⟩, -, -⟩ := users_new
  have hheld := halone.holds (Option.some_get register_tables.2).symm
  exact hnew.hosts reachable_register (Option.some_get register_tables.1).symm (by decide)
    fun _ => ⟨hne, usersSequence, hheld, List.isEmpty_iff.1 hkeys⟩

/-- A note is added and read, changed and read, and taken away, and nothing is done to another. -/
theorem row_laws_notes :
    notebook.Hosts "notes" notes ∧
      ∃ filled changed, Database.add "notes" [("title", "Ada")] notebook = (.ok 1, filled) ∧
        (get "notes" 1 filled).1 =
          .ok (.ofRows [[("id", .int 1), ("title", .text "Ada"), ("stars", .null)]]) ∧
        update "notes" 1 [("stars", "5")] filled = (.ok 1, changed) ∧
        (get "notes" 1 changed).1 =
          .ok (.ofRows [[("id", .int 1), ("title", .text "Ada"), ("stars", .int 5)]]) ∧
        (update "notes" 2 [("stars", "5")] filled).1 = .ok 0 ∧
        (delete "notes" 1 changed).1 = .ok 1 ∧
        (get "notes" 1 (Database.delete "notes" 1 changed).2).1 = .ok (.ofRows []) ∧
      register.Hosts "users" users ∧ users.autoincrement = true ∧
        (Database.add "users" [("name", "Ada")] register).1 = .ok 1 := by
  obtain ⟨⟨-, -, -, -, hempty⟩, ⟨-, hhighest⟩, htitle, hstars⟩ := notes_new
  have hnone : notes.rows.entries = [] := List.isEmpty_iff.1 hempty
  obtain ⟨-, hadd, -⟩ := row_laws hosts_notes
  obtain ⟨hnext, hadded, -⟩ := hadd _ htitle
  generalize Database.add "notes" [("title", "Ada")] notebook = added at hnext hadded ⊢
  obtain ⟨answer, filled⟩ := added
  obtain rfl : answer = .ok 1 := (hnext (by rw [hhighest]; decide)).trans (by rw [hhighest]; rfl)
  obtain ⟨-, row, hgiven, hset, shown, hanswer, hshown⟩ := hadded 1 rfl
  obtain rfl := note_added hgiven
  rw [hshown.eq, names_notes, NamedRow.ofValues_of_nodup (by decide)] at hanswer
  obtain ⟨rows, hfilled, hrow, hothers⟩ := hset.here
  obtain ⟨-, hchange, -⟩ := row_laws hfilled
  have hother : rows.get? 2 = none := by
    rw [hothers 2 (by decide), Rows.get?, hnone]
    rfl
  obtain ⟨-, -, -, hupdate⟩ := hchange _ (hstars.holding rows)
  obtain ⟨hone, new, hgiven', hset'⟩ := (hupdate 1).1 _ hrow
  have hmissing := ((hupdate 2).2 hother).1
  obtain ⟨answer', changed, hupdated⟩ : ∃ answer' changed,
      update "notes" 1 [("stars", "5")] filled = (answer', changed) := ⟨_, _, rfl⟩
  rw [hupdated] at hone hset'
  obtain rfl : answer' = .ok 1 := hone
  obtain rfl := note_changed hgiven'.of_holding
  obtain ⟨rows', hchanged, hrow', -⟩ := hset'.here
  obtain ⟨-, -, hremove, -⟩ := row_laws hchanged
  obtain ⟨shown', hanswer', hshown'⟩ := hset'.get
  rw [hshown'.eq, Table.columns_holding, names_notes, NamedRow.ofValues_of_nodup (by decide)]
    at hanswer'
  obtain ⟨-, -, -, ⟨hauto, hregister⟩, hname⟩ := users_new
  obtain ⟨-, hjoin, -⟩ := row_laws hosts_users
  have hfirst : (Database.add "users" [("name", "Ada")] register).1 = .ok 1 :=
    ((hjoin _ hname).1 (by rw [hregister]; decide)).trans (by rw [hregister]; rfl)
  exact ⟨hosts_notes, filled, changed, rfl, hanswer, hupdated, hanswer', hmissing,
    ((hremove 1).1 _ hrow').1, (hremove 1).2.2, hosts_users, hauto, hfirst⟩

def orders : Database :=
  (Step.run (.query "CREATE TABLE \"order\"(id INTEGER PRIMARY KEY, title TEXT)") inMemory).2

theorem reachable_orders : orders.Reachable := by
  rw [orders]
  exact .used (.opened (connect_memory ⟨"", [], []⟩)) _

/-- An update without fields is refused though the row is there, and so is any deletion from a
table whose name is a word of the language. -/
theorem refused_where_present :
    (∃ filled : Database, filled.Reachable ∧
      (∃ row, (get "notes" 1 filled).1 = .ok (.ofRows [row])) ∧
      (update "notes" 1 [] filled).1 = .error (.invalidInput .noFields)) ∧
    orders.Reachable ∧ (delete "order" 1 orders).1 = .error (.prepare (.sql (.near "order"))) := by
  obtain ⟨-, ⟨-, hhighest⟩, htitle, -⟩ := notes_new
  have hnext := freshId_next (c := notebook.store.connection.catalog) (t := notes)
    (by rw [hhighest]; decide)
  refine ⟨⟨_, .used reachable_notebook (.add "notes" [("title", "Ada")]), ?_⟩, reachable_orders,
    eq_error_of_map (f := fun _ => ()) (by decide +kernel)⟩
  rw [Step.run, snd_map]
  rcases hosts_notes.add htitle with ⟨k, hfresh, -, hset⟩ | ⟨e, fault, hfull, -, -⟩
  · obtain rfl : k = 1 := (Except.ok.inj (hfresh.symm.trans hnext)).trans (by rw [hhighest]; rfl)
    obtain ⟨rows, hfilled⟩ := hset.hosts
    obtain ⟨shown, hanswer, -⟩ := hset.get
    exact ⟨⟨shown, hanswer⟩, (hfilled.nothing.2 1).1⟩
  · cases hfull.symm.trans hnext

end Database
end Tabular
