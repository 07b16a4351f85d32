import Mathlib.Data.List.Perm.Subperm
import Tabular.Proofs.NumberedRows
import Tabular.Proofs.Pieces
import Tabular.Statement.Builder
import Tabular.Store

/-!
# Plain tables

The column `id` of a plain table is the number of the row, and there is no rule about its
other columns. What fields say of a row decides the row that is stored, whatever the order
of the fields: each column that is given holds its value as it is stored there.
-/

set_option autoImplicit false

namespace Tabular.Sql

namespace Affinity

@[simp]
theorem store_null (a : Affinity) : a.store .null = .null := by cases a <;> rfl

/-- A text is read as a number, or it stays as it is. -/
theorem numberOfText_cases (v : Value) :
    numberOfText true v = v ∨ (∃ i, numberOfText true v = .int i) ∨
      ∃ x, numberOfText true v = .real x ∧ wholeReal? x = none := by
  simp only [numberOfText, if_true]
  split
  · exact .inl rfl
  · split
    · exact .inr (.inl ⟨_, rfl⟩)
    · split
      · exact .inr (.inl ⟨_, rfl⟩)
      · rename_i hwhole
        exact .inr (.inr ⟨_, rfl, hwhole⟩)

theorem store_storedReal (x : Float) : store .real (storedReal x) = storedReal x := by
  rw [storedReal]
  split
  · change storedReal 0 = _
    rw [storedReal]
    split <;> rfl
  · rename_i hx
    exact if_neg hx

/-- Whole doubles are stored as whole numbers, and then stay so. -/
theorem store_whole {a : Affinity} (ha : a = .integer ∨ a = .numeric) (v : Value) :
    a.store (a.store v) = a.store v := by
  have hint (i : Int64) : a.store (.int i) = .int i := by rcases ha with rfl | rfl <;> rfl
  have hreal {x : Float} (hx : wholeReal? x = none) : a.store (.real x) = .real x := by
    rcases ha with rfl | rfl <;> simp only [store, hx]
  by_cases hv : v.isText
  · have htext : a.store v = numberOfText true v := by
      cases v with
      | text | rawText => rcases ha with rfl | rfl <;> rfl
      | null | int | real | blob => cases hv
    rcases numberOfText_cases v with h | ⟨i, h⟩ | ⟨x, h, hx⟩
    · rw [htext, h, htext, h]
    · rw [htext, h, hint]
    · rw [htext, h, hreal hx]
  · cases v with
    | null => rw [store_null, store_null]
    | int i => rw [hint, hint]
    | real x =>
      cases hx : wholeReal? x with
      | none => rw [hreal hx, hreal hx]
      | some i =>
        have hwhole : a.store (.real x) = .int i := by
          rcases ha with rfl | rfl <;> simp only [store, hx]
        rw [hwhole, hint]
    | blob bytes => rcases ha with rfl | rfl <;> rfl
    | text | rawText => exact absurd rfl hv

theorem store_real (v : Value) : store .real (store .real v) = store .real v := by
  by_cases hv : v.isText
  · rcases numberOfText_cases v with h | ⟨i, h⟩ | ⟨x, h, -⟩
    · have hsame : store .real v = v := by
        rw [store, if_pos hv, h]
        cases v with
        | text | rawText => rfl
        | null | int | real | blob => cases hv
      rw [hsame, hsame]
    · have hint : store .real v = storedReal i.toFloat := by rw [store, if_pos hv, h]
      rw [hint, store_storedReal]
    · have hreal : store .real v = storedReal x := by rw [store, if_pos hv, h]
      rw [hreal, store_storedReal]
  · cases v with
    | null => rfl
    | int i => exact store_storedReal _
    | real x => exact store_storedReal _
    | blob bytes => rfl
    | text | rawText => exact absurd rfl hv

/-- What was stored is stored again as it is. -/
theorem store_store (a : Affinity) (v : Value) : a.store (a.store v) = a.store v := by
  cases a with
  | unset | blob => rfl
  | text => cases v <;> rfl
  | integer => exact store_whole (.inl rfl) v
  | numeric => exact store_whole (.inr rfl) v
  | real => exact store_real v

end Affinity

theorem sameName_iff {a b : String} : sameName a b ↔ foldName a = foldName b := decide_eq_true_iff

@[simp]
theorem sameName_self (a : String) : sameName a a := sameName_iff.2 rfl

namespace Table

/-- The column `id` is the number of the row, and there are no rules for the other columns. -/
structure Plain (t : Table) : Prop where
  numbered : ∃ i c, t.idColumn = some i ∧ t.columns[i]? = some c ∧ c.name = "id"
  free : ∀ c ∈ t.columns, c.required = none ∧ c.default = none
  ordinary : ∀ c ∈ t.columns, isOrdinary c.name
  distinct : (t.columns.map fun c => foldName c.name).Nodup
  narrow : t.width ≤ Parameters.limit
  unchecked : t.checks = []
  unlinked : t.foreignKeys = []
  counted : t.withoutRowid = false
  loose : t.strict = false

instance (t : Table) : Decidable t.Plain :=
  decidable_of_iff
    ((∃ i, i ∈ t.idColumn ∧ ∃ c, c ∈ t.columns[i]? ∧ c.name = "id") ∧
      (∀ c ∈ t.columns, c.required.isNone ∧ c.default.isNone ∧ isOrdinary c.name) ∧
      (t.columns.map fun c => foldName c.name).Nodup ∧ t.width ≤ Parameters.limit ∧
      t.checks.isEmpty ∧ t.foreignKeys.isEmpty ∧ t.withoutRowid = false ∧ t.strict = false) <| by
    constructor
    · rintro ⟨⟨i, hi, c, hc, hname⟩, hcolumns, hdistinct, hnarrow, hchecks, hkeys, hrowid, hstrict⟩
      exact ⟨⟨i, c, hi, hc, hname⟩,
        fun c hc => ⟨Option.isNone_iff_eq_none.1 (hcolumns c hc).1,
          Option.isNone_iff_eq_none.1 (hcolumns c hc).2.1⟩,
        fun c hc => (hcolumns c hc).2.2, hdistinct, hnarrow, List.isEmpty_iff.1 hchecks,
        List.isEmpty_iff.1 hkeys, hrowid, hstrict⟩
    · rintro ⟨⟨i, c, hi, hc, hname⟩, hfree, hordinary, hdistinct, hnarrow, hchecks, hkeys, hrowid,
        hstrict⟩
      refine ⟨⟨i, hi, c, hc, hname⟩, fun c hc => ⟨?_, ?_, hordinary c hc⟩, hdistinct, hnarrow,
        by simp [hchecks], by simp [hkeys], hrowid, hstrict⟩
      · simp [(hfree c hc).1]
      · simp [(hfree c hc).2]

variable {t : Table} {i j n : Nat} {c c' : Column} {id : Int64} {row : Row}

theorem Plain.place_inj (h : t.Plain) (hi : t.columns[i]? = some c) (hj : t.columns[j]? = some c')
    (hs : foldName c.name = foldName c'.name) : i = j := by
  obtain ⟨hlt, -⟩ := List.getElem?_eq_some_iff.1 hi
  refine (List.getElem?_inj (by simpa using hlt) h.distinct).1 ?_
  rw [List.getElem?_map, List.getElem?_map, hi, hj]
  exact congrArg some hs

theorem Plain.columnIndex (h : t.Plain) (hi : t.columns[i]? = some c) {name : String}
    (hs : sameName c.name name) : t.columnIndex? name = some i := by
  obtain ⟨hlt, hc⟩ := List.getElem?_eq_some_iff.1 hi
  rw [columnIndex?, List.findIdx?_eq_some_iff_getElem]
  refine ⟨hlt, hc ▸ hs, fun j hj hsame => ?_⟩
  have hplace := h.place_inj (List.getElem?_eq_getElem (Nat.lt_trans hj hlt)) hi
    ((sameName_iff.1 hsame).trans (sameName_iff.1 hs).symm)
  omega

theorem Plain.id_iff (h : t.Plain) (hn : t.columns[n]? = some c) :
    t.idColumn = some n ↔ c.name = "id" := by
  obtain ⟨i, idc, hi, hc, hname⟩ := h.numbered
  constructor
  · intro hid
    obtain rfl := Option.some.inj (hi.symm.trans hid)
    obtain rfl := Option.some.inj (hn.symm.trans hc)
    exact hname
  · intro hid
    rw [hi, h.place_inj hc hn (by rw [hname, hid])]

def Fits (t : Table) (id : Int64) (row : Row) : Prop :=
  row.length = t.width ∧ t.stored id row = row

theorem length_stored (t : Table) (id : Int64) (row : Row) :
    (t.stored id row).length = min t.width row.length := by
  simp [stored, width]

theorem getElem?_stored (id : Int64) {v : Value} (hc : t.columns[n]? = some c)
    (hv : row[n]? = some v) :
    (t.stored id row)[n]? =
      some (if t.idColumn = some n then .int id else c.affinity.store v) := by
  have hzip : (t.columns.zip row)[n]? = some (c, v) := List.getElem?_zip_eq_some.2 ⟨hc, hv⟩
  rw [stored, List.getElem?_map, List.getElem?_zipIdx, hzip]
  simp

theorem row_ext {other : Row} (h : row.length = t.width) (h' : other.length = t.width)
    (hcells : ∀ (n : Nat) c, t.columns[n]? = some c → row[n]? = other[n]?) : row = other := by
  apply List.ext_getElem?
  intro n
  by_cases hn : n < t.width
  · exact hcells n _ (List.getElem?_eq_getElem hn)
  · rw [List.getElem?_eq_none (by omega), List.getElem?_eq_none (by omega)]

theorem exists_cell (h : row.length = t.width) (hn : t.columns[n]? = some c) :
    ∃ v, row[n]? = some v := by
  obtain ⟨hlt, -⟩ := List.getElem?_eq_some_iff.1 hn
  exact ⟨_, List.getElem?_eq_getElem (h ▸ hlt : n < row.length)⟩

structure Sound (t : Table) : Prop where
  ascending : t.rows.Ascending
  fits : ∀ e ∈ t.rows.entries, t.Fits e.1 e.2

theorem Sound.of_empty (h : t.rows.entries = []) : t.Sound := by
  constructor
  · rw [Rows.Ascending, h]
    exact List.Pairwise.nil
  · rw [h]
    exact fun e he => absurd he List.not_mem_nil

def holding (t : Table) (rows : Rows) : Table := { t with rows }

theorem Sound.set (h : t.Sound) (hrow : t.Fits id row) : (t.holding (t.rows.set id row)).Sound where
  ascending := h.ascending.set id row
  fits e he := by
    rcases Rows.mem_setIn he with rfl | he
    · exact hrow
    · exact h.fits e he

theorem Sound.erase (h : t.Sound) (id : Int64) : (t.holding (t.rows.erase id)).Sound where
  ascending := h.ascending.erase id
  fits e he := h.fits e (List.mem_of_mem_filter he)

theorem Sound.get? (h : t.Sound) (hrow : t.rows.get? id = some row) : t.Fits id row :=
  h.fits (id, row) (Rows.mem_of_get? hrow)

theorem Plain.holding (h : t.Plain) (rows : Rows) : (t.holding rows).Plain := { h with }

end Table

def Column.given? (c : Column) (fields : List Field) : Option Value :=
  (fields.find? fun f => f.1 = c.name).bind fun f =>
    (Store.convert (.ofDeclared c.type) f.2).map c.affinity.store

namespace Table

variable {t : Table} {n : Nat} {c : Column} {id : Int64} {row : Row} {fields : List Field}
  {pairs : List (Nat × Value)}

/-- Fields for one or more columns besides `id`, each given once and with a text that its type
can read. -/
structure Accepts (t : Table) (fields : List Field) : Prop where
  given : fields ≠ []
  distinct : (fields.map Prod.fst).Nodup
  fits : ∀ f ∈ fields, f.1 ≠ "id" ∧
    ∃ c ∈ t.columns, c.name = f.1 ∧ (Store.convert (.ofDeclared c.type) f.2).isSome

instance (t : Table) (fields : List Field) : Decidable (t.Accepts fields) :=
  decidable_of_iff
    (fields ≠ [] ∧ (fields.map Prod.fst).Nodup ∧ ∀ f ∈ fields, f.1 ≠ "id" ∧
      ∃ c ∈ t.columns, c.name = f.1 ∧ (Store.convert (.ofDeclared c.type) f.2).isSome)
    ⟨fun ⟨hgiven, hdistinct, hfits⟩ => ⟨hgiven, hdistinct, hfits⟩,
      fun h => ⟨h.given, h.distinct, h.fits⟩⟩

def newRow (t : Table) (id : Int64) (fields : List Field) : Row :=
  t.columns.map fun c => if c.name = "id" then .int id else (c.given? fields).getD .null

def changedRow (t : Table) (fields : List Field) (row : Row) : Row :=
  (t.columns.zip row).map fun (c, v) => (c.given? fields).getD v

def updated (t : Table) (id : Int64) (fields : List Field) : Rows :=
  match t.rows.get? id with
  | some row => t.rows.set id (t.changedRow fields row)
  | none => t.rows

theorem store_given {v : Value} (h : c.given? fields = some v) : c.affinity.store v = v := by
  obtain ⟨f, -, hf⟩ := Option.bind_eq_some_iff.1 h
  obtain ⟨w, -, rfl⟩ := Option.map_eq_some_iff.1 hf
  exact Affinity.store_store _ w

theorem given?_of_not_mem (h : c.name ∉ fields.map Prod.fst) : c.given? fields = none := by
  have hnone : fields.find? (fun f => f.1 = c.name) = none :=
    List.find?_eq_none.2 fun f hf he => h (of_decide_eq_true he ▸ List.mem_map_of_mem hf)
  rw [Column.given?, hnone, Option.bind_none]

theorem Accepts.id_not_mem (h : t.Accepts fields) : "id" ∉ fields.map Prod.fst := by
  intro hm
  obtain ⟨f, hf, hname⟩ := List.mem_map.1 hm
  exact (h.fits f hf).1 hname

theorem getElem?_newRow (id : Int64) (fields : List Field) (hn : t.columns[n]? = some c) :
    (t.newRow id fields)[n]? =
      some (if c.name = "id" then .int id else (c.given? fields).getD .null) := by
  rw [newRow, List.getElem?_map, hn, Option.map_some]

theorem getElem?_changedRow (fields : List Field) {v : Value} (hn : t.columns[n]? = some c)
    (hv : row[n]? = some v) :
    (t.changedRow fields row)[n]? = some ((c.given? fields).getD v) := by
  have hzip : (t.columns.zip row)[n]? = some (c, v) := List.getElem?_zip_eq_some.2 ⟨hn, hv⟩
  rw [changedRow, List.getElem?_map, hzip, Option.map_some]

theorem length_newRow (t : Table) (id : Int64) (fields : List Field) :
    (t.newRow id fields).length = t.width := List.length_map _

theorem length_changedRow (fields : List Field) (h : row.length = t.width) :
    (t.changedRow fields row).length = t.width := by
  simp [changedRow, h, width]

/-- A new row is stored as it is. -/
theorem Plain.fits_newRow (h : t.Plain) (id : Int64) (fields : List Field) :
    t.Fits id (t.newRow id fields) := by
  have hlength := length_newRow t id fields
  refine ⟨hlength, row_ext ?_ hlength fun n c hc => ?_⟩
  · rw [length_stored, hlength, Nat.min_self]
  · have hcell := getElem?_newRow id fields hc
    rw [getElem?_stored id hc hcell, hcell]
    simp only [h.id_iff hc]
    by_cases hid : c.name = "id"
    · rw [if_pos hid, if_pos hid]
    · rw [if_neg hid, if_neg hid]
      cases hv : c.given? fields with
      | none => rw [Option.getD_none, Affinity.store_null]
      | some v => rw [Option.getD_some, store_given hv]

/-- A changed row is stored as it is. -/
theorem Plain.fits_changedRow (h : t.Plain) (ha : t.Accepts fields) (hrow : t.Fits id row) :
    t.Fits id (t.changedRow fields row) := by
  have hlength := length_changedRow fields hrow.1
  refine ⟨hlength, row_ext ?_ hlength fun n c hc => ?_⟩
  · rw [length_stored, hlength, Nat.min_self]
  · obtain ⟨v, hv⟩ := exists_cell hrow.1 hc
    have hcell := getElem?_changedRow fields hc hv
    have hkept := getElem?_stored id hc hv
    rw [hrow.2, hv] at hkept
    rw [getElem?_stored id hc hcell, hcell]
    simp only [h.id_iff hc] at hkept ⊢
    by_cases hid : c.name = "id"
    · rw [if_pos hid] at hkept
      rw [if_pos hid, given?_of_not_mem (hid ▸ ha.id_not_mem), Option.getD_none, hkept]
    · rw [if_neg hid] at hkept
      rw [if_neg hid]
      cases hg : c.given? fields with
      | none => rw [Option.getD_none, ← Option.some.inj hkept]
      | some w => rw [Option.getD_some, store_given hg]

theorem Sound.updated (h : t.Sound) (ht : t.Plain) (ha : t.Accepts fields) (id : Int64) :
    (t.holding (t.updated id fields)).Sound := by
  rw [Table.updated]
  cases hrow : t.rows.get? id with
  | none => exact h
  | some row => exact h.set (ht.fits_changedRow ha (h.get? hrow))

inductive Placed (t : Table) : List Field → List (Nat × Value) → Prop
  | nil : Placed t [] []
  | cons {name text : String} {n : Nat} {c : Column} {v : Value} {fields : List Field}
      {pairs : List (Nat × Value)} (here : t.columns[n]? = some c) (named : c.name = name)
      (other : name ≠ "id") (converted : Store.convert (.ofDeclared c.type) text = some v)
      (rest : Placed t fields pairs) : Placed t ((name, text) :: fields) ((n, v) :: pairs)

theorem Accepts.placed (h : t.Accepts fields) : ∃ pairs, t.Placed fields pairs := by
  have hfits := h.fits
  clear h
  induction fields with
  | nil => exact ⟨[], .nil⟩
  | cons f fields ih =>
    obtain ⟨hf, hrest⟩ := List.forall_mem_cons.1 hfits
    obtain ⟨pairs, hpairs⟩ := ih hrest
    obtain ⟨hother, c, hc, hname, hsome⟩ := hf
    obtain ⟨n, hn⟩ := List.mem_iff_getElem?.1 hc
    obtain ⟨v, hv⟩ := Option.isSome_iff_exists.1 hsome
    exact ⟨_, .cons hn hname hother hv hpairs⟩

namespace Placed

def valueAt (pairs : List (Nat × Value)) (n : Nat) : Option Value :=
  (pairs.find? fun p => p.1 = n).map Prod.snd

theorem valueAt_cons (p : Nat × Value) (pairs : List (Nat × Value)) (n : Nat) :
    valueAt (p :: pairs) n = if p.1 = n then some p.2 else valueAt pairs n := by
  rw [valueAt, List.find?_cons]
  by_cases h : p.1 = n <;> simp [h, valueAt]

theorem length_eq (h : t.Placed fields pairs) : pairs.length = fields.length := by
  induction h with
  | nil => rfl
  | cons _ _ _ _ _ ih => exact congrArg (· + 1) ih

/-- What a column is given is the value at its place. -/
theorem given (ht : t.Plain) (h : t.Placed fields pairs) (hn : t.columns[n]? = some c) :
    c.given? fields = (valueAt pairs n).map c.affinity.store := by
  induction h with
  | nil => rfl
  | @cons name text m c' v fields pairs here named _ converted _ ih =>
    have hplace : m = n ↔ name = c.name := by
      constructor
      · rintro rfl
        obtain rfl := Option.some.inj (here.symm.trans hn)
        exact named.symm
      · intro hname
        exact ht.place_inj here hn (by rw [named, hname])
    rw [valueAt_cons, Column.given?, List.find?_cons]
    by_cases hm : m = n
    · obtain rfl := hm
      obtain rfl := Option.some.inj (here.symm.trans hn)
      simp [named, converted]
    · have hname : name ≠ c.name := mt hplace.2 hm
      rw [if_neg hm, ← ih]
      simp [hname, Column.given?]

theorem not_id (ht : t.Plain) (h : t.Placed fields pairs) (hid : t.idColumn = some n) :
    ∀ p ∈ pairs, p.1 ≠ n := by
  induction h with
  | nil => simp
  | cons here named other _ _ ih =>
    refine List.forall_mem_cons.2 ⟨?_, ih⟩
    rintro rfl
    exact other (named ▸ (ht.id_iff here).1 hid)

theorem nodup (h : t.Placed fields pairs) (hd : (fields.map Prod.fst).Nodup) :
    (pairs.map Prod.fst).Nodup := by
  have hnames : ∀ {fields : List Field} {pairs : List (Nat × Value)}, t.Placed fields pairs →
      ∀ p ∈ pairs, ∃ c, t.columns[p.1]? = some c ∧ c.name ∈ fields.map Prod.fst := by
    intro fields pairs h
    induction h with
    | nil => simp
    | cons here named _ _ _ ih =>
      refine List.forall_mem_cons.2 ⟨⟨_, here, named ▸ List.mem_cons_self ..⟩, ?_⟩
      intro p hp
      obtain ⟨c, hc, hm⟩ := ih p hp
      exact ⟨c, hc, List.mem_cons_of_mem _ hm⟩
  induction h with
  | nil => exact List.nodup_nil
  | cons here named _ _ rest ih =>
    obtain ⟨hnew, hd⟩ := List.nodup_cons.1 hd
    refine List.nodup_cons.2 ⟨fun hm => ?_, ih hd⟩
    obtain ⟨p, hp, hplace⟩ := List.mem_map.1 hm
    obtain ⟨c, hc, hmem⟩ := hnames rest p hp
    rw [hplace, here] at hc
    obtain rfl := Option.some.inj hc
    exact hnew (named ▸ hmem)

/-- Distinct fields besides `id` are fewer than there are columns. -/
theorem fewer (ht : t.Plain) (h : t.Placed fields pairs) (hd : (fields.map Prod.fst).Nodup) :
    fields.length < t.width := by
  obtain ⟨i, c, hi, hc, -⟩ := ht.numbered
  obtain ⟨hlt, -⟩ := List.getElem?_eq_some_iff.1 hc
  have hplaces : ∀ p ∈ pairs, p.1 < t.width := by
    clear hd
    induction h with
    | nil => simp
    | cons here _ _ _ _ ih =>
      exact List.forall_mem_cons.2 ⟨(List.getElem?_eq_some_iff.1 here).1, ih⟩
  have hnodup : (i :: pairs.map Prod.fst).Nodup := by
    refine List.nodup_cons.2 ⟨fun hm => ?_, h.nodup hd⟩
    obtain ⟨p, hp, hplace⟩ := List.mem_map.1 hm
    exact h.not_id ht hi p hp hplace
  have hsub : i :: pairs.map Prod.fst ⊆ List.range t.width := by
    intro m hm
    rcases List.mem_cons.1 hm with rfl | hm
    · exact List.mem_range.2 hlt
    · obtain ⟨p, hp, rfl⟩ := List.mem_map.1 hm
      exact List.mem_range.2 (hplaces p hp)
  have hle := (List.Nodup.subperm hnodup hsub).length_le
  rw [List.length_cons, List.length_map, h.length_eq, List.length_range] at hle
  exact hle

/-- Cells with the values at their places, stored as a new row. -/
theorem stored_new (ht : t.Plain) (h : t.Placed fields pairs) {cells : Row}
    (hl : cells.length = t.width)
    (hcells : ∀ n, n < t.width → cells[n]? = some ((valueAt pairs n).getD .null)) :
    t.stored id cells = t.newRow id fields := by
  have hlength := length_newRow t id fields
  refine row_ext (t := t) ?_ hlength fun n c hc => ?_
  · rw [length_stored, hl, Nat.min_self]
  · have hcell := hcells n (List.getElem?_eq_some_iff.1 hc).1
    rw [getElem?_stored id hc hcell, getElem?_newRow id fields hc, h.given ht hc]
    simp only [ht.id_iff hc]
    cases valueAt pairs n <;> simp

/-- A row that fits, with the values at their places, is stored as the changed row. -/
theorem stored_changed (ht : t.Plain) (h : t.Placed fields pairs) (hrow : t.Fits id row)
    {cells : Row} (hl : cells.length = t.width)
    (hcells : ∀ n v, row[n]? = some v → cells[n]? = some ((valueAt pairs n).getD v)) :
    t.stored id cells = t.changedRow fields row := by
  have hlength := length_changedRow fields hrow.1
  refine row_ext (t := t) ?_ hlength fun n c hc => ?_
  · rw [length_stored, hl, Nat.min_self]
  · obtain ⟨v, hv⟩ := exists_cell hrow.1 hc
    have hkept := getElem?_stored id hc hv
    rw [hrow.2, hv] at hkept
    rw [getElem?_stored id hc (hcells n v hv), getElem?_changedRow fields hc hv, h.given ht hc]
    split
    · rename_i hid
      have hnone : valueAt pairs n = none := by
        rw [valueAt, Option.map_eq_none_iff, List.find?_eq_none]
        simpa using h.not_id ht hid
      rw [if_pos hid] at hkept
      rw [hnone]
      exact hkept.symm
    · rename_i hid
      rw [if_neg hid] at hkept
      cases hp : valueAt pairs n with
      | none => exact congrArg some (Option.some.inj hkept).symm
      | some w => rfl

end Placed

end Table
end Tabular.Sql
