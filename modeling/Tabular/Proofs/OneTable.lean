import Tabular.Proofs.PlainTables

/-!
# Catalogs in which the rows of one table change

Other rows for a table that nothing refers to leave every other table, all indexes and the
count of broken references as they are.
-/

set_option autoImplicit false

namespace Tabular.Sql.Catalog

variable {c : Catalog} {name other : String} {t u : Table} {rows : Rows}

def rewritten (name : String) (rows : Rows) (u : Table) : Table :=
  if sameName u.name name then u.holding rows else u

theorem tables_setRows (c : Catalog) (name : String) (rows : Rows) :
    (c.setRows name rows).tables = c.tables.map (rewritten name rows) := by
  rw [tables, tables, setRows, List.filterMap_map, List.map_filterMap]
  congr 1
  funext i
  cases i with
  | table u =>
    simp only [Function.comp_apply, Item.table?, Option.map_some, rewritten]
    by_cases hu : sameName u.name name
    · rw [if_pos hu, if_pos hu]
      rfl
    · rw [if_neg hu, if_neg hu]
  | index | view => rfl

theorem indexes_setRows (c : Catalog) (name : String) (rows : Rows) :
    (c.setRows name rows).indexes = c.indexes := by
  rw [indexes, indexes, setRows, List.filterMap_map]
  congr 1
  funext i
  cases i with
  | table u =>
    simp only [Function.comp_apply]
    split <;> rfl
  | index | view => rfl

theorem indexesOf_setRows (c : Catalog) (name : String) (rows : Rows) (table : String) :
    (c.setRows name rows).indexesOf table = c.indexesOf table := by
  rw [indexesOf, indexesOf, indexes_setRows]

theorem name_rewritten (u : Table) : (rewritten name rows u).name = u.name := by
  rw [rewritten]
  split <;> rfl

theorem foreignKeys_rewritten (u : Table) :
    (rewritten name rows u).foreignKeys = u.foreignKeys := by
  rw [rewritten]
  split <;> rfl

theorem table?_setRows (c : Catalog) (name : String) (rows : Rows) (other : String) :
    (c.setRows name rows).table? other = (c.table? other).map (rewritten name rows) := by
  rw [table?, table?, tables_setRows, List.find?_map]
  congr 2
  funext u
  simp only [Function.comp_apply, name_rewritten]

theorem name_of_table? (h : c.table? name = some u) : sameName u.name name :=
  List.find?_some (p := fun u : Table => sameName u.name name) h

/-- A table of another name is as it was. -/
theorem table?_setRows_of_ne (h : ¬sameName other name) :
    (c.setRows name rows).table? other = c.table? other := by
  rw [table?_setRows]
  cases hu : c.table? other with
  | none => rfl
  | some u =>
    have hname : sameName u.name other := name_of_table? hu
    have hne : ¬sameName u.name name := fun hs =>
      h (sameName_iff.2 ((sameName_iff.1 hname).symm.trans (sameName_iff.1 hs)))
    rw [Option.map_some, rewritten, if_neg hne]

theorem setRows_setRows (c : Catalog) (name : String) (rows rows' : Rows) :
    (c.setRows name rows).setRows name rows' = c.setRows name rows' := by
  refine congrArg (Catalog.mk · c.version) ?_
  rw [setRows, List.map_map]
  refine List.map_congr_left fun i _ => ?_
  cases i with
  | table u =>
    simp only [Function.comp_apply]
    by_cases hu : sameName u.name name
    · simp [hu]
    · simp [hu]
  | index | view => rfl

/-- It makes no difference in which case the name is written. -/
theorem setRows_congr (c : Catalog) (h : sameName name other) (rows : Rows) :
    c.setRows name rows = c.setRows other rows := by
  have hsame (u : Table) : sameName u.name name = sameName u.name other := by
    simp only [sameName, sameName_iff.1 h]
  simp only [setRows, hsame]

/-- The table is the only one of a name. No table refers to it, and rows of it may be alike. -/
structure Holds (c : Catalog) (name : String) (t : Table) : Prop where
  listed : t ∈ c.tables
  named : sameName t.name name
  alone : ∀ u ∈ c.tables, sameName u.name name → u = t
  own : isSchemaTable name = false
  unreferred : c.referring t.name = []
  repeatable : ∀ i ∈ c.indexesOf t.name, i.unique = false

def Alone (c : Catalog) (name : String) (t : Table) : Prop :=
  (c.tables.filter fun u => sameName u.name name).length ≤ 1 ∧ isSchemaTable name = false ∧
    (c.referring t.name).isEmpty ∧ (c.indexesOf t.name).all fun i => !i.unique

instance (c : Catalog) (name : String) (t : Table) : Decidable (c.Alone name t) :=
  inferInstanceAs (Decidable (_ ∧ _))

theorem Alone.holds (halone : c.Alone name t) (h : c.table? name = some t) : c.Holds name t where
  listed := List.mem_of_find?_eq_some h
  named := name_of_table? h
  alone u hu hs := by
    have hmem : t ∈ c.tables.filter fun u => sameName u.name name :=
      List.mem_filter.2 ⟨List.mem_of_find?_eq_some h, name_of_table? h⟩
    have hother : u ∈ c.tables.filter fun u => sameName u.name name := List.mem_filter.2 ⟨hu, hs⟩
    have honly := halone.1
    generalize c.tables.filter (fun u => sameName u.name name) = named at honly hmem hother
    match named with
    | [] => cases hmem
    | [v] => rw [List.mem_singleton.1 hother, List.mem_singleton.1 hmem]
    | _ :: _ :: _ => simp at honly
  own := halone.2.1
  unreferred := List.isEmpty_iff.1 halone.2.2.1
  repeatable i hi := by simpa using List.all_eq_true.1 halone.2.2.2 i hi

namespace Holds

theorem table? (h : c.Holds name t) : c.table? name = some t := by
  have hsome : (c.table? name).isSome := List.find?_isSome.2 ⟨t, h.listed, h.named⟩
  obtain ⟨u, hu⟩ := Option.isSome_iff_exists.1 hsome
  rw [hu, h.alone u (List.mem_of_find?_eq_some hu) (name_of_table? hu)]

/-- The table goes by its own name, too. -/
theorem itself (h : c.Holds name t) : c.Holds t.name t where
  listed := h.listed
  named := sameName_self _
  alone u hu hs :=
    h.alone u hu (sameName_iff.2 ((sameName_iff.1 hs).trans (sameName_iff.1 h.named)))
  own := by
    have hown := h.own
    simp only [isSchemaTable, List.any_eq_false, sameName_iff] at hown ⊢
    exact fun s hs => sameName_iff.1 h.named ▸ hown s hs
  unreferred := h.unreferred
  repeatable := h.repeatable

theorem readable? (h : c.Holds name t) : c.readable? name = some t := by
  rw [Catalog.readable?, if_neg (by simp [h.own]), h.table?]

theorem no_reference (h : c.Holds name t) (hu : u ∈ c.tables) {fk : ForeignKey}
    (hfk : fk ∈ u.foreignKeys) : ¬sameName fk.reference.table t.name := by
  have hnone := List.flatMap_eq_nil_iff.1 h.unreferred u hu
  rw [List.map_eq_nil_iff] at hnone
  exact List.filter_eq_nil_iff.1 hnone fk hfk

theorem tables_setRows_ne (h : c.Holds name t) (hu : u ∈ c.tables) (hne : u ≠ t) :
    rewritten t.name rows u = u :=
  if_neg fun hs => hne (h.itself.alone u hu hs)

theorem rewritten_self (t : Table) (rows : Rows) : rewritten t.name rows t = t.holding rows :=
  if_pos (sameName_self _)

theorem unreferred_setRows (h : c.Holds name t) (other : String) (rows : Rows) :
    (c.setRows other rows).referring t.name = [] := by
  rw [referring, tables_setRows, List.flatMap_map]
  refine List.flatMap_eq_nil_iff.2 fun u hu => ?_
  rw [foreignKeys_rewritten, List.map_eq_nil_iff]
  exact List.filter_eq_nil_iff.2 fun fk hfk => h.no_reference hu hfk

theorem setRows (h : c.Holds name t) (rows : Rows) :
    (c.setRows t.name rows).Holds name (t.holding rows) where
  listed := by
    rw [tables_setRows, ← rewritten_self]
    exact List.mem_map_of_mem h.listed
  named := h.named
  alone u hu hs := by
    rw [tables_setRows] at hu
    obtain ⟨v, hv, rfl⟩ := List.mem_map.1 hu
    rw [name_rewritten] at hs
    rw [h.alone v hv hs, rewritten_self]
  own := h.own
  unreferred := h.unreferred_setRows t.name rows
  repeatable i hi := h.repeatable i (by rwa [indexesOf_setRows] at hi)

/-- Rows of another table have no part in it. -/
theorem setRows_of_ne (h : c.Holds name t) (hne : ¬sameName t.name other) (rows : Rows) :
    (c.setRows other rows).Holds name t where
  listed := by
    rw [tables_setRows]
    exact List.mem_map.2 ⟨t, h.listed, if_neg hne⟩
  named := h.named
  alone u hu hs := by
    rw [tables_setRows] at hu
    obtain ⟨v, hv, rfl⟩ := List.mem_map.1 hu
    rw [name_rewritten] at hs
    rw [h.alone v hv hs]
    exact if_neg hne
  own := h.own
  unreferred := h.unreferred_setRows other rows
  repeatable i hi := h.repeatable i (by rwa [indexesOf_setRows] at hi)

theorem setRows_same (h : c.Holds name t) : c.setRows t.name t.rows = c := by
  refine congrArg (Catalog.mk · c.version)
    ((List.map_congr_left fun i hi => ?_).trans (List.map_id' c.items))
  cases i with
  | table u =>
    by_cases hs : sameName u.name t.name
    · obtain rfl := h.itself.alone u (List.mem_filterMap.2 ⟨_, hi, rfl⟩) hs
      exact if_pos hs
    · exact if_neg hs
  | index | view => rfl

theorem isKey_setRows (c : Catalog) (rows : Rows) (parent : Table) (places : List Nat) :
    ForeignKey.isKey (c.setRows name rows) parent places = ForeignKey.isKey c parent places := by
  simp only [ForeignKey.isKey, indexesOf_setRows]

theorem target_setRows (h : c.Holds name t) (hu : u ∈ c.tables) {fk : ForeignKey}
    (hfk : fk ∈ u.foreignKeys) : fk.target (c.setRows t.name rows) u = fk.target c u := by
  simp only [ForeignKey.target, table?_setRows_of_ne (h.no_reference hu hfk), isKey_setRows]

/-- As many rows refer to nothing as before, if the table refers to none itself. -/
theorem violations (h : c.Holds name t) (hp : t.foreignKeys = []) (rows : Rows) (deferred : Bool) :
    (c.setRows t.name rows).violations deferred = c.violations deferred := by
  rw [Catalog.violations, Catalog.violations, tables_setRows, List.map_map]
  congr 1
  refine List.map_congr_left fun u hu => ?_
  simp only [Function.comp_apply]
  by_cases hut : u = t
  · subst hut
    rw [rewritten_self]
    have hnone : (u.holding rows).foreignKeys = [] := hp
    rw [hnone, hp]
    rfl
  · rw [h.tables_setRows_ne hu hut]
    congr 1
    refine List.map_congr_left fun fk hfk => ?_
    simp only [ForeignKey.violations, h.target_setRows hu (List.mem_of_mem_filter hfk)]

end Holds

/-- Where a table has its numbers noted, they are noted in another table, which has no rules. -/
def Notes (c : Catalog) (t : Table) : Prop :=
  t.autoincrement = true → ¬sameName t.name sequenceName ∧
    ∃ u, c.Holds sequenceName u ∧ u.foreignKeys = []

def noting (c : Catalog) (t : Table) (id : Int64) : Catalog :=
  if t.autoincrement then c.setSequence t.name (max id (c.sequence t.name)) else c

def storing (c : Catalog) (t : Table) (rows : Rows) : Option Int64 → Catalog
  | none => c.setRows t.name rows
  | some id => (c.setRows t.name rows).noting t id

theorem setSequence_eq (h : c.Holds sequenceName u) (name : String) (id : Int64) :
    ∃ rows, c.setSequence name id = c.setRows u.name rows := by
  rw [setSequence, h.table?]
  simp only [← setRows_congr c h.named]
  split
  · exact ⟨_, rfl⟩
  · exact ⟨_, rfl⟩

namespace Notes

/-- To note a number is to change the rows of a table apart, if anything. -/
theorem noting_cases (h : c.Notes t) (id : Int64) :
    c.noting t id = c ∨
      t.autoincrement = true ∧ ¬sameName t.name sequenceName ∧ ∃ u rows,
        c.Holds sequenceName u ∧ u.foreignKeys = [] ∧ c.noting t id = c.setRows u.name rows := by
  rw [noting]
  by_cases hauto : t.autoincrement
  · obtain ⟨hne, u, hu, hkeys⟩ := h hauto
    obtain ⟨rows, hrows⟩ := setSequence_eq hu t.name (max id (c.sequence t.name))
    rw [if_pos hauto, hrows]
    exact .inr ⟨hauto, hne, u, rows, hu, hkeys, rfl⟩
  · exact .inl (if_neg hauto)

theorem apart (hne : ¬sameName t.name sequenceName) (hu : c.Holds sequenceName u) :
    ¬sameName u.name t.name := fun hs =>
  hne (sameName_iff.2 ((sameName_iff.1 hs).symm.trans (sameName_iff.1 hu.named)))

theorem setRows (h : c.Notes t) (rows : Rows) : (c.setRows t.name rows).Notes t := by
  intro hauto
  obtain ⟨hne, u, hu, hkeys⟩ := h hauto
  exact ⟨hne, u, hu.setRows_of_ne (apart hne hu) rows, hkeys⟩

theorem storing (h : c.Notes t) (rows : Rows) (new : Option Int64) :
    (c.storing t rows new).Notes (t.holding rows) := by
  cases new with
  | none => exact h.setRows rows
  | some id =>
    intro hauto
    rcases (h.setRows rows).noting_cases id with hsame | ⟨-, hne, u, noted, hu, hkeys, hrows⟩
    · rw [Catalog.storing, hsame]
      exact h.setRows rows hauto
    · rw [Catalog.storing, hrows]
      exact ⟨hne, u.holding noted, hu.setRows noted, hkeys⟩

end Notes

section

variable (h : c.Holds name t) (hn : c.Notes t) (rows : Rows) (new : Option Int64)
include h hn

theorem Holds.storing : (c.storing t rows new).Holds name (t.holding rows) := by
  cases new with
  | none => exact h.setRows rows
  | some id =>
    rcases (hn.setRows rows).noting_cases id with hsame | ⟨-, hne, u, noted, hu, -, hrows⟩
    · rw [Catalog.storing, hsame]
      exact h.setRows rows
    · rw [Catalog.storing, hrows]
      refine (h.setRows rows).setRows_of_ne (fun hs => Notes.apart hne hu ?_) noted
      exact sameName_iff.2 (sameName_iff.1 hs).symm

theorem violations_storing (ht : t.foreignKeys = []) (deferred : Bool) :
    (c.storing t rows new).violations deferred = c.violations deferred := by
  have hrows := h.itself.violations ht rows deferred
  cases new with
  | none => exact hrows
  | some id =>
    rcases (hn.setRows rows).noting_cases id with hsame | ⟨-, -, u, noted, hu, hkeys, hnoted⟩
    · rw [Catalog.storing, hsame, hrows]
    · rw [Catalog.storing, hnoted, hu.violations hkeys, hrows]

end

/-- Tables of other names are as they were, but for the one in which a new number is noted. -/
theorem table?_storing (hn : c.Notes t) (rows : Rows) (new : Option Int64)
    (hother : ¬sameName other t.name)
    (hnote : ¬(t.autoincrement = true ∧ new.isSome ∧ sameName other sequenceName)) :
    (c.storing t rows new).table? other = c.table? other := by
  have hrows : (c.setRows t.name rows).table? other = c.table? other :=
    table?_setRows_of_ne hother
  cases new with
  | none => exact hrows
  | some id =>
    rcases (hn.setRows rows).noting_cases id with hsame | ⟨hauto, -, u, noted, hu, -, hnoted⟩
    · rw [Catalog.storing, hsame, hrows]
    · have hne : ¬sameName other u.name := fun hs => hnote ⟨hauto, rfl,
        sameName_iff.2 ((sameName_iff.1 hs).trans (sameName_iff.1 hu.named))⟩
      rw [Catalog.storing, hnoted, table?_setRows_of_ne hne, hrows]

end Tabular.Sql.Catalog
