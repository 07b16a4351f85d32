import Mathlib.Data.List.Basic
import Tabular.Sql.Change

/-!
# Rows under their numbers

Each number stands once, in ascending order, and putting and erasing a row touch no
other row. A number that is given out for a new row is one that no row has.
-/

set_option autoImplicit false

namespace Tabular.Sql

namespace Rows

variable {rows : Rows} {id : Int64} {row : Row}

def Ascending (rows : Rows) : Prop := rows.entries.Pairwise fun a b => a.1 < b.1

theorem get?_cons (e : Int64 × Row) (rest : List (Int64 × Row)) (other : Int64) :
    get? ⟨e :: rest⟩ other = if e.1 = other then some e.2 else get? ⟨rest⟩ other := by
  rw [get?, List.find?_cons]
  by_cases h : e.1 = other <;> simp [h, get?]

theorem get?_set (rows : Rows) (id other : Int64) (row : Row) :
    (rows.set id row).get? other = if other = id then some row else rows.get? other := by
  obtain ⟨entries⟩ := rows
  rw [set]
  induction entries with
  | nil =>
    rw [setIn, get?_cons]
    simp only [eq_comm]
  | cons e rest ih =>
    obtain ⟨i, r⟩ := e
    rw [setIn]
    split
    · rw [get?_cons]
      simp only [eq_comm]
    · split
      · rename_i hid
        subst hid
        rw [get?_cons, get?_cons]
        by_cases ho : other = id
        · simp [ho]
        · simp [ho, Ne.symm ho]
      · rename_i hid
        rw [get?_cons, get?_cons, ih]
        by_cases hi : i = other
        · subst hi
          simp [Ne.symm hid]
        · simp [hi]

theorem get?_erase (rows : Rows) (id other : Int64) :
    (rows.erase id).get? other = if other = id then none else rows.get? other := by
  obtain ⟨entries⟩ := rows
  rw [erase]
  induction entries with
  | nil => simp [get?]
  | cons e rest ih =>
    rw [List.filter_cons, get?_cons]
    by_cases he : e.1 = id
    · rw [if_neg (by simpa using he), ih]
      subst he
      by_cases ho : other = e.1
      · simp [ho]
      · simp [ho, Ne.symm ho]
    · rw [if_pos (by simpa using he), get?_cons, ih]
      by_cases ho : e.1 = other
      · subst ho
        simp [he]
      · simp [ho]

theorem mem_setIn {entries : List (Int64 × Row)} {e : Int64 × Row}
    (h : e ∈ setIn id row entries) : e = (id, row) ∨ e ∈ entries := by
  induction entries with
  | nil => exact .inl (List.mem_singleton.1 h)
  | cons f rest ih =>
    rw [setIn] at h
    split at h
    · exact List.mem_cons.1 h
    · split at h
      · exact (List.mem_cons.1 h).imp_right (List.mem_cons_of_mem _)
      · rcases List.mem_cons.1 h with rfl | h
        · exact .inr (List.mem_cons_self ..)
        · exact (ih h).imp_right (List.mem_cons_of_mem _)

theorem Ascending.set (h : rows.Ascending) (id : Int64) (row : Row) :
    (rows.set id row).Ascending := by
  obtain ⟨entries⟩ := rows
  change entries.Pairwise _ at h
  change (setIn id row entries).Pairwise _
  induction entries with
  | nil => exact List.pairwise_singleton _ _
  | cons e rest ih =>
    obtain ⟨hfirst, hrest⟩ := List.pairwise_cons.1 h
    rw [setIn]
    split
    · rename_i hlt
      refine List.pairwise_cons.2 ⟨?_, h⟩
      intro f hf
      rcases List.mem_cons.1 hf with rfl | hf
      · exact hlt
      · exact Int64.lt_trans hlt (hfirst f hf)
    · rename_i hlt
      split
      · rename_i hid
        exact List.pairwise_cons.2 ⟨fun f hf => hid ▸ hfirst f hf, hrest⟩
      · rename_i hid
        refine List.pairwise_cons.2 ⟨?_, ih hrest⟩
        intro f hf
        rcases mem_setIn hf with rfl | hf
        · exact Int64.lt_of_le_of_ne (Int64.not_lt.1 hlt) (Ne.symm hid)
        · exact hfirst f hf

theorem Ascending.erase (h : rows.Ascending) (id : Int64) : (rows.erase id).Ascending :=
  List.Pairwise.sublist List.filter_sublist h

/-- The rows of a number are the one that stands under it. -/
theorem Ascending.filter_id (h : rows.Ascending) (id : Int64) :
    rows.entries.filter (fun e => e.1 = id) = ((rows.get? id).map fun row => (id, row)).toList := by
  obtain ⟨entries⟩ := rows
  change entries.Pairwise _ at h
  induction entries with
  | nil => rfl
  | cons e rest ih =>
    obtain ⟨hfirst, hrest⟩ := List.pairwise_cons.1 h
    rw [List.filter_cons, get?_cons]
    by_cases he : e.1 = id
    · subst he
      have hnone : rest.filter (fun f => f.1 = e.1) = [] := by
        refine List.filter_eq_nil_iff.2 fun f hf => ?_
        simpa using (Int64.ne_of_lt (hfirst f hf)).symm
      simp [hnone]
    · simpa [he] using ih hrest

theorem erase_absent (h : rows.get? id = none) : rows.erase id = rows := by
  rw [get?, Option.map_eq_none_iff, List.find?_eq_none] at h
  exact congrArg Rows.mk (List.filter_eq_self.2 fun e he => by simpa using h e he)

theorem mem_of_get? (h : rows.get? id = some row) : (id, row) ∈ rows.entries := by
  rw [get?, Option.map_eq_some_iff] at h
  obtain ⟨e, he, rfl⟩ := h
  have hid : e.1 = id := by simpa using List.find?_some he
  exact hid ▸ List.mem_of_find?_eq_some he

/-- A row that takes the place of another need not wait for it to be gone. -/
theorem Ascending.set_erase (h : rows.Ascending) (id : Int64) (row : Row) :
    (rows.erase id).set id row = rows.set id row := by
  obtain ⟨entries⟩ := rows
  change entries.Pairwise _ at h
  refine congrArg Rows.mk ?_
  change setIn id row (entries.filter fun e => e.1 ≠ id) = setIn id row entries
  -- behind a number that is not below this one all numbers are above it
  have hothers {rest : List (Int64 × Row)} {i : Int64} (hle : id ≤ i)
      (hfirst : ∀ f ∈ rest, i < f.1) : rest.filter (fun e => e.1 ≠ id) = rest := by
    refine List.filter_eq_self.2 fun f hf => ?_
    have hlt : id < f.1 := Int64.lt_of_le_of_lt hle (hfirst f hf)
    simpa using (Int64.ne_of_lt hlt).symm
  induction entries with
  | nil => rfl
  | cons e rest ih =>
    obtain ⟨i, r⟩ := e
    obtain ⟨hfirst, hrest⟩ := List.pairwise_cons.1 h
    by_cases hlt : id < i
    · have hid : i ≠ id := (Int64.ne_of_lt hlt).symm
      rw [List.filter_cons_of_pos (by simpa using hid), hothers (Int64.le_of_lt hlt) hfirst]
    · by_cases hid : id = i
      · subst hid
        rw [List.filter_cons_of_neg (by simp), hothers (Int64.le_refl id) hfirst, setIn,
          if_neg hlt, if_pos rfl]
        cases rest with
        | nil => rfl
        | cons f rest => rw [setIn, if_pos (hfirst f (List.mem_cons_self ..))]
      · rw [List.filter_cons_of_pos (by simpa using Ne.symm hid), setIn, if_neg hlt, if_neg hid,
          setIn, if_neg hlt, if_neg hid, ih hrest]

theorem erase_erase (rows : Rows) (id : Int64) : (rows.erase id).erase id = rows.erase id := by
  refine congrArg Rows.mk ?_
  simp only [erase, List.filter_filter, Bool.and_self]

theorem Ascending.le_last (h : rows.Ascending) {last : Int64} (hlast : rows.last? = some last)
    {e : Int64 × Row} (he : e ∈ rows.entries) : e.1 ≤ last := by
  obtain ⟨entries⟩ := rows
  change entries.Pairwise _ at h
  rw [last?, Option.map_eq_some_iff] at hlast
  obtain ⟨final, hfinal, rfl⟩ := hlast
  obtain ⟨front, rfl⟩ := List.getLast?_eq_some_iff.1 hfinal
  obtain ⟨-, -, hlt⟩ := List.pairwise_append.1 h
  rcases List.mem_append.1 he with he | he
  · exact Int64.le_of_lt (hlt e he final (List.mem_singleton_self _))
  · rw [List.mem_singleton.1 he]
    exact Int64.le_refl _

theorem get?_none_of_ne {id : Int64} (h : ∀ e ∈ rows.entries, e.1 ≠ id) : rows.get? id = none := by
  rw [get?, Option.map_eq_none_iff, List.find?_eq_none]
  simpa using h

end Rows

theorem lt_succ {i last : Int64} (h : i ≤ last) (hlast : last ≠ Int64.maxValue) : i < last + 1 := by
  grind

theorem max_eq_ite (a b : Int64) : max a b = if a ≤ b then b else a := rfl

def Catalog.highest (c : Catalog) (t : Table) : Int64 :=
  if t.autoincrement then max (t.rows.last?.getD 0) (c.sequence t.name) else t.rows.last?.getD 0

theorem Catalog.le_highest {c : Catalog} {t : Table} (h : t.rows.Ascending) {e : Int64 × Row}
    (he : e ∈ t.rows.entries) : e.1 ≤ c.highest t := by
  have hle : e.1 ≤ t.rows.last?.getD 0 := by
    cases hlast : t.rows.last? with
    | none =>
      rw [Rows.last?, Option.map_eq_none_iff, List.getLast?_eq_none_iff] at hlast
      rw [hlast] at he
      cases he
    | some last => exact h.le_last hlast he
  rw [highest, max_eq_ite]
  split
  · split
    · exact Int64.le_trans hle ‹_›
    · exact hle
  · exact hle

/-- A new row gets one more than the highest number. Where that is the greatest one, it gets one
that is free, or where numbers are noted none. -/
theorem freshId_eq (c : Catalog) (t : Table) :
    freshId c t =
      if c.highest t ≠ Int64.maxValue then .ok (c.highest t + 1)
      else if t.autoincrement then .error .full
      else
        match (List.range (t.rows.size + 1)).find? fun n => !t.rows.contains (.ofNat (n + 1)) with
        | some n => .ok (.ofNat (n + 1))
        | none => .error .full := by
  rw [freshId, Catalog.highest]
  cases hauto : t.autoincrement with
  | false =>
    cases hlast : t.rows.last? with
    | none => rfl
    | some last =>
      by_cases hmax : last = Int64.maxValue
      · simp only [hmax, ne_eq, not_true_eq_false, false_and, if_false, Option.getD_some]
        rfl
      · simp [hmax]
  | true =>
    cases hlast : t.rows.last? with
    | none =>
      have hmax : max 0 (c.sequence t.name) = Int64.maxValue ↔
          c.sequence t.name = Int64.maxValue := by
        rw [max_eq_ite]
        grind
      simp [hmax]
    | some last =>
      have hmax : max last (c.sequence t.name) = Int64.maxValue ↔
          last = Int64.maxValue ∨ c.sequence t.name = Int64.maxValue := by
        rw [max_eq_ite]
        grind
      by_cases hfull : last = Int64.maxValue ∨ c.sequence t.name = Int64.maxValue
      · simp [if_pos hfull, hmax.2 hfull]
      · simp [hmax, hfull]

/-- A number for a new row is one that no row has. -/
theorem freshId_absent {c : Catalog} {t : Table} {id : Int64} (h : t.rows.Ascending)
    (hid : freshId c t = .ok id) : t.rows.get? id = none := by
  rw [freshId_eq] at hid
  split at hid
  · rename_i hmax
    obtain rfl := Except.ok.inj hid
    exact Rows.get?_none_of_ne fun e he =>
      Int64.ne_of_lt (lt_succ (Catalog.le_highest h he) hmax)
  · split at hid
    · cases hid
    · split at hid
      · rename_i n hn
        obtain rfl := Except.ok.inj hid
        have habsent := List.find?_some hn
        simpa [Rows.contains] using habsent
      · cases hid

/-- As long as the greatest number is not in use, a new row gets one more than the highest. -/
theorem freshId_next {c : Catalog} {t : Table} (h : c.highest t ≠ Int64.maxValue) :
    freshId c t = .ok (c.highest t + 1) := by
  rw [freshId_eq, if_pos h]

end Tabular.Sql
