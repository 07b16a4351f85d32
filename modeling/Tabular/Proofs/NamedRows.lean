import Mathlib.Data.List.Induction
import Tabular.Answer
import Tabular.Proofs.Records

/-!
# Rows under the names of their columns

A row shows each column name once, where it first stands, and under it the value of the last
column of that name. There is just one way to show a row.
-/

set_option autoImplicit false

namespace Tabular

def Text.InHex (bytes : List UInt8) (s : String) : Prop :=
  s.toList = bytes.flatMap fun b => [Nat.digitChar (b.toNat / 16), Nat.digitChar (b.toNat % 16)]

/-- How a value is shown in an answer, and how it is then written: a number and a text as they
are, bytes that are no text in their digits. -/
inductive Cell.Shows : Sql.Value → Cell → Json → Prop
  | null : Shows .null .null .null
  | int (i : Int64) : Shows (.int i) (.int i) (.number (.int i.toInt))
  | real {x : Float} (finite : x.isFinite = true) : Shows (.real x) (.real x) (.number (.real x))
  | infinite {x : Float} (infinite : x.isFinite = false) : Shows (.real x) (.real x) .null
  | text (s : String) : Shows (.text s) (.text s) (.text s)
  | blob {bytes : List UInt8} {s : String} (digits : Text.InHex bytes s) :
      Shows (.blob bytes) (.text s) (.text s)
  | rawText {bytes : List UInt8} {s : String} (digits : Text.InHex bytes s) :
      Shows (.rawText bytes) (.text s) (.text s)

/-- A row as it is shown under the columns of its statement: each name once, in the order in
which they first stand, and under each the value of the last column of that name, or nothing
where the row has no value for it. -/
structure NamedRow.Shows (columns : List String) (row : List Sql.Value) (shown : NamedRow) :
    Prop where
  keys : shown.keys = columns.eraseDups
  last : ∀ (i : Nat) (name : String), columns[i]? = some name →
    (∀ j > i, columns[j]? ≠ some name) →
    ∃ cell, shown.get? name = some cell ∧ Cell.Shows (row[i]?.getD .null) cell cell.toJson

theorem Text.inHex_iff {bytes : List UInt8} {s : String} :
    InHex bytes s ↔ s = hexBytes bytes := by
  have hdigit : ∀ n < 16, hexDigit n = Nat.digitChar n := by decide
  have hbytes : bytes.flatMap hexByte =
      bytes.flatMap fun b => [Nat.digitChar (b.toNat / 16), Nat.digitChar (b.toNat % 16)] := by
    apply List.flatMap_congr
    intro b _
    have hb := b.toNat_lt
    rw [hexByte, hdigit _ (by omega), hdigit _ (by omega)]
  rw [InHex, hexBytes, hbytes, ← String.toList_inj, String.toList_ofList]

theorem Cell.shows_ofValue (v : Sql.Value) : Shows v (ofValue v) (ofValue v).toJson := by
  cases v with
  | null => exact .null
  | int i => exact .int i
  | real x =>
    rw [ofValue, toJson, Json.real]
    by_cases h : x.isFinite = true
    · rw [if_pos h]
      exact .real h
    · rw [if_neg h]
      exact .infinite (Bool.eq_false_iff.2 h)
  | text s => exact .text s
  | blob bytes => exact .blob (Text.inHex_iff.2 rfl)
  | rawText bytes => exact .rawText (Text.inHex_iff.2 rfl)

theorem Cell.Shows.eq {v : Sql.Value} {cell : Cell} {json : Json} (h : Shows v cell json) :
    cell = ofValue v := by
  cases h with
  | null | int | real | infinite | text => rfl
  | blob digits | rawText digits => rw [Text.inHex_iff.1 digits, ofValue]

theorem Record.ext_of_keys {α : Type} {r r' : Record α} (hkeys : r.keys = r'.keys)
    (hn : r.keys.Nodup) (h : ∀ name ∈ r.keys, r.get? name = r'.get? name) : r = r' := by
  induction r generalizing r' with
  | nil => exact (List.map_eq_nil_iff.1 hkeys.symm).symm
  | cons e rest ih =>
    cases r' with
    | nil => cases hkeys
    | cons e' rest' =>
      obtain ⟨n, w⟩ := e
      obtain ⟨n', w'⟩ := e'
      obtain ⟨hname, hrest⟩ := List.cons.inj hkeys
      obtain rfl : n = n' := hname
      obtain ⟨hnew, hn⟩ := List.nodup_cons.1 hn
      have hfirst := h n List.mem_cons_self
      rw [get?, get?, if_pos rfl, if_pos rfl] at hfirst
      obtain rfl := Option.some.inj hfirst
      congr 1
      apply ih hrest hn
      intro name hname
      have hother : n ≠ name := by
        rintro rfl
        exact hnew hname
      have hboth := h name (List.mem_cons_of_mem _ hname)
      rwa [get?, get?, if_neg hother, if_neg hother] at hboth

namespace NamedRow

variable {columns : List String} {row : List Sql.Value} {shown : NamedRow}

theorem map_fst_entries (columns : List String) (row : List Sql.Value) :
    (entries columns row).map Prod.fst = columns := by
  induction columns generalizing row with
  | nil => rfl
  | cons name columns ih =>
    cases row with
    | nil => exact congrArg (name :: ·) (ih [])
    | cons v row => exact congrArg (name :: ·) (ih row)

theorem getElem?_entries (columns : List String) (row : List Sql.Value) (i : Nat) :
    (entries columns row)[i]? =
      columns[i]?.map fun name => (name, .ofValue (row[i]?.getD .null)) := by
  induction columns generalizing row i with
  | nil => rfl
  | cons name columns ih =>
    cases row with
    | nil =>
      cases i with
      | zero => rfl
      | succ i => exact ih [] i
    | cons v row =>
      cases i with
      | zero => rfl
      | succ i => exact ih row i

theorem shows_ofValues (columns : List String) (row : List Sql.Value) :
    Shows columns row (ofValues columns row) where
  keys := by rw [ofValues, Record.keys_ofList, map_fst_entries]
  last i name hname hlast := by
    refine ⟨_, ?_, Cell.shows_ofValue _⟩
    apply Record.get?_ofList (i := i)
    · rw [getElem?_entries, hname, Option.map_some]
    · intro j hj w hw
      rw [getElem?_entries, Option.map_eq_some_iff] at hw
      obtain ⟨other, hother, heq⟩ := hw
      exact hlast j hj (hother.trans (congrArg some (Prod.mk.inj heq).1))

/-- Where no name is repeated, each column is shown. -/
theorem ofValues_of_nodup (h : columns.Nodup) (row : List Sql.Value) :
    ofValues columns row = entries columns row := by
  apply Record.ofList_of_nodup
  rwa [map_fst_entries]

/-- A name that stands among others stands last somewhere. -/
theorem exists_last {name : String} (h : name ∈ columns) :
    ∃ i : Nat, columns[i]? = some name ∧ ∀ j > i, columns[j]? ≠ some name := by
  induction columns using List.reverseRecOn with
  | nil => cases h
  | append_singleton columns other ih =>
    by_cases hother : other = name
    · subst hother
      refine ⟨columns.length, List.getElem?_concat_length, ?_⟩
      intro j hj
      rw [List.getElem?_eq_none]
      · nofun
      · rw [List.length_append, List.length_singleton]
        exact hj
    · have hmem : name ∈ columns := by
        simpa [Ne.symm hother] using h
      obtain ⟨i, hi, hlast⟩ := ih hmem
      have hlt := (List.getElem?_eq_some_iff.1 hi).1
      refine ⟨i, by rwa [List.getElem?_append_left hlt], ?_⟩
      intro j hj hname
      by_cases hin : j < columns.length
      · rw [List.getElem?_append_left hin] at hname
        exact hlast j hj hname
      · rw [List.getElem?_append_right (Nat.le_of_not_lt hin),
          List.getElem?_singleton] at hname
        split at hname
        · exact hother (Option.some.inj hname)
        · cases hname

/-- There is just one way to show a row. -/
theorem Shows.eq (h : Shows columns row shown) : shown = ofValues columns row := by
  have hshows := shows_ofValues columns row
  have hkeys : shown.keys = (ofValues columns row).keys := h.keys.trans hshows.keys.symm
  apply Record.ext_of_keys hkeys
  · rw [hkeys]
    exact Record.nodup_keys _
  · intro name hname
    rw [h.keys, List.mem_eraseDups] at hname
    obtain ⟨i, hi, hlast⟩ := exists_last hname
    obtain ⟨cell, hcell, hv⟩ := h.last i name hi hlast
    obtain ⟨cell', hcell', hv'⟩ := hshows.last i name hi hlast
    rw [hcell, hcell', hv.eq, hv'.eq]

end NamedRow

end Tabular
