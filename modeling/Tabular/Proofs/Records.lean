import Mathlib.Data.List.Induction
import Mathlib.Data.List.Perm.Subperm
import Tabular.Record

/-!
# Records from lists of entries

A record holds each name of a list of entries once, where it first stands in the list, and
under it the value that stands last.
-/

set_option autoImplicit false

namespace Tabular

namespace Record

variable {α : Type}

theorem ofList_concat (entries : List (String × α)) (e : String × α) :
    ofList (entries ++ [e]) = put (ofList entries) e.1 e.2 := by
  rw [ofList, List.foldl_append]
  rfl

/-- The names of a record stand in the order in which they first appear. -/
theorem keys_ofList (entries : List (String × α)) :
    (ofList entries).keys = (entries.map Prod.fst).eraseDups := by
  induction entries using List.reverseRecOn with
  | nil => rfl
  | append_singleton entries e ih =>
    rw [ofList_concat, keys_put, ih, List.map_append, List.eraseDups_append]
    by_cases hmem : e.1 ∈ entries.map Prod.fst
    · simp [List.removeAll, hmem]
    · simp [List.removeAll, hmem, List.eraseDups_cons]

theorem keys_subset (entries : List (String × α)) :
    keys (ofList entries) ⊆ entries.map Prod.fst := by
  intro name hname
  rw [keys_ofList] at hname
  exact List.mem_eraseDups.1 hname

theorem nodup_keys (entries : List (String × α)) : (keys (ofList entries)).Nodup := by
  induction entries using List.reverseRecOn with
  | nil => exact List.nodup_nil
  | append_singleton entries e ih =>
    rw [ofList_concat, keys_put]
    split
    · exact ih
    · rename_i hnew
      exact List.nodup_append.2 ⟨ih, by simp, fun a ha b hb hab =>
        hnew (List.mem_singleton.1 hb ▸ hab ▸ ha)⟩

/-- A record is as long as its list of entries only if no name is repeated. -/
theorem nodup_of_length {entries : List (String × α)}
    (h : (ofList entries).length = entries.length) : (entries.map Prod.fst).Nodup := by
  have hlength : (entries.map Prod.fst).length = (keys (ofList entries)).length := by
    rw [List.length_map, keys, List.length_map, h]
  have hsubperm := (nodup_keys entries).subperm (keys_subset entries)
  have hperm := hsubperm.perm_of_length_le (Nat.le_of_eq hlength)
  exact hperm.nodup_iff.1 (nodup_keys entries)

/-- Under a name stands what was written last under it. -/
theorem get?_ofList {entries : List (String × α)} {i : Nat} {name : String} {v : α}
    (h : entries[i]? = some (name, v)) (hlast : ∀ j > i, ∀ w, entries[j]? ≠ some (name, w)) :
    (ofList entries).get? name = some v := by
  induction entries using List.reverseRecOn with
  | nil => cases h
  | append_singleton entries e ih =>
    obtain ⟨other, w⟩ := e
    rw [ofList_concat, get?_put]
    by_cases hi : i < entries.length
    · have hother : name ≠ other := by
        rintro rfl
        exact hlast entries.length hi w List.getElem?_concat_length
      rw [if_neg hother]
      apply ih
      · rwa [List.getElem?_append_left hi] at h
      · intro j hj w hw
        apply hlast j hj w
        rwa [List.getElem?_append_left (List.getElem?_eq_some_iff.1 hw).1]
    · have hend : i = entries.length := by
        have hlength := (List.getElem?_eq_some_iff.1 h).1
        rw [List.length_append, List.length_singleton] at hlength
        omega
      rw [hend, List.getElem?_concat_length] at h
      obtain ⟨rfl, rfl⟩ := Prod.mk.inj (Option.some.inj h)
      exact if_pos rfl

end Record
end Tabular
