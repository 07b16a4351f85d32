/-!
# Records

Values under names, in the order in which the names first appeared. Writing a
name again keeps its place and takes the new value.
-/

set_option autoImplicit false

namespace Tabular

abbrev Record (α : Type) := List (String × α)

namespace Record

variable {α : Type}

def put (r : Record α) (name : String) (v : α) : Record α :=
  match r with
  | [] => [(name, v)]
  | (n, w) :: rest => if n = name then (n, v) :: rest else (n, w) :: put rest name v

def ofList (entries : List (String × α)) : Record α :=
  entries.foldl (fun r e => put r e.1 e.2) []

def get? (r : Record α) (name : String) : Option α :=
  match r with
  | [] => none
  | (n, w) :: rest => if n = name then some w else get? rest name

def keys (r : Record α) : List String := r.map Prod.fst

theorem get?_put (r : Record α) (name other : String) (v : α) :
    (put r name v).get? other = if other = name then some v else r.get? other := by
  induction r with
  | nil => simp [put, get?, eq_comm]
  | cons e rest ih =>
    obtain ⟨n, w⟩ := e
    simp only [put, get?]
    split <;> simp only [get?, ih] <;> grind

theorem keys_put (r : Record α) (name : String) (v : α) :
    (put r name v).keys = if name ∈ r.keys then r.keys else r.keys ++ [name] := by
  induction r with
  | nil => simp [put, keys]
  | cons e rest ih =>
    obtain ⟨n, w⟩ := e
    simp only [keys] at ih
    simp only [put, keys]
    split <;> simp only [List.map_cons, ih] <;> grind

theorem put_of_not_mem {r : Record α} {name : String} (h : name ∉ r.keys) (v : α) :
    put r name v = r ++ [(name, v)] := by
  induction r with
  | nil => rfl
  | cons e rest ih =>
    obtain ⟨n, w⟩ := e
    simp only [keys, List.map_cons, List.mem_cons, not_or] at h
    rw [put, if_neg (Ne.symm h.1), ih h.2]
    rfl

/-- Entries without repeated names are a record as they are. -/
theorem ofList_of_nodup {entries : List (String × α)} (h : (entries.map Prod.fst).Nodup) :
    ofList entries = entries := by
  have hfold : ∀ (front back : List (String × α)), ((front ++ back).map Prod.fst).Nodup →
      back.foldl (fun r e => put r e.1 e.2) front = front ++ back := by
    intro front back
    induction back generalizing front with
    | nil => simp
    | cons e back ih =>
      intro hn
      have hnew : e.1 ∉ keys front := by
        rw [List.map_append, List.nodup_append] at hn
        exact fun hm => hn.2.2 e.1 hm e.1 (by simp) rfl
      rw [List.foldl_cons, put_of_not_mem hnew, ih, List.append_assoc]
      · rfl
      · rwa [List.append_assoc]
  exact hfold [] entries h

end Record
end Tabular
