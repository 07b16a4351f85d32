import Tabular.Proofs.Results
import Tabular.Proofs.StoreRuns

/-!
# Statements without result columns

A statement that changes rows has the result columns that it returns of them. Where it
returns nothing it has none, on whatever connection it is compiled.
-/

set_option autoImplicit false

namespace Tabular.Sql

variable {catalog : Catalog}

theorem resolveInsertion_returning {i : Insertion} {r : Inserting} (hi : i.returning = [])
    (h : resolveInsertion catalog i = .ok r) : r.returning = [] := by
  rw [resolveInsertion, hi] at h
  obtain ⟨t, -, h⟩ := bind_eq_ok.1 h
  obtain ⟨⟨places, idPlace⟩, -, h⟩ := bind_eq_ok.1 h
  -- what is left after the values have their plan, whatever it is
  have hrest (plan : Option Plan) {r : Inserting} (h : (do
      let upserts ← i.upserts.mapM (resolveUpsert catalog t (i.label.getD t.name))
      checkReferences catalog t
      let returning ← resolveReturning (Site.ofCatalog catalog) (t.range (i.label.getD t.name) 0) []
      if i.query.isNone then
        .ok (Inserting.mk t i.conflict (List.replicate t.width none) none none upserts returning)
      else .ok (Inserting.mk t i.conflict places idPlace plan upserts returning)) = .ok r) :
      r.returning = [] := by
    obtain ⟨upserts, -, h⟩ := bind_eq_ok.1 h
    obtain ⟨_, -, h⟩ := bind_eq_ok.1 h
    obtain ⟨returning, hreturning, h⟩ := bind_eq_ok.1 h
    obtain rfl := Except.ok.inj hreturning
    split at h
    · rw [← Except.ok.inj h]
    · rw [← Except.ok.inj h]
  cases hq : i.query with
  | none =>
    simp only [hq] at h hrest
    exact hrest none h
  | some q =>
    simp only [hq] at h hrest
    obtain ⟨resolved, -, h⟩ := bind_eq_ok.1 h
    split at h
    · split at h
      · cases h
      · exact hrest _ h
    · split at h
      · cases h
      · exact hrest _ h

/-- The last steps of resolving an update or a deletion that returns nothing. -/
theorem resolved_unreturned {α : Type} {t : Table} {site : Site} {range : Range}
    {f : List Output → α} {r : α} (h : (do
      checkReferences catalog t
      checkReferring catalog t
      let returning ← resolveReturning site range []
      .ok (f returning)) = .ok r) : r = f [] := by
  obtain ⟨_, -, h⟩ := bind_eq_ok.1 h
  obtain ⟨_, -, h⟩ := bind_eq_ok.1 h
  exact (Except.ok.inj h).symm

theorem resolveUpdate_returning {commons : List (CommonTable Query)} {u : Update} {r : Updating}
    (hu : u.returning = []) (h : resolveUpdate catalog commons u = .ok r) : r.returning = [] := by
  rw [resolveUpdate, hu] at h
  obtain ⟨t, -, h⟩ := bind_eq_ok.1 h
  obtain ⟨origins, -, h⟩ := bind_eq_ok.1 h
  obtain ⟨sourced, -, h⟩ := bind_eq_ok.1 h
  obtain ⟨assignments, -, h⟩ := bind_eq_ok.1 h
  let updating (condition : Option Formula) (returning : List Output) : Updating :=
    ⟨t, u.conflict, assignments.map Prod.fst,
      selectionOf sourced condition (idOf t :: assignments.map Prod.snd), returning⟩
  cases hc : u.condition with
  | none =>
    simp only [hc] at h
    rw [resolved_unreturned (f := updating none) h]
  | some term =>
    simp only [hc] at h
    obtain ⟨condition, -, h⟩ := bind_eq_ok.1 h
    rw [resolved_unreturned (f := updating condition) h]

theorem resolveDeletion_returning {commons : List (CommonTable Query)} {d : Deletion} {r : Deleting}
    (hd : d.returning = []) (h : resolveDeletion catalog commons d = .ok r) : r.returning = [] := by
  rw [resolveDeletion, hd] at h
  obtain ⟨t, -, h⟩ := bind_eq_ok.1 h
  obtain ⟨sourced, -, h⟩ := bind_eq_ok.1 h
  let deleting (condition : Option Formula) (returning : List Output) : Deleting :=
    ⟨t, selectionOf sourced condition [idOf t], returning⟩
  cases hc : d.condition with
  | none =>
    simp only [hc] at h
    rw [resolved_unreturned (f := deleting none) h]
  | some term =>
    simp only [hc] at h
    obtain ⟨condition, -, h⟩ := bind_eq_ok.1 h
    rw [resolved_unreturned (f := deleting condition) h]

def IsSilent : Instruction → Prop
  | .insert i => i.returning = []
  | .update _ u => u.returning = []
  | .delete _ d => d.returning = []
  | _ => False

theorem columns_silent {c : Connection} {i : Instruction} {columns : List String} (hi : IsSilent i)
    (h : c.columnsHere i = .ok columns) : columns = [] := by
  have hcolumns : Connection.columnsOf c.catalog i = .ok columns := by
    rw [Connection.columnsHere] at h
    split at h
    · cases i <;> first | cases hi | cases h
    · exact h
  cases i with
  | insert i =>
    obtain ⟨r, hr, rfl⟩ := map_eq_ok.1 hcolumns
    rw [resolveInsertion_returning hi hr]
    rfl
  | update commons u =>
    obtain ⟨r, hr, rfl⟩ := map_eq_ok.1 hcolumns
    rw [resolveUpdate_returning hi hr]
    rfl
  | delete commons d =>
    obtain ⟨r, hr, rfl⟩ := map_eq_ok.1 hcolumns
    rw [resolveDeletion_returning hi hr]
    rfl
  | _ => cases hi

end Tabular.Sql
