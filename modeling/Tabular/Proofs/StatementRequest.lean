import Tabular.Proofs.StatementText

/-!
# Requests and their statements

A request on a plain table that names known columns only has a statement: its text is
made of the pieces of the request, and its values are bound in the order in which the
parameters stand in the text.
-/

set_option autoImplicit false

namespace Tabular

open Sql

inductive Request where
  | insert (fields : List Field)
  | update (id : Int64) (fields : List Field)
  | get (id : Int64)
  | delete (id : Int64)
  | list (request : ListRequest)

abbrev Binding := String × Option ColumnType

def Field.binding (types : ColumnTypes) (f : Field) : Binding := (f.2, types.get? f.1)

def Condition.binding (types : ColumnTypes) (c : Condition) : Binding :=
  ((Operator.extract c.value).2, types.get? c.field)

namespace Request

def statement (table : String) (types : ColumnTypes) : Request → Except AccessError Statement
  | insert fields => Statement.insert table fields types
  | update id fields => Statement.update table id fields types
  | get id => Statement.selectById table id
  | delete id => Statement.delete table id
  | list request => Statement.list table request types

def pieces (table : String) : Request → List Piece
  | insert fields => Statement.insertPieces table (fields.map Prod.fst)
  | update _ fields => Statement.updatePieces table (fields.map Prod.fst)
  | get _ => Statement.selectByIdPieces table
  | delete _ => Statement.deletePieces table
  | list request => Statement.listPieces table request

def idBinding (id : Int64) : Binding := (toString id.toInt, some .integer)

def bindings (types : ColumnTypes) : Request → List Binding
  | insert fields => fields.map (Field.binding types)
  | update id fields => fields.map (Field.binding types) ++ [idBinding id]
  | get id | delete id => [idBinding id]
  | list request => request.filter.leaves.map (Condition.binding types)

def Known (types : ColumnTypes) : Request → Prop
  | insert fields | update _ fields => fields ≠ [] ∧ ∀ f ∈ fields, (types.get? f.1).isSome
  | get _ | delete _ => True
  | list request =>
    (∀ c ∈ request.select, c = "*" ∨ (types.get? c).isSome) ∧
      Filter.Known types request.filter.leaves ∧ ∀ k ∈ request.order, (types.get? k.column).isSome

instance (types : ColumnTypes) (r : Request) : Decidable (r.Known types) :=
  match r with
  | insert fields | update _ fields =>
    inferInstanceAs (Decidable (fields ≠ [] ∧ ∀ f ∈ fields, (types.get? f.1).isSome))
  | get _ | delete _ => .isTrue trivial
  | list request =>
    inferInstanceAs (Decidable ((∀ c ∈ request.select, c = "*" ∨ (types.get? c).isSome) ∧
      (∀ c ∈ request.filter.leaves, (types.get? c.field).isSome) ∧
      ∀ k ∈ request.order, (types.get? k.column).isSome))

def written (table : String) (types : ColumnTypes) (r : Request) : Statement :=
  ⟨String.ofList (pieceText (r.pieces table)), (r.bindings types).map Prod.fst,
    (r.bindings types).filterMap Prod.snd⟩

end Request

namespace Statement

variable {types : ColumnTypes}

theorem columnType_ok {column : String} :
    (∃ t, columnType types column = .ok t) ↔ (types.get? column).isSome := by
  rw [columnType]
  cases types.get? column <;> simp

theorem fieldTypes_known {fields : List Field} (h : ∀ f ∈ fields, (types.get? f.1).isSome) :
    fieldTypes types fields = .ok (fields.filterMap fun f => types.get? f.1) := by
  induction fields with
  | nil => rfl
  | cons f fields ih =>
    obtain ⟨hf, hfields⟩ := List.forall_mem_cons.1 h
    obtain ⟨type, ht⟩ := Option.isSome_iff_exists.1 hf
    have hc : columnType types f.1 = .ok type := by simp [columnType, ht]
    rw [fieldTypes, hc, ih hfields, List.filterMap_cons, ht]
    rfl

theorem known_of_fieldTypes {fields : List Field} {bound : List ColumnType}
    (h : fieldTypes types fields = .ok bound) : ∀ f ∈ fields, (types.get? f.1).isSome := by
  induction fields generalizing bound with
  | nil => simp
  | cons f fields ih =>
    rw [fieldTypes] at h
    obtain ⟨t, ht, h⟩ := bind_eq_ok.1 h
    obtain ⟨others, ho, -⟩ := bind_eq_ok.1 h
    exact List.forall_mem_cons.2 ⟨columnType_ok.1 ⟨t, ht⟩, ih ho⟩

theorem checkTable_ok {table : String} :
    checkTable table = .ok () ↔ Identifier.isPlain table := by
  rw [checkTable]
  split <;> simp_all

theorem checkFields_known {table : String} {fields : List Field}
    (ht : Identifier.isPlain table)
    (h : fields ≠ [] ∧ ∀ f ∈ fields, (types.get? f.1).isSome) :
    checkFields table fields types = .ok (fields.filterMap fun f => types.get? f.1) := by
  have hn : fields.isEmpty = false := by simpa using h.1
  rw [checkFields, checkTable_ok.2 ht, hn, ← fieldTypes_known h.2]
  rfl

theorem known_of_checkFields {table : String} {fields : List Field} {bound : List ColumnType}
    (h : checkFields table fields types = .ok bound) :
    Identifier.isPlain table ∧ fields ≠ [] ∧ ∀ f ∈ fields, (types.get? f.1).isSome := by
  rw [checkFields] at h
  obtain ⟨⟨⟩, ht, h⟩ := bind_eq_ok.1 h
  refine ⟨checkTable_ok.1 ht, ?_⟩
  split at h
  · cases h
  · rename_i hn
    exact ⟨fun he => hn (by simp [he]), known_of_fieldTypes h⟩

theorem checkSelected_ok {select : List String} :
    checkSelected types select = .ok () ↔ ∀ c ∈ select, c = "*" ∨ (types.get? c).isSome := by
  induction select with
  | nil => simp [checkSelected]
  | cons c select ih =>
    rw [checkSelected, List.forall_mem_cons, ← ih]
    by_cases hc : c = "*"
    · simp [hc]
    · rw [if_neg hc, ← columnType_ok, bind_eq_ok, exists_and_right]
      simp [hc]

theorem checkOrder_ok {order : List SortKey} :
    checkOrder types order = .ok () ↔ ∀ k ∈ order, (types.get? k.column).isSome := by
  induction order with
  | nil => simp [checkOrder]
  | cons k order ih =>
    rw [checkOrder, List.forall_mem_cons, ← ih, ← columnType_ok, bind_eq_ok, exists_and_right]

end Statement

namespace Request

variable {table : String} {types : ColumnTypes}

theorem known_of_statement {r : Request} {s : Statement} (h : r.statement table types = .ok s) :
    Identifier.isPlain table ∧ r.Known types := by
  cases r with
  | insert fields =>
    rw [statement, Statement.insert] at h
    obtain ⟨bound, hb, -⟩ := bind_eq_ok.1 h
    exact Statement.known_of_checkFields hb
  | update id fields =>
    rw [statement, Statement.update] at h
    obtain ⟨bound, hb, -⟩ := bind_eq_ok.1 h
    exact Statement.known_of_checkFields hb
  | get id =>
    rw [statement, Statement.selectById] at h
    obtain ⟨⟨⟩, ht, -⟩ := bind_eq_ok.1 h
    exact ⟨Statement.checkTable_ok.1 ht, trivial⟩
  | delete id =>
    rw [statement, Statement.delete] at h
    obtain ⟨⟨⟩, ht, -⟩ := bind_eq_ok.1 h
    exact ⟨Statement.checkTable_ok.1 ht, trivial⟩
  | list request =>
    rw [statement, Statement.list] at h
    obtain ⟨⟨⟩, ht, h⟩ := bind_eq_ok.1 h
    obtain ⟨⟨⟩, hs, h⟩ := bind_eq_ok.1 h
    obtain ⟨clause, hc, h⟩ := bind_eq_ok.1 h
    obtain ⟨⟨⟩, ho, -⟩ := bind_eq_ok.1 h
    exact ⟨Statement.checkTable_ok.1 ht, Statement.checkSelected_ok.1 hs,
      Filter.known_of_clause hc, Statement.checkOrder_ok.1 ho⟩

/-- A request for known columns of a plain table has the statement that it says. -/
theorem statement_known {r : Request} (ht : Identifier.isPlain table) (hk : r.Known types) :
    r.statement table types = .ok (r.written table types) ∧ Sturdy [] (r.pieces table) := by
  have hsql {s : String} {ps : List Piece} (h : Statement.MakesUp s ps) :
      s = String.ofList (pieceText ps) := by
    rw [← h.text, String.ofList_toList]
  cases r with
  | insert fields =>
    have hm := Statement.insert_text (fields.map Prod.fst) ht (by simpa using hk.1)
    refine ⟨?_, hm.sturdy⟩
    have hs := hsql hm
    rw [List.map_map, List.map_map] at hs
    rw [statement, Statement.insert, Statement.checkFields_known ht hk]
    simp only [written, pieces, bindings, ← hs, List.map_map, List.filterMap_map]
    rfl
  | update id fields =>
    have hm := Statement.update_text (fields.map Prod.fst) ht (by simpa using hk.1)
    refine ⟨?_, hm.sturdy⟩
    have hs := hsql hm
    rw [List.map_map] at hs
    rw [statement, Statement.update, Statement.checkFields_known ht hk, Statement.idText_eq]
    simp only [written, pieces, bindings, ← hs, List.map_append, List.filterMap_append,
      List.map_map, List.filterMap_map]
    rfl
  | get id =>
    have hm := Statement.selectById_text ht
    refine ⟨?_, hm.sturdy⟩
    rw [statement, Statement.selectById, Statement.checkTable_ok.2 ht, Statement.idText_eq]
    simp only [written, pieces, ← hsql hm]
    rfl
  | delete id =>
    have hm := Statement.delete_text ht
    refine ⟨?_, hm.sturdy⟩
    rw [statement, Statement.delete, Statement.checkTable_ok.2 ht, Statement.idText_eq]
    simp only [written, pieces, ← hsql hm]
    rfl
  | list request =>
    obtain ⟨hselect, hfilter, horder⟩ := hk
    have hclause := Filter.clause_whole types request.filter hfilter
    have hm := Statement.list_text request ht hclause
    refine ⟨?_, hm.sturdy⟩
    rw [statement, Statement.list, Statement.checkTable_ok.2 ht,
      Statement.checkSelected_ok.2 hselect, hclause, Statement.checkOrder_ok.2 horder]
    simp only [written, pieces, bindings, ← hsql hm, List.map_map, List.filterMap_map]
    rfl

end Request
end Tabular
