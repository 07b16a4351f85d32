import Tabular.Proofs.StatementRequest

/-!
# Unknown columns

A request on a plain table has the statement that it says, unless there is nothing to write
or a column is unknown. Then the first one that is unknown is what is complained of.
-/

set_option autoImplicit false

namespace Tabular

def firstUnknown? (types : ColumnTypes) (names : List String) : Option String :=
  names.find? fun n => (types.get? n).isNone

def Needs {α : Type} (types : ColumnTypes) (names : List String) (x : Except AccessError α) :
    Prop :=
  x.map (fun _ => ()) =
    match firstUnknown? types names with
    | some c => .error (.unknownColumn c)
    | none => .ok ()

section

variable {α β : Type} {types : ColumnTypes} {names more : List String} {x : Except AccessError α}

theorem needs_ok (a : α) : Needs types [] (.ok a) := rfl

theorem needs_columnType (c : String) : Needs types [c] (Statement.columnType types c) := by
  rw [Needs, firstUnknown?, Statement.columnType, List.find?_singleton]
  cases types.get? c <;> rfl

theorem Needs.bind {f : α → Except AccessError β} (h : Needs types names x)
    (hf : ∀ a, Needs types more (f a)) : Needs types (names ++ more) (x >>= f) := by
  rw [Needs] at h ⊢
  rw [firstUnknown?] at h ⊢
  rw [List.find?_append]
  cases hn : names.find? fun n => (types.get? n).isNone with
  | some c =>
    rw [hn] at h
    cases x with
    | error e => exact h
    | ok a => cases h
  | none =>
    rw [hn] at h
    cases x with
    | error e => cases h
    | ok a => exact hf a

theorem Needs.map (h : Needs types names x) (f : α → β) : Needs types names (x.map f) := by
  cases x <;> exact h

theorem Needs.done (h : Needs types names x) (f : α → β) :
    Needs types names (x >>= fun a => .ok (f a)) := by
  cases x <;> exact h

theorem needs_fieldTypes (fields : List Field) :
    Needs types (fields.map Prod.fst) (Statement.fieldTypes types fields) := by
  induction fields with
  | nil => exact needs_ok _
  | cons f fields ih =>
    apply (needs_columnType f.1).bind
    intro type
    exact ih.done _

theorem needs_checkSelected (select : List String) :
    Needs types (select.filter fun c => c ≠ "*") (Statement.checkSelected types select) := by
  induction select with
  | nil => exact needs_ok _
  | cons c select ih =>
    rw [Statement.checkSelected]
    by_cases hc : c = "*"
    · rw [if_pos hc, List.filter_cons_of_neg (by simp [hc])]
      exact ih
    · rw [if_neg hc, List.filter_cons_of_pos (by simp [hc])]
      exact (needs_columnType c).bind fun _ => ih

theorem needs_checkOrder (order : List SortKey) :
    Needs types (order.map SortKey.column) (Statement.checkOrder types order) := by
  induction order with
  | nil => exact needs_ok _
  | cons k order ih => exact (needs_columnType k.column).bind fun _ => ih

end

namespace Filter

variable {types : ColumnTypes}

theorem needs_condition (c : Condition) : Needs types [c.field] (conditionFragment types c) := by
  rw [Needs, firstUnknown?, conditionFragment, List.find?_singleton]
  cases types.get? c.field <;> rfl

mutual

theorem needs_fragment (inherited : Combinator) :
    (f : Filter) → Needs types (f.leaves.map Condition.field) (f.fragment types inherited)
  | .leaf c => needs_condition c
  | .group explicit entries => (needs_entries (explicit.getD inherited) false entries).map _

theorem needs_entries (active : Combinator) (started : Bool) :
    (entries : Entries) →
      Needs types (entries.leaves.map Condition.field) (entries.fragment types active started)
  | .nil => needs_ok _
  | .logic rebound rest => needs_entries rebound started rest
  | .node first rest => by
    rw [Entries.leaves, List.map_append, Entries.fragment]
    apply (needs_fragment active first).bind
    intro part
    by_cases hterms : part.terms = 0
    · rw [if_pos hterms]
      exact needs_entries active started rest
    · rw [if_neg hterms]
      exact (needs_entries active true rest).done _

end

theorem needs_clause (f : Filter) :
    Needs types (f.leaves.map Condition.field) (f.clause types) := by
  cases f with
  | leaf c => exact (needs_condition c).map _
  | group explicit entries => exact (needs_entries (explicit.getD .and) false entries).map _

end Filter

namespace Request

variable {table : String} {types : ColumnTypes}

def lookups : Request → List String
  | insert fields | update _ fields => fields.map Prod.fst
  | get _ | delete _ => []
  | list request =>
    (request.select.filter fun c => c ≠ "*") ++
      (request.filter.leaves.map Condition.field ++ request.order.map SortKey.column)

def isVoid : Request → Bool
  | insert fields | update _ fields => fields.isEmpty
  | get _ | delete _ | list _ => false

def complaint (types : ColumnTypes) (r : Request) : Option AccessError :=
  if r.isVoid then some (.invalidInput .noFields)
  else (firstUnknown? types r.lookups).map .unknownColumn

theorem needs_statement (ht : Identifier.isPlain table) {r : Request} (hr : r.isVoid = false) :
    Needs types r.lookups (r.statement table types) := by
  have hplain : Statement.checkTable table = .ok () := Statement.checkTable_ok.2 ht
  cases r with
  | insert fields =>
    have hfields :
        Statement.checkFields table fields types = Statement.fieldTypes types fields := by
      rw [Statement.checkFields, hplain, show fields.isEmpty = false from hr]
      rfl
    rw [statement, Statement.insert, hfields]
    exact (needs_fieldTypes fields).done _
  | update id fields =>
    have hfields :
        Statement.checkFields table fields types = Statement.fieldTypes types fields := by
      rw [Statement.checkFields, hplain, show fields.isEmpty = false from hr]
      rfl
    rw [statement, Statement.update, hfields]
    exact (needs_fieldTypes fields).done _
  | get id =>
    rw [statement, Statement.selectById, hplain]
    exact needs_ok _
  | delete id =>
    rw [statement, Statement.delete, hplain]
    exact needs_ok _
  | list request =>
    rw [statement, Statement.list, hplain]
    apply (needs_checkSelected request.select).bind
    intro _
    apply (Filter.needs_clause request.filter).bind
    intro clause
    exact (needs_checkOrder request.order).done _

theorem statement_void (ht : Identifier.isPlain table) {r : Request} (hr : r.isVoid = true) :
    r.statement table types = .error (.invalidInput .noFields) := by
  have hfields : ∀ fields : List Field, fields.isEmpty = true →
      Statement.checkFields table fields types = .error (.invalidInput .noFields) := by
    intro fields hempty
    rw [Statement.checkFields, Statement.checkTable_ok.2 ht, hempty]
    rfl
  cases r with
  | insert fields =>
    rw [statement, Statement.insert, hfields fields hr]
    rfl
  | update id fields =>
    rw [statement, Statement.update, hfields fields hr]
    rfl
  | get | delete | list => cases hr

/-- A request on a plain table has the statement that it says, unless something is wrong with
its columns. -/
theorem statement_eq (ht : Identifier.isPlain table) (r : Request) :
    r.statement table types =
      match r.complaint types with
      | some e => .error e
      | none => .ok (r.written table types) := by
  rw [complaint]
  cases hr : r.isVoid with
  | true => exact statement_void ht hr
  | false =>
    have hneeds : Needs types r.lookups (r.statement table types) := needs_statement ht hr
    rw [Needs] at hneeds
    cases hn : firstUnknown? types r.lookups with
    | some c =>
      rw [hn] at hneeds
      cases hs : r.statement table types with
      | ok s =>
        rw [hs] at hneeds
        cases hneeds
      | error e =>
        rw [hs] at hneeds
        obtain rfl := Except.error.inj hneeds
        rfl
    | none =>
      rw [hn] at hneeds
      cases hs : r.statement table types with
      | error e =>
        rw [hs] at hneeds
        cases hneeds
      | ok s =>
        have hknown := (known_of_statement hs).2
        rw [← hs, (statement_known ht hknown).1]
        rfl

theorem statement_irregular (ht : Identifier.isPlain table = false) (r : Request) :
    r.statement table types = .error (.invalidInput (.tableName table)) := by
  have hcheck : Statement.checkTable table = .error (.invalidInput (.tableName table)) := by
    rw [Statement.checkTable, ht]
    rfl
  cases r with
  | insert fields =>
    rw [statement, Statement.insert, Statement.checkFields, hcheck]
    rfl
  | update id fields =>
    rw [statement, Statement.update, Statement.checkFields, hcheck]
    rfl
  | get id =>
    rw [statement, Statement.selectById, hcheck]
    rfl
  | delete id =>
    rw [statement, Statement.delete, hcheck]
    rfl
  | list request =>
    rw [statement, Statement.list, hcheck]
    rfl

end Request

end Tabular
