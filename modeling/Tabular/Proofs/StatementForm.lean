import Tabular.Proofs.StatementRequest

/-!
# The form of a statement

Requests that differ in their values only have the same statement but for what is bound:
its text and its types come from the columns alone, and of a value in a filter nothing
reaches the text but which of the six operators stands in it.
-/

set_option autoImplicit false

namespace Tabular

section

variable {ε α β γ δ : Type} {x y : Except ε α} {p : α → γ}

/-- Steps that agree, followed by steps that agree wherever the first ones do. -/
theorem map_bind_congr {k l : α → Except ε β} {q : β → δ} (h : x.map p = y.map p)
    (hk : ∀ a b, p a = p b → (k a).map q = (l b).map q) :
    (x >>= k).map q = (y >>= l).map q := by
  cases x with
  | error e =>
    cases y with
    | error e' =>
      obtain rfl := Except.error.inj h
      rfl
    | ok b => cases h
  | ok a =>
    cases y with
    | error e => cases h
    | ok b => exact hk a b (Except.ok.inj h)

/-- The same step, followed by steps that agree. -/
theorem map_bind_same (x : Except ε α) {k l : α → Except ε β} {q : β → δ}
    (hk : ∀ a, (k a).map q = (l a).map q) : (x >>= k).map q = (x >>= l).map q := by
  cases x with
  | error e => rfl
  | ok a => exact hk a

theorem map_map_congr {f : α → β} {q : β → δ} (h : x.map p = y.map p)
    (hf : ∀ a b, p a = p b → q (f a) = q (f b)) : (x.map f).map q = (y.map f).map q := by
  have hbind (z : Except ε α) : z.map f = z >>= fun a => .ok (f a) := by cases z <;> rfl
  rw [hbind, hbind]
  exact map_bind_congr h fun a b hab => congrArg Except.ok (hf a b hab)

end

structure Form where
  sql : String
  types : List ColumnType
deriving DecidableEq

namespace Form

def filled (values : List String) (f : Form) : Statement := ⟨f.sql, values, f.types⟩

end Form

def Statement.form (s : Statement) : Form := ⟨s.sql, s.types⟩

def Clause.form (c : Clause) : Form := ⟨c.sql, c.types⟩

namespace Filter

mutual

/-- Filters that differ in the values of their leaves only, each leaf having the same operator. -/
inductive Alike : Filter → Filter → Prop
  | leaf {c d : Condition} (field : c.field = d.field)
      (operator : (Operator.extract c.value).1 = (Operator.extract d.value).1) :
      Alike (.leaf c) (.leaf d)
  | group (explicit : Option Combinator) {es fs : Entries} (h : Entries.Alike es fs) :
      Alike (.group explicit es) (.group explicit fs)

inductive Entries.Alike : Entries → Entries → Prop
  | nil : Entries.Alike .nil .nil
  | node {f g : Filter} {es fs : Entries} (first : Filter.Alike f g)
      (rest : Entries.Alike es fs) : Entries.Alike (.node f es) (.node g fs)
  | logic (rebound : Combinator) {es fs : Entries} (rest : Entries.Alike es fs) :
      Entries.Alike (.logic rebound es) (.logic rebound fs)

end

namespace Fragment

def form (x : Fragment) : Form × Nat := (x.clause.form, x.terms)

variable {a b c d : Fragment}

theorem form_eq_iff : a.form = b.form ↔
    a.clause.sql = b.clause.sql ∧ a.clause.types = b.clause.types ∧ a.terms = b.terms := by
  simp [form, Clause.form, and_assoc]

theorem form_before (separator : String) (h : a.form = b.form) (hrest : c.form = d.form) :
    (a.before separator c).form = (b.before separator d).form := by
  rw [form_eq_iff] at h hrest ⊢
  simp [before, h, hrest]

theorem form_enclosed (h : a.form = b.form) : a.enclosed.form = b.enclosed.form := by
  have hparts := form_eq_iff.1 h
  simp only [enclosed, hparts.2.2]
  split
  · exact h
  · simp [form_eq_iff, hparts]

end Fragment

theorem conditionFragment_form (types : ColumnTypes) {c d : Condition} (field : c.field = d.field)
    (operator : (Operator.extract c.value).1 = (Operator.extract d.value).1) :
    (conditionFragment types c).map Fragment.form =
      (conditionFragment types d).map Fragment.form := by
  simp only [conditionFragment, field]
  cases types.get? d.field with
  | none => rfl
  | some type => simp [Except.map, Fragment.form_eq_iff, operator]

mutual

theorem fragment_form (types : ColumnTypes) (inherited : Combinator) (f : Filter) {g : Filter}
    (h : f.Alike g) :
    (f.fragment types inherited).map Fragment.form =
      (g.fragment types inherited).map Fragment.form :=
  match f, h with
  | .leaf _, .leaf field operator => conditionFragment_form types field operator
  | .group _ es, .group explicit h => by
    rw [fragment, fragment]
    exact map_map_congr (entries_form types (explicit.getD inherited) false es h)
      fun _ _ => Fragment.form_enclosed

theorem entries_form (types : ColumnTypes) (active : Combinator) (started : Bool) (es : Entries)
    {fs : Entries} (h : es.Alike fs) :
    (es.fragment types active started).map Fragment.form =
      (fs.fragment types active started).map Fragment.form :=
  match es, h with
  | .nil, .nil => rfl
  | .logic _ es, .logic rebound rest => entries_form types rebound started es rest
  | .node f es, .node first rest => by
    rw [Entries.fragment, Entries.fragment]
    refine map_bind_congr (fragment_form types active f first) fun a b hab => ?_
    rw [(Fragment.form_eq_iff.1 hab).2.2]
    split
    · exact entries_form types active started es rest
    · refine map_bind_congr (entries_form types active true es rest) fun c d hcd => ?_
      exact congrArg Except.ok (Fragment.form_before _ hab hcd)

end

theorem clause_form (types : ColumnTypes) {f g : Filter} (h : f.Alike g) :
    (f.clause types).map Clause.form = (g.clause types).map Clause.form := by
  have hform : ∀ a b : Fragment, a.form = b.form → a.clause.form = b.clause.form :=
    fun a b hab => congrArg Prod.fst hab
  cases h with
  | leaf field operator => exact map_map_congr (conditionFragment_form types field operator) hform
  | group explicit h =>
    exact map_map_congr (entries_form types (explicit.getD .and) false _ h) hform

end Filter

namespace Statement

variable {fields others : List Field}

theorem fieldTypes_congr (types : ColumnTypes) (h : fields.map Prod.fst = others.map Prod.fst) :
    fieldTypes types fields = fieldTypes types others := by
  induction fields generalizing others with
  | nil =>
    obtain rfl := List.map_eq_nil_iff.1 h.symm
    rfl
  | cons f fields ih =>
    cases others with
    | nil => cases h
    | cons g others =>
      obtain ⟨hcolumn, hrest⟩ := List.cons.inj h
      simp only [fieldTypes, hcolumn, ih hrest]

theorem checkFields_congr (table : String) (types : ColumnTypes)
    (h : fields.map Prod.fst = others.map Prod.fst) :
    checkFields table fields types = checkFields table others types := by
  have hempty : fields.isEmpty = others.isEmpty := by
    have hlength := congrArg List.isEmpty h
    rwa [List.isEmpty_map, List.isEmpty_map] at hlength
  simp only [checkFields, hempty, fieldTypes_congr types h]

theorem whereText_form {c d : Clause} (h : c.form = d.form) : whereText c = whereText d := by
  have hsql : c.sql = d.sql := congrArg Form.sql h
  rw [whereText, whereText, Clause.isEmpty, Clause.isEmpty, hsql]

end Statement

namespace Request

/-- Requests that differ in their values only: in those of the fields, in the number of the
row, or in the values of a filter. -/
inductive Alike : Request → Request → Prop
  | insert {fields others : List Field} (columns : fields.map Prod.fst = others.map Prod.fst) :
      Alike (.insert fields) (.insert others)
  | update (id other : Int64) {fields others : List Field}
      (columns : fields.map Prod.fst = others.map Prod.fst) :
      Alike (.update id fields) (.update other others)
  | get (id other : Int64) : Alike (.get id) (.get other)
  | delete (id other : Int64) : Alike (.delete id) (.delete other)
  | list (order : List SortKey) (select : List String) (limit : Nat) {f g : Filter}
      (filter : f.Alike g) :
      Alike (.list ⟨order, f, select, limit⟩) (.list ⟨order, g, select, limit⟩)

def operands : Request → List String
  | insert fields => fields.map Prod.snd
  | update id fields => fields.map Prod.snd ++ [toString id.toInt]
  | get id | delete id => [toString id.toInt]
  | list request => request.filter.leaves.map fun c => (Operator.extract c.value).2

theorem operands_bindings (types : ColumnTypes) (r : Request) :
    (r.bindings types).map Prod.fst = r.operands := by
  cases r <;> simp [bindings, operands, idBinding, Field.binding, Condition.binding]

/-- The statement of a request is its form with its own values filled in. -/
theorem statement_filled (table : String) (types : ColumnTypes) (r : Request) :
    r.statement table types =
      ((r.statement table types).map Statement.form).map (Form.filled r.operands) := by
  cases h : r.statement table types with
  | error e => rfl
  | ok s =>
    obtain ⟨ht, hk⟩ := known_of_statement h
    obtain rfl := Except.ok.inj (h.symm.trans (statement_known ht hk).1)
    have hvalues : (r.written table types).values = r.operands := operands_bindings types r
    rw [← hvalues]
    rfl

theorem map_columns {α : Type} {fields others : List Field}
    (h : fields.map Prod.fst = others.map Prod.fst) (g : String → α) :
    (fields.map fun f => g f.1) = others.map fun f => g f.1 := by
  have hmap := congrArg (List.map g) h
  rwa [List.map_map, List.map_map] at hmap

theorem statement_form {r r' : Request} (h : r.Alike r') (table : String) (types : ColumnTypes) :
    (r.statement table types).map Statement.form =
      (r'.statement table types).map Statement.form := by
  cases h with
  | insert columns =>
    simp only [statement, Statement.insert, Statement.checkFields_congr table types columns,
      map_columns columns Identifier.quote, map_columns columns fun _ => "?"]
    apply map_bind_same
    intro bound
    simp only [Except.map, Statement.form]
  | update id other columns =>
    simp only [statement, Statement.update, Statement.checkFields_congr table types columns,
      map_columns columns fun c => c ++ "=?"]
    apply map_bind_same
    intro bound
    simp only [Except.map, Statement.form]
  | get id other =>
    simp only [statement, Statement.selectById]
    apply map_bind_same
    intro _
    simp only [Except.map, Statement.form]
  | delete id other =>
    simp only [statement, Statement.delete]
    apply map_bind_same
    intro _
    simp only [Except.map, Statement.form]
  | list order select limit filter =>
    simp only [statement, Statement.list]
    apply map_bind_same
    intro _
    apply map_bind_same
    intro _
    apply map_bind_congr (Filter.clause_form types filter)
    intro c d hcd
    apply map_bind_same
    intro _
    have htypes : c.types = d.types := congrArg Form.types hcd
    simp only [Except.map, Statement.form, Statement.whereText_form hcd, htypes]

/-- Values stay out of the text: whatever the values of a request are, there is one form, or
one error, that it has in common with all requests of other values, and its own values are
bound in it. -/
theorem values_stay_out {r r' : Request} (h : r.Alike r') (table : String) (types : ColumnTypes) :
    ∃ form : Except AccessError Form,
      r.statement table types = form.map (Form.filled r.operands) ∧
        r'.statement table types = form.map (Form.filled r'.operands) := by
  refine ⟨(r.statement table types).map Statement.form, statement_filled table types r, ?_⟩
  rw [statement_form h]
  exact statement_filled table types r'

def adultsNamed (name age : String) : Request :=
  .list ⟨[], .group none (.node (.leaf ⟨"name", name⟩) (.node (.group (some .or)
    (.node (.leaf ⟨"age", age⟩) .nil)) .nil)), ["name"], 10⟩

theorem values_stay_out_hostile :
    let types : ColumnTypes := ⟨[("name", .string), ("age", .integer)]⟩
    let plain := adultsNamed "Ada" ">=18"
    let hostile := adultsNamed "x' OR 1=1; DROP TABLE people; --" "0 OR ?>=?>="
    plain.Alike hostile ∧ ∃ form : Form,
      form.sql = "SELECT name FROM people WHERE name=? AND age>=? LIMIT 10" ∧
      form.types = [.string, .integer] ∧
      plain.statement "people" types = .ok (form.filled ["Ada", "18"]) ∧
      hostile.statement "people" types =
        .ok (form.filled ["x' OR 1=1; DROP TABLE people; --", "0 OR ??"]) := by
  intro types plain hostile
  have hname : (Operator.extract "Ada").1 =
      (Operator.extract "x' OR 1=1; DROP TABLE people; --").1 := by decide
  have hage : (Operator.extract ">=18").1 = (Operator.extract "0 OR ?>=?>=").1 := by decide
  have halike : plain.Alike hostile :=
    .list [] ["name"] 10 (.group none (.node (.leaf rfl hname)
      (.node (.group (some .or) (.node (.leaf rfl hage) .nil)) .nil)))
  obtain ⟨form, hplain, hhostile⟩ := values_stay_out halike "people" types
  have hform : (plain.statement "people" types).map Statement.form =
      .ok ⟨"SELECT name FROM people WHERE name=? AND age>=? LIMIT 10", [.string, .integer]⟩ := by
    rfl
  rw [hplain] at hform
  cases form with
  | error e => cases hform
  | ok form =>
    obtain rfl : form = _ := Except.ok.inj hform
    exact ⟨halike, _, rfl, rfl, hplain, hhostile⟩

end Request
end Tabular
