import Tabular.Proofs.RequestRuns

/-!
# The bindings of parameters

A statement has a value and a type for each parameter in its text. What a parameter
stands for is what is bound to it: the value and the type of the field or the condition
in whose place it stands, or else the number of the row. So no store ever finds too few
values or too many.
-/

set_option autoImplicit false

namespace Tabular

open Sql

inductive Slot where
  | alone
  | compared (column : String) (op : Operator)
deriving DecidableEq

namespace Slot

def tokens (gap : List Char) : Slot → List Token
  | alone => [.placeholder gap]
  | compared column op => [.word gap column, .symbol [] op.sql, .placeholder []]

def At (ts : List Token) (k : Nat) (slot : Slot) : Prop :=
  ∃ before gap after, ts = before ++ slot.tokens gap ++ after ∧ parameterCount before = k

end Slot

inductive Slotted : List Piece → List Slot → Prop
  | nil : Slotted [] []
  | other {p : Piece} {ps : List Piece} {slots : List Slot} (h : isParameter p.toToken = false)
      (rest : Slotted ps slots) : Slotted (p :: ps) slots
  | alone {ps : List Piece} {slots : List Slot} (gap : List Char) (rest : Slotted ps slots) :
      Slotted (.token (.placeholder gap) :: ps) (.alone :: slots)
  | compared {ps : List Piece} {slots : List Slot} (excluded : List String) (gap : List Char)
      (column : String) (op : Operator) (rest : Slotted ps slots) :
      Slotted (.column excluded gap column :: .token (.symbol [] op.sql) ::
        .token (.placeholder []) :: ps) (.compared column op :: slots)

namespace Slotted

variable {ps qs : List Piece} {slots others : List Slot}

theorem append (hp : Slotted ps slots) (hq : Slotted qs others) :
    Slotted (ps ++ qs) (slots ++ others) := by
  induction hp with
  | nil => exact hq
  | other h _ ih => exact .other h ih
  | alone gap _ ih => exact .alone gap ih
  | compared excluded gap column op _ ih => exact .compared excluded gap column op ih

theorem picks :
    Picks Slotted ⟨fun _ => [], fun _ => [], fun n op => [.compared n op], [.alone]⟩ where
  nil := .nil
  append := append
  word _ _ := .other rfl .nil
  mark _ _ _ := .other rfl .nil
  integer _ _ := .other rfl .nil
  quoted _ _ := .other rfl .nil
  column _ _ _ := .other rfl .nil
  compared excluded gap n op := .compared excluded gap n op .nil
  parameter gap := .alone gap .nil

theorem at_append (us : List Token) {ts : List Token} {k : Nat} {slot : Slot} (h : slot.At ts k) :
    slot.At (us ++ ts) (parameterCount us + k) := by
  obtain ⟨before, gap, after, rfl, rfl⟩ := h
  exact ⟨us ++ before, gap, after, by simp, List.countP_append⟩

/-- Each slot is that of the parameter with its number. -/
theorem slot_at (h : Slotted ps slots) {k : Nat} {slot : Slot} (hk : slots[k]? = some slot) :
    slot.At (ps.map Piece.toToken) k := by
  induction h generalizing k with
  | nil => simp at hk
  | @other p ps slots h _ ih =>
    have hcount : parameterCount [p.toToken] = 0 := List.countP_eq_zero.2 (by simp [h])
    have hat := at_append [p.toToken] (ih hk)
    rwa [hcount, Nat.zero_add] at hat
  | @alone ps slots gap _ ih =>
    cases k with
    | zero =>
      obtain rfl := Option.some.inj hk
      exact ⟨[], gap, ps.map Piece.toToken, rfl, rfl⟩
    | succ k =>
      have hat := at_append [.placeholder gap] (ih hk)
      rwa [Nat.add_comm] at hat
  | @compared ps slots excluded gap column op _ ih =>
    cases k with
    | zero =>
      obtain rfl := Option.some.inj hk
      exact ⟨[], gap, ps.map Piece.toToken, rfl, rfl⟩
    | succ k =>
      have hat := at_append ((Slot.compared column op).tokens gap) (ih hk)
      rwa [Nat.add_comm] at hat

end Slotted

def quotedNames (ts : List Token) : List String := ts.flatMap fun t =>
  match t.lexeme with
  | .name s _ => [s]
  | _ => []

theorem picks_quoted : Picks (fun ps bs => quotedNames (ps.map Piece.toToken) = bs)
    ⟨fun n => [n], fun _ => [], fun _ _ => [], []⟩ where
  nil := rfl
  append hp hq := by
    rw [← hp, ← hq, quotedNames, List.map_append, List.flatMap_append]
    rfl
  word _ _ := rfl
  mark _ _ _ := rfl
  integer _ _ := rfl
  quoted _ _ := rfl
  column _ _ _ := rfl
  compared _ _ _ _ := rfl
  parameter _ := rfl

namespace Request

variable {table : String} {types : ColumnTypes} {r : Request}

def arity : Request → Nat
  | insert fields => fields.length
  | update _ fields => fields.length + 1
  | get _ | delete _ => 1
  | list request => request.filter.leafCount

def listed : Request → List String
  | insert fields => fields.map Prod.fst
  | update .. | get _ | delete _ | list _ => []

def slots : Request → List Slot
  | insert fields => fields.map fun _ => .alone
  | update _ fields => fields.map (fun f => .compared f.1 .eq) ++ [.compared "id" .eq]
  | get _ | delete _ => [.compared "id" .eq]
  | list request =>
    request.filter.leaves.map fun c => .compared c.field (Operator.extract c.value).1

/-- In the text of a statement there are as many parameters as it has values and types, and
what is bound to each belongs where it stands. -/
structure Aligned (columns : ColumnTypes) (r : Request) (s : Statement) : Prop where
  count : parameterCount (tokensOf s.sql) = r.arity
  values : s.values.length = r.arity
  types : s.types.length = r.arity
  listed : quotedNames (tokensOf s.sql) = r.listed
  bound : ∀ k < r.arity, ∃ slot binding,
    r.slots[k]? = some slot ∧ (r.bindings columns)[k]? = some binding ∧
      slot.At (tokensOf s.sql) k ∧ s.values[k]? = some binding.1 ∧ s.types[k]? = binding.2

theorem flatMap_none {α β : Type} (as : List α) : as.flatMap (fun _ => ([] : List β)) = [] :=
  List.flatMap_eq_nil_iff.2 fun _ _ => rfl

theorem slots_picked (r : Request) :
    r.picked ⟨fun _ => [], fun _ => [], fun n op => [.compared n op], [.alone]⟩ = r.slots := by
  cases r with
  | insert fields =>
    rw [picked, flatMap_none, slots, List.map_eq_flatMap]
    rfl
  | update id fields => rw [picked, slots, List.map_eq_flatMap]
  | get id | delete id => rfl
  | list request =>
    rw [picked, flatMap_none, flatMap_none, List.append_nil, slots, List.map_eq_flatMap]
    rfl

theorem listed_picked (r : Request) :
    r.picked ⟨fun n => [n], fun _ => [], fun _ _ => [], []⟩ = r.listed := by
  cases r with
  | insert fields =>
    rw [picked, flatMap_none, List.append_nil, listed, List.map_eq_flatMap]
  | update id fields => rw [picked, flatMap_none, listed, List.append_nil]
  | get id | delete id => rfl
  | list request =>
    rw [picked, flatMap_none, flatMap_none, List.append_nil, listed]
    exact flatMap_none request.filter.leaves

theorem length_bindings (types : ColumnTypes) (r : Request) :
    (r.bindings types).length = r.arity := by
  cases r <;> simp [bindings, arity, Filter.leafCount]

theorem length_slots (r : Request) : r.slots.length = r.arity := by
  cases r <;> simp [slots, arity, Filter.leafCount]

theorem typed_bindings (hk : r.Known types) : ∀ b ∈ r.bindings types, b.2.isSome := by
  cases r with
  | insert fields =>
    intro b hb
    obtain ⟨f, hf, rfl⟩ := List.mem_map.1 hb
    exact hk.2 f hf
  | update id fields =>
    refine List.forall_mem_append.2 ⟨fun b hb => ?_, by simp [idBinding]⟩
    obtain ⟨f, hf, rfl⟩ := List.mem_map.1 hb
    exact hk.2 f hf
  | get id | delete id => simp [bindings, idBinding]
  | list request =>
    intro b hb
    obtain ⟨c, hc, rfl⟩ := List.mem_map.1 hb
    exact hk.2.1 c hc

theorem filterMap_some {α β : Type} {g : α → Option β} {as : List α}
    (h : ∀ a ∈ as, (g a).isSome) : (as.filterMap g).map some = as.map g := by
  induction as with
  | nil => rfl
  | cons a as ih =>
    obtain ⟨ha, has⟩ := List.forall_mem_cons.1 h
    obtain ⟨b, hb⟩ := Option.isSome_iff_exists.1 ha
    rw [List.filterMap_cons_some hb, List.map_cons, List.map_cons, ih has, hb]

theorem aligned_written (ht : Identifier.isPlain table) (hk : r.Known types)
    (ho : r.Ordinary types) : r.Aligned types (r.written table types) := by
  have htokens := tokensOf_written ht hk ho
  have htypes := filterMap_some (typed_bindings hk)
  have hslots : Slotted (r.pieces table) r.slots := r.slots_picked ▸ Slotted.picks.request table r
  refine ⟨?_, ?_, ?_, ?_, fun k hlt => ?_⟩
  · rw [htokens, parameterCount, List.countP_append, ← length_bindings types r]
    exact parameterCount_pieces table types r
  · rw [written, List.length_map, length_bindings]
  · have hlength := congrArg List.length htypes
    rwa [List.length_map, List.length_map, length_bindings] at hlength
  · rw [htokens, quotedNames, List.flatMap_append, ← listed_picked]
    exact (List.append_nil _).trans (picks_quoted.request table r)
  · have hs : k < r.slots.length := r.length_slots.symm ▸ hlt
    have hb : k < (r.bindings types).length := (length_bindings types r).symm ▸ hlt
    refine ⟨r.slots[k], (r.bindings types)[k], List.getElem?_eq_getElem hs,
      List.getElem?_eq_getElem hb, ?_, ?_, ?_⟩
    · rw [htokens]
      obtain ⟨before, gap, after, hat, hcount⟩ := hslots.slot_at (List.getElem?_eq_getElem hs)
      exact ⟨before, gap, after ++ [.finish], by rw [hat, List.append_assoc], hcount⟩
    · rw [written, List.getElem?_map, List.getElem?_eq_getElem hb]
      rfl
    · have htype := congrArg (·[k]?) htypes
      simp only [List.getElem?_map, List.getElem?_eq_getElem hb, Option.map_some] at htype
      obtain ⟨type, hget, heq⟩ := Option.map_eq_some_iff.1 htype
      exact hget.trans heq

/-- Each parameter of a statement is bound to what it stands for, and the statement is run
or rejected, but never for the number of its bindings. -/
theorem parameters_aligned {s : Statement} (h : r.statement table types = .ok s)
    (ho : r.Ordinary types) :
    r.Aligned types s ∧ ∀ store : Store, store.Reachable → ∀ parameters values bound,
      (store.run s).1 ≠ .error (.bindArity parameters values bound) := by
  obtain ⟨ht, hk⟩ := known_of_statement h
  obtain rfl := Except.ok.inj (h.symm.trans (statement_known ht hk).1)
  have haligned := aligned_written ht hk ho
  have hsingle := single_written ht hk ho
  rw [length_bindings] at hsingle
  exact ⟨haligned, fun store hs => hsingle.run_arity hs haligned.values haligned.types⟩

def boundedListing : Request :=
  .list ⟨[⟨"age", .descending⟩], .group (some .or) (.node (.leaf ⟨"name", "!=Ada"⟩)
    (.node (.group (some .and) (.node (.leaf ⟨"age", ">=18"⟩) (.node (.leaf ⟨"age", "<65"⟩) .nil)))
      .nil)), [], 0⟩

theorem parameters_aligned_listing :
    let types : ColumnTypes := ⟨[("name", .string), ("age", .integer)]⟩
    let s : Statement :=
      ⟨"SELECT * FROM people WHERE name!=? OR (age>=? AND age<?) ORDER BY age DESC",
        ["Ada", "18", "65"], [.string, .integer, .integer]⟩
    let change : Request := .update (-7) [("age", "36"), ("name", "Ada")]
    let u : Statement :=
      ⟨"UPDATE people SET age=?, name=? WHERE id=?", ["36", "Ada", "-7"],
        [.integer, .string, .integer]⟩
    (boundedListing.statement "people" types = .ok s ∧ boundedListing.Ordinary types ∧
      boundedListing.Aligned types s ∧ ∀ store : Store, store.Reachable →
        ∀ parameters values bound,
          (store.run s).1 ≠ .error (.bindArity parameters values bound)) ∧
    change.statement "people" types = .ok u ∧ change.Aligned types u := by
  intro types s change u
  have hnames : ∀ n ∈ types.names, isOrdinary n := by decide
  have hs : boundedListing.statement "people" types = .ok s := by rfl
  have hu : change.statement "people" types = .ok u := by rfl
  exact ⟨⟨hs, hnames, parameters_aligned hs hnames⟩, hu, (parameters_aligned hu hnames).1⟩

end Request

end Tabular
