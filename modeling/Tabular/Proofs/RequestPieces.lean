import Tabular.Proofs.FilterPieces
import Tabular.Proofs.Reading
import Tabular.Proofs.StatementRequest

/-!
# What stands in the text of a request

The columns, comparisons and parameters in the text of a request stand in the order of
its fields, or of the leaves of its filter. There is a parameter for each binding, and
nothing that would end the statement early.
-/

set_option autoImplicit false

namespace Tabular

open Sql

structure Picking (β : Type) where
  quoted : String → List β
  column : String → List β
  compared : String → Operator → List β
  parameter : List β

section

variable {β : Type} {R : List Piece → List β → Prop} {k : Picking β}

def Picking.leaf (k : Picking β) (c : Condition) : List β :=
  k.compared c.field (Operator.extract c.value).1

def Request.picked (k : Picking β) : Request → List β
  | .insert fields => fields.flatMap (fun f => k.quoted f.1) ++ fields.flatMap fun _ => k.parameter
  | .update _ fields => fields.flatMap (fun f => k.compared f.1 .eq) ++ k.compared "id" .eq
  | .get _ | .delete _ => k.compared "id" .eq
  | .list request =>
    (request.select.filter (· ≠ "*")).flatMap k.column ++
      request.filter.leaves.flatMap k.leaf ++ request.order.flatMap fun key => k.column key.column

structure Picks (R : List Piece → List β → Prop) (k : Picking β) : Prop where
  nil : R [] []
  append : ∀ {ps qs : List Piece} {bs cs : List β}, R ps bs → R qs cs → R (ps ++ qs) (bs ++ cs)
  word : ∀ gap w, R [.token (.word gap w)] []
  mark : ∀ gap s, s ∈ ["*", "(", ")", ","] → R [.token (.symbol gap s)] []
  integer : ∀ gap raw, R [.token ⟨gap, raw, .integer⟩] []
  quoted : ∀ gap n, R [.token (.quoted gap n)] (k.quoted n)
  column : ∀ excluded gap n, R [.column excluded gap n] (k.column n)
  compared : ∀ excluded gap n op,
    R [.column excluded gap n, .token (.symbol [] (Operator.sql op)), .token (.placeholder [])]
      (k.compared n op)
  parameter : ∀ gap, R [.token (.placeholder gap)] k.parameter

theorem flatMap_filter_ne (g : String → List β) (s : String) (cs : List String) :
    (cs.filter (· ≠ s)).flatMap g = cs.flatMap fun c => if c = s then [] else g c := by
  induction cs with
  | nil => rfl
  | cons c cs ih =>
    by_cases hc : c = s
    · simp [hc, ← ih]
    · simp [hc, ← ih]

namespace Picks

theorem star (hp : Picks R k) (gap : List Char) : R [.token (.symbol gap "*")] [] :=
  hp.mark gap "*" (by decide)

theorem skip (hp : Picks R k) {p : Piece} {ps : List Piece} {bs : List β} (h : R [p] [])
    (hr : R ps bs) : R (p :: ps) bs := hp.append h hr

theorem words (hp : Picks R k) (gap : List Char) (w v : String) :
    R [.token (.word gap w), .token (.word space v)] [] :=
  hp.skip (hp.word gap w) (hp.word space v)

theorem gathers (hp : Picks R k) : Gathers R k.leaf where
  nil := hp.nil
  append := hp.append
  combinator q := hp.word space q.sql
  enclosing gap := ⟨hp.mark gap "(" (by decide), hp.mark [] ")" (by decide)⟩
  condition _ c excluded gap := hp.compared excluded gap c.field _

theorem separated (hp : Picks R k) {α : Type} {items : α → List Char → List Piece}
    {g : α → List β} (hi : ∀ a gap, R (items a gap) (g a)) (as : List α) (gap : List Char) :
    R (separated (as.map items) gap) (as.flatMap g) := by
  cases as with
  | nil => exact hp.nil
  | cons a as =>
    rw [List.map_cons, Sql.separated, List.flatMap_cons]
    refine hp.append (hi a gap) ?_
    induction as with
    | nil => exact hp.nil
    | cons b as ih =>
      rw [List.map_cons, List.flatMap_cons, List.flatMap_cons]
      exact hp.append (hp.skip (hp.mark [] "," (by decide)) (hi b space)) ih

theorem enclosed (hp : Picks R k) {f : List Char → List Piece} {bs : List β} (h : R (f []) bs)
    (gap : List Char) : R (enclosedPieces f gap) bs := by
  have hall := hp.append (hp.skip (hp.mark gap "(" (by decide)) h) (hp.mark [] ")" (by decide))
  rwa [List.append_nil] at hall

theorem id (hp : Picks R k) : R Statement.idPieces (k.compared "id" .eq) :=
  hp.skip (hp.word space "WHERE") (hp.compared termWords space "id" .eq)

theorem selection (hp : Picks R k) (select : List String) :
    R (Statement.selectionPieces select) ((select.filter (· ≠ "*")).flatMap k.column) := by
  have hselected (c : String) (gap : List Char) :
      R (Statement.selectedPieces c gap) (if c = "*" then [] else k.column c) := by
    rw [Statement.selectedPieces]
    split
    · exact hp.star gap
    · exact hp.column termWords gap c
  rw [Statement.selectionPieces]
  split
  · rename_i hs
    rw [List.isEmpty_iff.1 hs]
    exact hp.star space
  · rw [flatMap_filter_ne]
    exact hp.separated hselected select space

theorem condition (hp : Picks R k) (f : Filter) :
    R (Statement.wherePieces f) (f.leaves.flatMap k.leaf) := by
  rw [Statement.wherePieces]
  cases hw : f.whole? with
  | none =>
    rw [Filter.whole?_eq_none.1 hw]
    exact hp.nil
  | some p =>
    exact hp.skip (hp.word space "WHERE") (Filter.whole_yields hp.gathers hw termWords space)

theorem order (hp : Picks R k) (order : List SortKey) :
    R (Statement.orderPieces order) (order.flatMap fun key => k.column key.column) := by
  have hsort (key : SortKey) (gap : List Char) :
      R (Statement.sortPieces key gap) (k.column key.column) := by
    have h := hp.append (hp.column termWords gap key.column) (hp.word space key.direction.sql)
    rwa [List.append_nil] at h
  rw [Statement.orderPieces]
  split
  · rename_i ho
    rw [List.isEmpty_iff.1 ho]
    exact hp.nil
  · exact hp.append (hp.words space "ORDER" "BY") (hp.separated hsort order space)

theorem limit (hp : Picks R k) (limit : Nat) : R (Statement.limitPieces limit) [] := by
  rw [Statement.limitPieces]
  split
  · exact hp.nil
  · exact hp.skip (hp.word space "LIMIT") (hp.integer space _)

/-- Columns, comparisons and parameters stand in the text of a request in this order. -/
theorem request (hp : Picks R k) (table : String) (r : Request) :
    R (r.pieces table) (r.picked k) := by
  have hnames (fields : List Field) {items : String → List Char → List Piece}
      {g : String → List β} (gap : List Char) (hi : ∀ c gap, R (items c gap) (g c)) :
      R (Sql.separated ((fields.map Prod.fst).map items) gap) (fields.flatMap fun f => g f.1) := by
    have h := hp.separated hi (fields.map Prod.fst) gap
    rwa [List.flatMap_map] at h
  cases r with
  | insert fields =>
    have hquoted := hp.enclosed (hnames fields [] fun c gap => hp.quoted gap c) space
    have hvalues := hp.enclosed (hnames fields [] fun _ gap => hp.parameter gap) space
    exact hp.append (hp.append (hp.skip (hp.word [] "INSERT") (hp.words space "INTO" table))
      hquoted) (hp.skip (hp.word space "VALUES") hvalues)
  | update id fields =>
    have hassigned := hnames fields space fun c gap => hp.compared reservedWords gap c .eq
    exact hp.append (hp.append (hp.skip (hp.word [] "UPDATE") (hp.words space table "SET"))
      hassigned) hp.id
  | get id =>
    exact hp.append (hp.skip (hp.word [] "SELECT")
      (hp.skip (hp.star space) (hp.words space "FROM" table))) hp.id
  | delete id =>
    exact hp.append (hp.skip (hp.word [] "DELETE") (hp.words space "FROM" table)) hp.id
  | list request =>
    have hselection := hp.append (hp.skip (hp.word [] "SELECT") (hp.selection request.select))
      (hp.words space "FROM" table)
    rw [List.append_nil] at hselection
    have hall := hp.append (hp.append (hp.append hselection (hp.condition request.filter))
      (hp.order request.order)) (hp.limit request.limit)
    rwa [List.append_nil] at hall

end Picks

end

def isStray (t : Token) : Bool :=
  (t.lexeme = .symbol ∧ t.raw = [';']) || isParameter t && t.raw ≠ ['?']

namespace Sql.Piece

def names (p : Piece) : List String :=
  match p with
  | .column _ _ name => [name]
  | .token t =>
    match t.lexeme with
    | .name s _ => [s]
    | _ => []

theorem flatMap_append_eq {β : Type} {h : Piece → List β} {ps qs : List Piece} {bs cs : List β}
    (hp : ps.flatMap h = bs) (hq : qs.flatMap h = cs) : (ps ++ qs).flatMap h = bs ++ cs := by
  rw [List.flatMap_append, hp, hq]

theorem picks_names :
    Picks (fun ps bs => ps.flatMap names = bs)
      ⟨fun n => [n], fun n => [n], fun n _ => [n], []⟩ where
  nil := rfl
  append := flatMap_append_eq
  word _ _ := rfl
  mark _ _ _ := rfl
  integer _ _ := rfl
  quoted _ _ := rfl
  column _ _ _ := rfl
  compared _ _ _ _ := rfl
  parameter _ := rfl

def marks (kind : Token → Bool) (p : Piece) : List Unit := if kind p.toToken then [()] else []

theorem length_marks (kind : Token → Bool) (ps : List Piece) :
    (ps.flatMap (marks kind)).length = (ps.map toToken).countP kind := by
  induction ps with
  | nil => rfl
  | cons p ps ih =>
    rw [List.flatMap_cons, List.length_append, ih, List.map_cons, List.countP_cons, marks]
    split <;> simp [Nat.add_comm]

theorem picks_parameters : Picks (fun ps bs => ps.flatMap (marks isParameter) = bs)
    ⟨fun _ => [], fun _ => [], fun _ _ => [()], [()]⟩ where
  nil := rfl
  append := flatMap_append_eq
  word _ _ := rfl
  mark _ _ _ := rfl
  integer _ _ := rfl
  quoted _ _ := rfl
  column _ _ _ := rfl
  compared _ _ _ _ := rfl
  parameter _ := rfl

theorem picks_stray : Picks (fun ps bs => ps.flatMap (marks isStray) = bs)
    ⟨fun _ => [], fun _ => [], fun _ _ => [], []⟩ where
  nil := rfl
  append := flatMap_append_eq
  word _ _ := rfl
  mark gap s hs := by
    simp only [List.mem_cons, List.not_mem_nil, or_false] at hs
    rcases hs with rfl | rfl | rfl | rfl <;> rfl
  integer _ _ := rfl
  quoted _ _ := rfl
  column _ _ _ := rfl
  compared _ _ _ op := by cases op <;> rfl
  parameter _ := rfl

end Sql.Piece

namespace Request

def columns (r : Request) : List String :=
  r.picked ⟨fun n => [n], fun n => [n], fun n _ => [n], []⟩

theorem parameterCount_pieces (table : String) (types : ColumnTypes) (r : Request) :
    parameterCount ((r.pieces table).map Piece.toToken) = (r.bindings types).length := by
  rw [parameterCount, ← Piece.length_marks, Piece.picks_parameters.request]
  cases r <;> simp [picked, bindings, Picking.leaf]

theorem clean_pieces (table : String) (r : Request) :
    ∀ t ∈ (r.pieces table).map Piece.toToken, isStray t = false := by
  have hc : ((r.pieces table).map Piece.toToken).countP isStray = 0 := by
    rw [← Piece.length_marks, Piece.picks_stray.request]
    cases r <;> simp [picked, Picking.leaf]
  simpa using List.countP_eq_zero.1 hc

def Bare : Request → Prop
  | insert _ | get _ | delete _ => True
  | update _ fields => ∀ f ∈ fields, isBare reservedWords f.1
  | list request =>
    (∀ c ∈ request.select, c = "*" ∨ isBare termWords c) ∧
      (∀ p ∈ Statement.wherePieces request.filter, p.Plain) ∧
      ∀ k ∈ request.order, isBare termWords k.column

instance (r : Request) : Decidable r.Bare :=
  match r with
  | insert _ | get _ | delete _ => .isTrue trivial
  | update _ fields => inferInstanceAs (Decidable (∀ f ∈ fields, isBare reservedWords f.1))
  | list request =>
    inferInstanceAs (Decidable ((∀ c ∈ request.select, c = "*" ∨ isBare termWords c) ∧
      (∀ p ∈ Statement.wherePieces request.filter, p.Plain) ∧
      ∀ k ∈ request.order, isBare termWords k.column))

theorem plain_separated {α : Type} (items : α → List Char → List Piece) {Q : α → Prop}
    (hi : ∀ a gap, (∀ p ∈ items a gap, p.Plain) ↔ Q a) (as : List α) (gap : List Char) :
    (∀ p ∈ separated (as.map items) gap, p.Plain) ↔ ∀ a ∈ as, Q a := by
  cases as with
  | nil => simp [separated]
  | cons a as =>
    rw [List.map_cons, separated, List.forall_mem_append, hi, List.forall_mem_cons]
    refine and_congr_right fun _ => ?_
    induction as with
    | nil => simp
    | cons b as ih =>
      rw [List.map_cons, List.flatMap_cons, List.forall_mem_append, List.forall_mem_cons, hi, ih,
        List.forall_mem_cons]
      exact and_congr_left' (and_iff_right trivial)

theorem plain_token (t : Token) : (Piece.token t).Plain ↔ True := Iff.rfl

theorem plain_column (excluded : List String) (gap : List Char) (n : String) :
    (Piece.column excluded gap n).Plain ↔ isBare excluded n := Iff.rfl

theorem plain_id : ∀ p ∈ Statement.idPieces, p.Plain := by decide

theorem plain_selection (select : List String) :
    (∀ p ∈ Statement.selectionPieces select, p.Plain) ↔
      ∀ c ∈ select, c = "*" ∨ isBare termWords c := by
  have hselected (c : String) (gap : List Char) :
      (∀ p ∈ Statement.selectedPieces c gap, p.Plain) ↔ c = "*" ∨ isBare termWords c := by
    rw [Statement.selectedPieces]
    split <;> simp_all [plain_token, plain_column]
  rw [Statement.selectionPieces]
  split
  · rename_i hs
    simp [List.isEmpty_iff.1 hs, plain_token]
  · exact plain_separated Statement.selectedPieces hselected _ _

theorem plain_order (order : List SortKey) :
    (∀ p ∈ Statement.orderPieces order, p.Plain) ↔ ∀ k ∈ order, isBare termWords k.column := by
  have hsort (k : SortKey) (gap : List Char) :
      (∀ p ∈ Statement.sortPieces k gap, p.Plain) ↔ isBare termWords k.column := by
    simp [Statement.sortPieces, plain_token, plain_column]
  rw [Statement.orderPieces]
  split
  · rename_i ho
    simp [List.isEmpty_iff.1 ho]
  · rw [List.forall_mem_append, plain_separated Statement.sortPieces hsort]
    simp [plain_token]

theorem plain_limit (limit : Nat) : ∀ p ∈ Statement.limitPieces limit, p.Plain := by
  rw [Statement.limitPieces]
  split <;> simp [plain_token]

theorem plain_pieces (table : String) (r : Request) :
    (∀ p ∈ r.pieces table, p.Plain) ↔ r.Bare := by
  cases r with
  | insert fields =>
    have hquoted := plain_separated Statement.quotedPieces (Q := fun _ => True)
      (by simp [Statement.quotedPieces, plain_token]) (fields.map Prod.fst) []
    have hvalues := plain_separated Statement.valuePieces (Q := fun _ => True)
      (by simp [Statement.valuePieces, plain_token]) (fields.map Prod.fst) []
    simp only [pieces, Statement.insertPieces, enclosedPieces, List.forall_mem_append,
      List.forall_mem_cons, plain_token, hquoted, hvalues, Bare]
    simp
  | update id fields =>
    have hassigned := plain_separated Statement.assignmentPieces
      (Q := fun n => isBare reservedWords n)
      (by simp [Statement.assignmentPieces, plain_token, plain_column]) (fields.map Prod.fst) space
    simp only [pieces, Statement.updatePieces, List.forall_mem_append, List.forall_mem_cons,
      plain_token, hassigned, iff_true_intro plain_id, Bare]
    simp
  | get id =>
    simp only [pieces, Statement.selectByIdPieces, List.forall_mem_append,
      iff_true_intro plain_id, Bare]
    simp [plain_token]
  | delete id =>
    simp only [pieces, Statement.deletePieces, List.forall_mem_append,
      iff_true_intro plain_id, Bare]
    simp [plain_token]
  | list request =>
    simp only [pieces, Statement.listPieces, List.forall_mem_append, List.forall_mem_cons,
      plain_token, plain_selection, plain_order, iff_true_intro (plain_limit request.limit), Bare]
    simp [and_assoc]

end Request

end Tabular
