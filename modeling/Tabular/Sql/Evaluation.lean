import Tabular.Sql.Catalog
import Tabular.Sql.Plan

/-!
# Evaluation

Expressions have a value in the rows around them; plans yield rows. An operation
on nothing mostly gives nothing, and truth has three values.
-/

set_option autoImplicit false

namespace Tabular.Sql

structure Scene where
  catalog : Catalog
  counters : Counters
  parameters : List Value
  frames : List Row
  working : List (List Row)
  describe : String → Except Fault (List Row)
  patience : Nat

namespace Scene

def within (s : Scene) (row : Row) : Scene := { s with frames := row :: s.frames }

def place (s : Scene) (p : Place) : Value := ((s.frames[p.depth]?).getD [])[p.index]?.getD .null

end Scene

structure Found where
  rows : List Row
  cut : Bool

namespace Found

def all (rows : List Row) : Found := ⟨rows, false⟩

def complete (f : Found) : Except Fault (List Row) :=
  if f.cut then .error .interrupted else .ok f.rows

end Found

namespace Value

def ofTruth : Option Bool → Value
  | none => .null
  | some b => .ofBool b

def ofWhole (i : Int) (x : Float) : Value :=
  if Decimal.leastInt ≤ i ∧ i ≤ Decimal.mostInt then .int (Int64.ofInt i) else .ofReal x

def arithmetic (whole : Int → Int → Int) (real : Float → Float → Float) (v w : Value) : Value :=
  match v.toNumber, w.toNumber with
  | .null, _ | _, .null => .null
  | .int i, .int j => ofWhole (whole i.toInt j.toInt) (real i.toFloat j.toFloat)
  | a, b => .ofReal (real a.toReal b.toReal)

def quotient (v w : Value) : Value :=
  match v.toNumber, w.toNumber with
  | .null, _ | _, .null => .null
  | .int i, .int j =>
    if j = 0 then .null else ofWhole (i.toInt.tdiv j.toInt) (i.toFloat / j.toFloat)
  | a, b => if b.toReal == 0 then .null else .ofReal (a.toReal / b.toReal)

def remainder (v w : Value) : Value :=
  match v.toNumber, w.toNumber with
  | .null, _ | _, .null => .null
  | a, b =>
    let j := b.toInt.toInt
    if j = 0 then .null
    else
      let r := Int64.ofInt (a.toInt.toInt.tmod j)
      match a, b with
      | .int _, .int _ => .int r
      | _, _ => .real r.toFloat

def shifted (i j : Int64) : Int64 :=
  if j < 0 then
    if j ≤ -64 then (if i < 0 then -1 else 0) else i >>> (-j)
  else if 64 ≤ j then 0
  else i <<< j

def bits (f : Int64 → Int64 → Int64) (v w : Value) : Value :=
  if v.isNull || w.isNull then .null else .int (f v.toInt w.toInt)

def concatenated (v w : Value) : Value :=
  match v, w with
  | .null, _ | _, .null => .null
  | v, w =>
    match v.toText, w.toText with
    | .text s, .text t => .text (s ++ t)
    | _, _ => ofBytes (v.bytes ++ w.bytes)

end Value

namespace UnaryOp

def apply (op : UnaryOp) (v : Value) : Value :=
  match op with
  | .negate =>
    match v.toNumber with
    | .null => .null
    | .int i => Value.ofWhole (-i.toInt) (-i.toFloat)
    | w => .ofReal (0 - w.toReal)
  | .plus => v
  | .complement => if v.isNull then .null else .int (~~~ v.toInt)
  | .not => .ofTruth (v.truth.map (!·))
  | .isNull => .ofBool v.isNull
  | .notNull => .ofBool (!v.isNull)

end UnaryOp

namespace BinaryOp

def holds (op : BinaryOp) (o : Ordering) : Bool :=
  match op with
  | .equal | .is => o = .eq
  | .notEqual | .isNot => o ≠ .eq
  | .less => o = .lt
  | .atMost => o ≠ .gt
  | .greater => o = .gt
  | .atLeast => o ≠ .lt
  | _ => false

def compare (op : BinaryOp) (a : Affinity) (c : Collation) (v w : Value) : Value :=
  let (v, w) := a.compared v w
  if (v.isNull || w.isNull) && op ≠ .is && op ≠ .isNot then .null
  else .ofBool (op.holds (Value.compare c v w))

def both (v w : Value) : Option Bool :=
  match v.truth, w.truth with
  | some false, _ | _, some false => some false
  | some true, some true => some true
  | _, _ => none

def either (v w : Value) : Option Bool :=
  match v.truth, w.truth with
  | some true, _ | _, some true => some true
  | some false, some false => some false
  | _, _ => none

def apply (op : BinaryOp) (v w : Value) : Value :=
  match op with
  | .or => .ofTruth (either v w)
  | .and => .ofTruth (both v w)
  | .bitAnd => .bits (· &&& ·) v w
  | .bitOr => .bits (· ||| ·) v w
  | .shiftLeft => .bits Value.shifted v w
  | .shiftRight => .bits (fun i j => Value.shifted i (-j)) v w
  | .add => .arithmetic (· + ·) (· + ·) v w
  | .subtract => .arithmetic (· - ·) (· - ·) v w
  | .multiply => .arithmetic (· * ·) (· * ·) v w
  | .divide => .quotient v w
  | .remainder => .remainder v w
  | .concat => .concatenated v w
  | op => op.compare .unset .binary v w

end BinaryOp

def membership (a : Affinity) (c : Collation) (v : Value) (items : List Value) : Option Bool :=
  let answers := items.map fun w => (BinaryOp.compare .equal a c v w).truth
  if answers.contains (some true) then some true
  else if answers.contains none then none
  else some false

def negatedIf (negated : Bool) (b : Option Bool) : Option Bool :=
  if negated then b.map (!·) else b

namespace Expr

variable {P : Type}

mutual

def eval (run : P → Scene → Except Fault Found) (s : Scene) : Expr P → Except Fault Value
  | .value v => .ok v
  | .parameter n => .ok ((s.parameters[n - 1]?).getD .null)
  | .place p => .ok (s.place p)
  | .unary op e => do
    let v ← eval run s e
    .ok (op.apply v)
  | .binary op l r => do
    let v ← eval run s l
    let w ← eval run s r
    .ok (op.apply v w)
  | .compare op a c l r => do
    let v ← eval run s l
    let w ← eval run s r
    .ok (op.compare a c v w)
  | .inList negated a c e items => do
    let v ← eval run s e
    let vs ← evalAll run s items
    .ok (.ofTruth (negatedIf negated (membership a c v vs)))
  | .inPlan negated a c e p => do
    let v ← eval run s e
    let rows ← (← run p s).complete
    .ok (.ofTruth (negatedIf negated (membership a c v (rows.map fun r => r.headD .null))))
  | .exists p => do
    let found ← run p s
    if found.rows.isEmpty && found.cut then .error .interrupted
    else .ok (.ofBool (!found.rows.isEmpty))
  | .scalar p => do
    let found ← run p s
    match found.rows with
    | row :: _ => .ok (row.headD .null)
    | [] => if found.cut then .error .interrupted else .ok .null
  | .choice condition yes no => do
    let v ← eval run s condition
    if v.truth = some true then eval run s yes else eval run s no
  | .cast a e => do
    let v ← eval run s e
    .ok (a.cast v)
  | .call f c arguments => do
    let vs ← evalAll run s arguments
    f.apply s.counters c vs

def evalAll (run : P → Scene → Except Fault Found) (s : Scene) :
    List (Expr P) → Except Fault (List Value)
  | [] => .ok []
  | e :: es => do
    let v ← eval run s e
    let vs ← evalAll run s es
    .ok (v :: vs)

end

end Expr
end Tabular.Sql
