import Tabular.Sql.Evaluation

/-!
# Rows of plans

A selection joins its sources, keeps the rows that meet its condition, groups them
and computes its columns. Selections are combined, sorted and cut to a limit.
-/

set_option autoImplicit false

namespace Tabular.Sql

def compareRows : List Collation → Row → Row → Ordering
  | c :: cs, v :: vs, w :: ws =>
    match Value.compare c v w with
    | .eq => compareRows cs vs ws
    | o => o
  | _, _, _ => .eq

def sameRow (cs : List Collation) (a b : Row) : Bool := compareRows cs a b = .eq

namespace SortColumn

def compare (k : SortColumn) (a b : Row) : Ordering :=
  let v := a[k.index]?.getD .null
  let w := b[k.index]?.getD .null
  match v.isNull, w.isNull with
  | true, true => .eq
  | true, false => if k.nullsFirst then .lt else .gt
  | false, true => if k.nullsFirst then .gt else .lt
  | false, false =>
    let o := Value.compare k.collation v w
    if k.descending then o.swap else o

end SortColumn

def compareBy : List SortColumn → Row → Row → Ordering
  | [], _, _ => .eq
  | k :: ks, a, b =>
    match k.compare a b with
    | .eq => compareBy ks a b
    | o => o

def sorted (order : List SortColumn) (rows : List Row) : List Row :=
  if order.isEmpty then rows else rows.mergeSort fun a b => compareBy order a b ≠ .gt

def sortedRows (cs : List Collation) (rows : List Row) : List Row :=
  rows.mergeSort fun a b => compareRows cs a b ≠ .gt

def distinctBy (same : Row → Row → Bool) (rows : List Row) : List Row :=
  rows.foldr (fun row rest => row :: rest.filter fun other => !same row other) []

def keep {α : Type} (f : α → Except Fault Bool) (as : List α) : Except Fault (List α) := do
  let marked ← as.mapM fun a => do
    let b ← f a
    .ok (a, b)
  .ok ((marked.filter Prod.snd).map Prod.fst)

variable {P : Type}

namespace Expr

def isTrue (run : P → Scene → Except Fault Found) (s : Scene) (e : Option (Expr P)) :
    Except Fault Bool :=
  match e with
  | none => .ok true
  | some e => (eval run s e).map fun v => v.truth = some true

end Expr

def Supply.rows (run : P → Scene → Except Fault Found) (s : Scene) :
    Supply P → Except Fault (Row → Except Fault Found)
  | .table name =>
    match s.catalog.readable? name with
    | some t =>
      let found := Found.all (t.ordered.map fun e => Table.seen e.1 e.2)
      .ok fun _ => .ok found
    | none => .error (.noSuchTable name)
  | .plan p => do
    let found ← run p s
    .ok fun _ => .ok found
  | .working level =>
    let found := Found.all (s.working[level]?.getD [])
    .ok fun _ => .ok found
  | .columnsOf e => .ok fun row => do
    let v ← e.eval run (s.within row)
    let rows ← s.describe v.shown
    .ok (.all rows)

def blankRow (width : Nat) : Row := List.replicate width .null

def joinWith (run : P → Scene → Except Fault Found) (s : Scene) (left : Found) (width : Nat)
    (j : Joined P) : Except Fault Found := do
  let supply ← j.supply.rows run s
  let fits (row new : Row) : Except Fault Bool :=
    Expr.isTrue run (s.within (row ++ new)) j.condition
  let pairs ← left.rows.mapM fun row => do
    let found ← supply row
    let matching ← keep (fits row) found.rows
    .ok (row, matching, found.cut)
  let joined := pairs.flatMap fun (row, matching, _) =>
    if matching.isEmpty && (j.kind = .left || j.kind = .full) then [row ++ blankRow j.width]
    else matching.map fun new => row ++ new
  let cut := left.cut || pairs.any fun (_, _, cut) => cut
  if j.kind = .right ∨ j.kind = .full then
    let found ← supply []
    let alone ← keep (fun new => do
      let hits ← keep (fun row => fits row new) left.rows
      .ok hits.isEmpty) found.rows
    .ok ⟨joined ++ alone.map fun new => blankRow width ++ new, cut⟩
  else .ok ⟨joined, cut⟩

def joinAll (run : P → Scene → Except Fault Found) (s : Scene) :
    Found → Nat → List (Joined P) → Except Fault Found
  | left, _, [] => .ok left
  | left, width, j :: rest => do
    let next ← joinWith run s left width j
    joinAll run s next (width + j.width) rest

def Gathered.apply (run : P → Scene → Except Fault Found) (s : Scene) (g : Gathered P)
    (rows : List Row) : Except Fault Value := do
  let arguments ← rows.mapM fun row => Expr.evalAll run (s.within row) g.arguments
  let arguments := if g.distinct then distinctBy (sameRow [g.collation]) arguments else arguments
  g.function.apply g.collation arguments

def Grouping.speaker (run : P → Scene → Except Fault Found) (s : Scene) (g : Grouping P)
    (rows : List Row) : Except Fault (Option Row) :=
  match g.gathered.filter fun a => a.function = .least || a.function = .greatest with
  | [a] => do
    let extreme ← a.apply run s rows
    let hits ← keep (fun row => do
      let vs ← Expr.evalAll run (s.within row) a.arguments
      .ok (Value.compare a.collation (vs.headD .null) extreme = .eq)) rows
    .ok (hits.head? <|> rows.head?)
  | _ => .ok rows.head?

def groupsOf (cs : List Collation) : List (Row × Row) → List (List Row)
  | [] => []
  | (key, row) :: rest =>
    match rest, groupsOf cs rest with
    | (next, _) :: _, group :: groups =>
      if sameRow cs key next then (row :: group) :: groups else [row] :: group :: groups
    | _, groups => [row] :: groups

def Grouping.groups (run : P → Scene → Except Fault Found) (s : Scene) (g : Grouping P)
    (rows : List Row) : Except Fault (List (List Row)) :=
  if g.keys.isEmpty then .ok [rows]
  else do
    let keyed ← rows.mapM fun row => do
      let key ← Expr.evalAll run (s.within row) (g.keys.map Prod.snd)
      .ok (key, row)
    let cs := g.keys.map Prod.fst
    .ok (groupsOf cs (keyed.mergeSort fun a b => compareRows cs a.1 b.1 ≠ .gt))

def Grouping.rows (run : P → Scene → Except Fault Found) (s : Scene) (g : Grouping P)
    (width : Nat) (rows : List Row) : Except Fault (List Row) := do
  let groups ← g.groups run s rows
  let made ← groups.mapM fun group => do
    let speaker ← g.speaker run s group
    let gathered ← g.gathered.mapM fun a => a.apply run s group
    .ok (speaker.getD (blankRow width) ++ gathered)
  keep (fun row => Expr.isTrue run (s.within row) g.having) made

namespace Stage

def run (run : P → Scene → Except Fault Found) (s : Scene) (cs : List Collation) :
    Stage P → Except Fault Found
  | .values rows => do
    let rows ← rows.mapM fun es => Expr.evalAll run (s.within []) es
    .ok (.all rows)
  | .select sources condition grouping outputs distinct => do
    let joined ← joinAll run s (.all [[]]) 0 sources
    let met ← keep (fun row => Expr.isTrue run (s.within row) condition) joined.rows
    let width := total (sources.map Joined.width)
    let (rows, cut) ← match grouping with
      | none => .ok (met, joined.cut)
      | some g => do
        let _ ← joined.complete
        let rows ← g.rows run s width met
        .ok (rows, false)
    let rows ← rows.mapM fun row => Expr.evalAll run (s.within row) outputs
    .ok ⟨if distinct then distinctBy (sameRow cs) rows else rows, cut⟩

end Stage

def Compound.apply (op : Compound) (cs : List Collation) (a b : Found) : Except Fault Found :=
  match op with
  | .unionAll => .ok ⟨a.rows ++ (if a.cut then [] else b.rows), a.cut || b.cut⟩
  | op => do
    let left ← a.complete
    let right ← b.complete
    let isIn (rows : List Row) (row : Row) : Bool := rows.any fun other => sameRow cs row other
    let rows := match op with
      | .intersect => left.filter (isIn right)
      | .except => left.filter fun row => !isIn right row
      | _ => left ++ right
    .ok (.all (sortedRows cs (distinctBy (sameRow cs) rows)))

def limitValue (run : P → Scene → Except Fault Found) (s : Scene) (e : Option (Expr P)) :
    Except Fault (Option Int) :=
  match e with
  | none => .ok none
  | some e => do
    match Affinity.store .integer (← e.eval run (s.within [])) with
    | .int i => .ok (some i.toInt)
    | _ => .error .mismatch

def cutTo (limit offset : Option Int) (f : Found) : Found :=
  let rows := f.rows.drop (offset.getD 0).toNat
  match limit with
  | none => ⟨rows, f.cut⟩
  | some n => if n < 0 then ⟨rows, f.cut⟩ else ⟨rows.take n.toNat, f.cut && rows.length < n.toNat⟩

namespace PlanOf

def run (run : P → Scene → Except Fault Found) (s : Scene) (q : PlanOf P) : Except Fault Found := do
  let first ← q.first.run run s q.collations
  let found ← q.rest.foldlM (fun found (op, stage) => do
    let next ← Stage.run run s q.collations stage
    op.apply q.collations found next) first
  let limit ← limitValue run s q.limit
  let offset ← limitValue run s q.offset
  let found ← if q.order.isEmpty then .ok found
    else do
      let rows ← found.complete
      .ok (.all (sorted q.order rows))
  let found := cutTo limit offset found
  .ok { found with rows := found.rows.map fun row => row.take q.width }

end PlanOf

/-- The queue of a recursive query: its first row is made into more, until none is
left, enough are found, or so many were made that the time is over. Where `same` is
given, a row that was found before is left out. -/
def Recursion.loop (make : Row → Except Fault (List Row)) (same : Option (Row → Row → Bool))
    (enough : Option Nat) : Nat → List Row → List Row → Except Fault Found
  | 0, _, found => .ok ⟨found.reverse, true⟩
  | _ + 1, [], found => .ok (.all found.reverse)
  | fuel + 1, row :: queue, found =>
    let found := row :: found
    if (enough.map fun n => decide (n ≤ found.length)).getD false then .ok (.all found.reverse)
    else do
      let made ← make row
      let new := match same with
        | none => made
        | some same => (distinctBy same made).filter fun r =>
            !queue.any (same r) && !found.any (same r)
      loop make same enough fuel (queue ++ new) found

namespace Recursion

def run (run : P → Scene → Except Fault Found) (s : Scene) (r : Recursion P) :
    Except Fault Found := do
  let limit ← limitValue run s r.limit
  let offset ← limitValue run s r.offset
  let enough := limit.bind fun n => if n < 0 then none else some (n.toNat + (offset.getD 0).toNat)
  let initial ← (← run r.initial s).complete
  let same := sameRow (List.replicate r.width .binary)
  let make (row : Row) : Except Fault (List Row) := do
    let found ← run r.step { s with working := s.working ++ [[row]] }
    found.complete
  if enough = some 0 then .ok (.all [])
  else do
    let found ← loop make (if r.distinct then some same else none) enough s.patience
      (if r.distinct then distinctBy same initial else initial) []
    .ok (cutTo limit offset found)

end Recursion

namespace Plan

def runWithin : Nat → Plan → Scene → Except Fault Found
  | 0, _, _ => .error .tooDeep
  | depth + 1, .query q, s => q.run (runWithin depth) s
  | depth + 1, .recursion r, s => r.run (runWithin depth) s

def run (p : Plan) (s : Scene) : Except Fault Found := runWithin nesting p s

end Plan
end Tabular.Sql
