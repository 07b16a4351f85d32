import Tabular.Sql.Resolution.Scope

/-!
# Terms with their meaning

Each name in a term gets its meaning, and each comparison its affinity and its
collation. Aggregates are gathered on the way.
-/

set_option autoImplicit false

namespace Tabular.Sql

abbrev Resolving (α : Type) := List (Gathered Plan) → Except Fault (α × List (Gathered Plan))

namespace Resolving

variable {α β : Type}

instance : Monad Resolving where
  pure a := fun gs => .ok (a, gs)
  bind r f := fun gs =>
    match r gs with
    | .ok (a, gs) => f a gs
    | .error e => .error e

def lift (r : Except Fault α) : Resolving α := fun gs => r.map fun a => (a, gs)

def fail (e : Fault) : Resolving α := fun _ => .error e

def gather (g : Gathered Plan) : Resolving Nat := fun gs => .ok (gs.length, gs ++ [g])

def alone (r : Resolving α) : Except Fault α := (r []).map Prod.fst

end Resolving

open Resolving

def singleColumn (r : Resolved) : Resolving Heading :=
  match r.headings with
  | [h] => pure h
  | hs => fail (.subqueryWidth hs.length 1)

def comparison (op : BinaryOp) (l r : Typed) : Typed :=
  { Typed.plain
      (.compare op (l.affinity.common r.affinity) (l.commonCollation r) l.expr r.expr) with
    aggregated := l.aggregated || r.aggregated }

def binaryTyped (op : BinaryOp) (l r : Typed) : Typed :=
  if op.isComparison then comparison op l r
  else { Typed.plain (.binary op l.expr r.expr) with aggregated := l.aggregated || r.aggregated }

def unaryTyped (op : UnaryOp) (t : Typed) : Typed :=
  match op, t.expr with
  | .negate, .value (.real x) => Typed.value (.real (-x))
  | .plus, _ => { t with affinity := .unset }
  | op, e => { Typed.plain (.unary op e) with aggregated := t.aggregated }

def callTyped (site : Site) (name : String) (distinct : Bool) (arguments : List Typed) :
    Resolving Typed := do
  let exprs := arguments.map Typed.expr
  let collation := (arguments.findSome? fun a => a.collation.map Prod.snd).getD .binary
  let aggregated := arguments.any Typed.aggregated
  match Aggregate.ofName? name arguments.length with
  | some f =>
    match site.aggregates with
    | .refused fault => fail (fault name)
    | .gathered width =>
      let n ← gather ⟨f, distinct, collation, exprs⟩
      pure { Typed.plain (.place ⟨0, width + n⟩) with aggregated := true }
  | none =>
    if Aggregate.isName name then fail (.argumentCount name)
    else
      match String.ofList (foldName name), exprs with
      | "iif", [c, y, n] => pure { Typed.plain (.choice c y n) with aggregated }
      | "likely", [e] | "unlikely", [e] => pure { Typed.plain e with aggregated }
      | _, exprs =>
        match Scalar.ofName? name with
        | none => fail (.noSuchFunction name)
        | some (f, least, most) =>
          if exprs.length < least ∨ most < exprs.length then fail (.argumentCount name)
          else pure { Typed.plain (.call f collation exprs) with aggregated }

def argumentSite (site : Site) (name : String) (count : Nat) : Site :=
  if (Aggregate.ofName? name count).isSome then
    { site with aggregates := .refused .nestedAggregate }
  else site

namespace Term

variable {Q : Type}

mutual

def resolve (sub : Site → Q → Except Fault Resolved) (site : Site) :
    Term Q → Resolving Typed
  | .value v => pure (.value v)
  | .parameter n => pure (.plain (.parameter n))
  | .column table name quoting => lift (site.column table name quoting)
  | .unary op t => do
    let t ← resolve sub site t
    pure (unaryTyped op t)
  | .binary op l r => do
    let l ← resolve sub site l
    let r ← resolve sub site r
    pure (binaryTyped op l r)
  | .inList negated t items => do
    let t ← resolve sub site t
    let items ← resolveAll sub site items
    pure { Typed.plain (.inList negated t.affinity t.collationOrBinary t.expr
        (items.map Typed.expr)) with
      aggregated := t.aggregated || items.any Typed.aggregated }
  | .inQuery negated t q => do
    let t ← resolve sub site t
    let r ← lift (sub site.refuseAggregates q)
    let h ← singleColumn r
    pure { Typed.plain (.inPlan negated (t.affinity.common h.affinity) t.collationOrBinary t.expr
        r.plan) with aggregated := t.aggregated }
  | .exists q => do
    let r ← lift (sub site.refuseAggregates q)
    pure (.plain (.exists r.plan))
  | .scalar q => do
    let r ← lift (sub site.refuseAggregates q)
    let h ← singleColumn r
    pure { Typed.plain (.scalar r.plan) with affinity := h.affinity }
  | .choice c y n => do
    let c ← resolve sub site c
    let y ← resolve sub site y
    let n ← resolve sub site n
    pure { Typed.plain (.choice c.expr y.expr n.expr) with
      aggregated := c.aggregated || y.aggregated || n.aggregated }
  | .cast t type => do
    let t ← resolve sub site t
    let a := Affinity.ofDeclared type
    pure { t with expr := .cast a t.expr, affinity := a }
  | .collate t name => do
    let t ← resolve sub site t
    match Collation.ofName? name with
    | some c => pure { t with collation := some (true, c) }
    | none => fail (.noSuchCollation name)
  | .call name distinct arguments => do
    let arguments ← resolveAll sub (argumentSite site name arguments.length) arguments
    callTyped site name distinct arguments
  | .callStar name =>
    if Aggregate.ofName? name 0 = some .countRows then callTyped site name false []
    else fail (if (Scalar.ofName? name).isSome ∨ Aggregate.isName name then .argumentCount name
      else .noSuchFunction name)
  | .row _ => fail .rowValueMisused

def resolveAll (sub : Site → Q → Except Fault Resolved) (site : Site) :
    List (Term Q) → Resolving (List Typed)
  | [] => pure []
  | t :: ts => do
    let t ← resolve sub site t
    let ts ← resolveAll sub site ts
    pure (t :: ts)

end

def resolveAlone (sub : Site → Q → Except Fault Resolved) (site : Site) (t : Term Q) :
    Except Fault Typed := (t.resolve sub site.refuseAggregates).alone

end Term
end Tabular.Sql
