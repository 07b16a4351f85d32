import Tabular.Sql.Resolution.Term

/-!
# Queries with their meaning

The sources of a query are found first, then its result columns, its conditions,
its order and its groups are resolved, and then the queries it is made of are
checked against one another.
-/

set_option autoImplicit false

namespace Tabular.Sql

open Resolving

abbrev Sub := Site → Query → Except Fault Resolved

structure Sourced where
  joined : Joined Plan
  range : Range

def visibles (headings : List Heading) (start : Nat) : List Visible :=
  headings.zipIdx.map fun (h, n) => ⟨h, start + n, false⟩

def rangeOf (label : String) (headings : List Heading) (start : Nat) : Range :=
  ⟨label, visibles headings start, none⟩

def Table.headings (t : Table) : List Heading := t.columns.map Heading.ofColumn

def Table.rowidName (t : Table) : String :=
  ((t.idColumn.bind fun i => t.columns[i]?).map Column.name).getD "rowid"

def Table.range (t : Table) (label : String) (start : Nat) : Range :=
  ⟨label, visibles t.headings start,
    if t.withoutRowid then none
    else some ⟨⟨t.rowidName, "INTEGER", .integer, some .binary⟩, start + t.width, false⟩⟩

def renamed (names : List String) (headings : List Heading) : List Heading :=
  if names.isEmpty then headings
  else headings.zipWith (fun h n => { h with name := n }) names

def distinctNames (headings : List Heading) : List Heading :=
  headings.foldl (fun done h =>
    let taken (name : String) : Bool := done.any fun d => sameName d.name name
    if taken h.name then
      let marked (n : Nat) : String := h.name ++ ":" ++ Decimal.showNat (n + 1)
      let n := ((List.range (done.length + 1)).find? fun n => !taken (marked n)).getD 0
      done ++ [{ h with name := marked n }]
    else done ++ [h]) []

def infoHeadings : List Heading :=
  let heading (name : String) (a : Affinity) : Heading := ⟨name, "", a, some .binary⟩
  [heading "cid" .integer, heading "name" .text, heading "type" .text, heading "notnull" .integer,
    heading "dflt_value" .unset, heading "pk" .integer]

def isTableInfo (name : String) : Bool :=
  sameName name "pragma_table_info" || sameName name "pragma_table_xinfo"

def showName (name : ObjectName) : String :=
  match name.schema with
  | some s => s ++ "." ++ name.name
  | none => name.name

def isKnownSchema (schema : Option String) : Bool :=
  match schema with
  | some s => sameName s "main" || sameName s "temp"
  | none => true

def Core.takesFrom (name : String) : Core Query → Bool
  | .select _ _ sources _ _ _ => sources.any fun s =>
    match s.origin with
    | .named ⟨none, n, _⟩ => sameName n name
    | _ => false
  | .values _ => false

def splitRecursive (name : String) (q : QueryOf Query) :
    Option (QueryOf Query × QueryOf Query × Bool) :=
  match q.rest.findIdx? fun (_, c) => c.takesFrom name with
  | none => none
  | some n =>
    match q.rest.drop n with
    | (op, c) :: rest =>
      if (op = .union || op = .unionAll) && rest.all fun (o, d) => o = op && d.takesFrom name then
        some (⟨false, q.commons, q.first, q.rest.take n, [], none, none⟩,
          ⟨false, q.commons, c, rest.map fun (_, d) => (.unionAll, d), [], none, none⟩,
          op = .union)
      else none
    | [] => none

def resolveCommon (sub : Sub) (site : Site) (name : String) (columns : List String) (q : Query) :
    Except Fault Resolved := do
  let ⟨body⟩ := q
  let named (r : Resolved) : Except Fault (List Heading) :=
    if columns.isEmpty ∨ columns.length = r.headings.length then
      .ok (distinctNames (renamed columns r.headings))
    else .error (.commonTableWidth name r.headings.length columns.length)
  let apart := site.setCommon name .circular
  match splitRecursive name body with
  | none => do
    let r ← sub apart q
    let headings ← named r
    .ok ⟨r.plan, headings⟩
  | some (initial, step, distinct) => do
    let first ← sub apart (.mk initial)
    let headings ← named first
    let inner := { site.setCommon name (.working site.level headings) with level := site.level + 1 }
    let next ← sub inner (.mk step)
    if next.headings.length ≠ headings.length then
      .error (.unevenCompound (if distinct then "UNION" else "UNION ALL"))
    else do
      let single (t : Option Words) : Except Fault (Option Formula) :=
        match t with
        | none => .ok none
        | some t => do
          let t ← t.resolveAlone sub { site with frames := [⟨[], []⟩] }
          .ok (some t.expr)
      let limit ← single body.limit
      let offset ← single body.offset
      .ok ⟨.recursion ⟨first.plan, next.plan, headings.length, distinct, limit, offset⟩, headings⟩

def resolveView (sub : Sub) (site : Site) (v : View) : Except Fault Resolved := do
  if site.views.any fun w => sameName w.name v.name then .error (.circularView v.name)
  let r ← sub { Site.ofCatalog site.catalog with level := site.level, views := v :: site.views }
    v.query
  if v.columns.isEmpty ∨ v.columns.length = r.headings.length then
    .ok ⟨r.plan, distinctNames (renamed v.columns r.headings)⟩
  else .error (.viewWidth v.name v.columns.length r.headings.length)

def absentName (site : Site) (name : ObjectName) : String :=
  match name.schema, site.views with
  | none, v :: _ => if v.temporary then name.name else "main." ++ name.name
  | _, _ => showName name

def resolveName (sub : Sub) (site : Site) (name : ObjectName) (label : String) (start : Nat) :
    Except Fault (Supply Plan × Range) := do
  let ofResolved (r : Resolved) : Supply Plan × Range :=
    (.plan r.plan, rangeOf label r.headings start)
  match (if name.schema.isNone then site.common? name.name else none) with
  | some (.query columns q) => .ok (ofResolved (← resolveCommon sub site name.name columns q))
  | some (.working level headings) => .ok (.working level, rangeOf label headings start)
  | some .circular => .error (.circular name.name)
  | none =>
    if site.closed then .error .notADatabase
    else if !isKnownSchema name.schema then .error (.noSuchTable (showName name))
    else
      match site.catalog.readable? name.name with
      | some t => .ok (.table t.name, t.range label start)
      | none =>
        match site.catalog.view? name.name with
        | some v => .ok (ofResolved (← resolveView sub site v))
        | none => .error (.noSuchTable (absentName site name))

def resolveOrigin (sub : Sub) (site : Site) (ranges : List Range) (start : Nat)
    (s : Source Query) : Except Fault Sourced := do
  let (supply, range) ← match s.origin with
    | .named name => resolveName sub site name (s.label.getD name.name) start
    | .query q => do
      let r ← sub site q
      .ok (.plan r.plan, rangeOf (s.label.getD "") (distinctNames r.headings) start)
    | .function name arguments =>
      if site.closed then .error .notADatabase
      else if isTableInfo name then
        match arguments with
        | [t] => do
          let t ← t.resolveAlone sub (site.within (.ofRanges ranges))
          .ok (.columnsOf t.expr, rangeOf (s.label.getD name) infoHeadings start)
        | _ => .error (.noSuchTable name)
      else if (site.catalog.readable? name).isSome then .error (.notAFunction name)
      else .error (.noSuchTable name)
  let width := range.columns.length + (if range.rowid.isSome then 1 else 0)
  let width := match supply with
    | .table _ => range.columns.length + 1
    | _ => width
  .ok ⟨⟨supply, width, s.kind, none⟩, range⟩

def resolveOrigins (sub : Sub) (site : Site) :
    List Range → Nat → List (Source Query) → Except Fault (List Sourced)
  | _, _, [] => .ok []
  | ranges, start, s :: rest => do
    let found ← resolveOrigin sub site ranges start s
    let others ← resolveOrigins sub site (ranges ++ [found.range]) (start + found.joined.width) rest
    .ok (found :: others)

def sharedColumns (ranges : List Range) (range : Range) (s : Source Query) : List String :=
  if s.natural then
    (range.columns.map fun v => v.heading.name).filter fun name =>
      ranges.any fun r => r.columns.any fun v => sameName v.heading.name name
  else s.shared

def mergeColumn (ranges : List Range) (range : Range) (name : String) :
    Except Fault (Typed × Range) :=
  let left := ranges.findSome? fun r => r.columns.find? fun v => sameName v.heading.name name
  let right := range.columns.find? fun v => sameName v.heading.name name
  match left, right with
  | some l, some r =>
    .ok (comparison .equal (l.typed 0) (r.typed 0),
      { range with columns := range.columns.map fun v =>
          if v.index = r.index then { v with merged := true } else v })
  | _, _ => .error (.joinColumn name)

def conjunction : Option Formula → Formula → Option Formula
  | none, e => some e
  | some f, e => some (.binary .and f e)

def resolveJoins (sub : Sub) (site : Site) :
    List Range → List (Sourced × Source Query) → Except Fault (List Sourced)
  | _, [] => .ok []
  | ranges, (found, s) :: rest => do
    let (condition, range) ← (sharedColumns ranges found.range s).foldlM (fun (c, range) name => do
      let (t, range) ← mergeColumn ranges range name
      .ok (conjunction c t.expr, range)) (none, found.range)
    if s.natural && s.condition.isSome then .error .naturalWithCondition
    else do
      let condition ← match s.condition with
        | none => .ok condition
        | some t => do
          let t ← t.resolveAlone sub (site.within (.ofRanges (ranges ++ [range])))
          .ok (conjunction condition t.expr)
      let others ← resolveJoins sub site (ranges ++ [range]) rest
      .ok (⟨{ found.joined with condition }, range⟩ :: others)

structure Output where
  name : String
  given : Bool
  type : String
  typed : Typed

def Output.heading (o : Output) : Heading :=
  ⟨o.name, o.type, o.typed.affinity, o.typed.collation.map Prod.snd⟩

def Visible.output (v : Visible) : Output := ⟨v.heading.name, false, v.heading.type, v.typed 0⟩

def starOutputs (r : Range) : List Output :=
  (r.columns.filter fun v => !v.merged).map Visible.output

def columnOf? (site : Site) (t : Words) : Option Heading :=
  match t with
  | .column table name _ =>
    match site.find table name with
    | .ok (some (some v, _)) => some v.heading
    | _ => none
  | _ => none

def outputOf (site : Site) (t : Words) (label : Option String) (span : String) (typed : Typed) :
    Output :=
  match columnOf? site t with
  | some h => ⟨label.getD h.name, label.isSome, h.type, typed⟩
  | none => ⟨label.getD span, label.isSome, "", typed⟩

def resolveOutput (sub : Sub) (site : Site) (ranges : List Range) :
    ResultColumn Query → Resolving (List Output)
  | .star =>
    if ranges.isEmpty then fail .noTables else pure (ranges.flatMap starOutputs)
  | .tableStar table =>
    match ranges.filter fun r => sameName r.label table with
    | [] => fail (.noSuchTable table)
    | rs => pure (rs.flatMap fun r => r.columns.map Visible.output)
  | .term t label span => do
    let typed ← t.resolve sub site
    pure [outputOf site t label span typed]

def resolveOutputs (sub : Sub) (site : Site) (ranges : List Range) :
    List (ResultColumn Query) → Resolving (List Output)
  | [] => pure []
  | c :: rest => do
    let first ← resolveOutput sub site ranges c
    let others ← resolveOutputs sub site ranges rest
    pure (first ++ others)

def position? : Words → Option Int
  | .value (.int i) => some i.toInt
  | .unary .plus (.value (.int i)) => some i.toInt
  | _ => none

def columnAt (n : Nat) (clause : String) (width : Nat) (place : Int) : Except Fault Nat :=
  if 1 ≤ place ∧ place ≤ width then .ok (place.toNat - 1)
  else .error (.termOutOfRange n clause width)

def withoutCollation : Words → Words
  | .collate t _ => withoutCollation t
  | t => t

def askedCollation? : Words → Option Collation
  | .collate t name => (Collation.ofName? name) <|> askedCollation? t
  | _ => none

def aliasIndex? (outputs : List Output) (t : Words) : Option Nat :=
  match t with
  | .column none name _ => outputs.findIdx? fun o => o.given && sameName o.name name
  | _ => none

def sortColumn (o : OrderTerm Query) (index : Nat) (c : Collation) : SortColumn :=
  ⟨index, (askedCollation? o.term).getD c, o.descending, o.nullsFirst.getD (!o.descending)⟩

def resolveOrder (sub : Sub) (site : Site) (outputs : List Output) :
    Nat → List Typed → List (OrderTerm Query) → Resolving (List SortColumn × List Typed)
  | _, hidden, [] => pure ([], hidden)
  | n, hidden, o :: rest => do
    let bare := withoutCollation o.term
    let width := outputs.length
    let collationAt (i : Nat) : Collation :=
      ((outputs[i]?).map fun p => p.typed.collationOrBinary).getD .binary
    let (column, hidden) ← match aliasIndex? outputs bare, position? bare with
      | some i, _ => pure (sortColumn o i (collationAt i), hidden)
      | none, some place => do
        let i ← lift (columnAt n "ORDER" width place)
        pure (sortColumn o i (collationAt i), hidden)
      | none, none => do
        let t ← o.term.resolve sub site
        pure (sortColumn o (width + hidden.length) t.collationOrBinary, hidden ++ [t])
    let (columns, hidden) ← resolveOrder sub site outputs (n + 1) hidden rest
    pure (column :: columns, hidden)

def resolveGroup (sub : Sub) (site : Site) (outputs : List Output) :
    Nat → List Words → Except Fault (List (Collation × Formula))
  | _, [] => .ok []
  | n, t :: rest => do
    let key ← match position? (withoutCollation t) with
      | some place => do
        let i ← columnAt n "GROUP" outputs.length place
        match outputs[i]? with
        | some o =>
          if o.typed.aggregated then .error .aggregateInGroupBy else .ok o.typed
        | none => .error .aggregateInGroupBy
      | none => do
        let t ← (t.resolve sub
          { site with aggregates := .refused fun _ => .aggregateInGroupBy }).alone
        .ok t
    let keys ← resolveGroup sub site outputs (n + 1) rest
    .ok ((key.collationOrBinary, key.expr) :: keys)

structure Selected where
  stage : Stage Plan
  outputs : List Output
  order : List SortColumn

def optional (t : Option Words) (f : Words → Resolving Typed) : Resolving (Option Formula) :=
  match t with
  | none => pure none
  | some t => do
    let t ← f t
    pure (some t.expr)

def resolveValues (sub : Sub) (site : Site) (rows : List (List Words)) : Except Fault Selected := do
  let rows ← rows.mapM fun row =>
    (Term.resolveAll sub (site.within (.ofRanges [])).refuseAggregates row).alone
  let width := (rows.headD []).length
  if rows.any fun row => row.length ≠ width then .error .unevenValues
  else
    let outputs := (rows.headD []).zipIdx.map fun (t, n) =>
      (⟨"column" ++ Decimal.showNat (n + 1), false, "", { t with affinity := .unset }⟩ : Output)
    .ok ⟨.values (rows.map fun row => row.map Typed.expr), outputs, []⟩

def resolveCore (sub : Sub) (site : Site) (order : List (OrderTerm Query)) :
    Core Query → Except Fault Selected
  | .values rows => resolveValues sub site rows
  | .select distinct columns sources condition group having => do
    let origins ← resolveOrigins sub site [] 0 sources
    let sourced ← resolveJoins sub site [] (origins.zip sources)
    let ranges := sourced.map Sourced.range
    let width := total (sourced.map fun s => s.joined.width)
    let bare := { site with aggregates := .gathered width }.within (.ofRanges ranges)
    let (outputs, gathered) ← resolveOutputs sub bare ranges columns []
    let aliases := (outputs.filter Output.given).map fun o => (o.name, o.typed)
    let inner := { site with aggregates := .gathered width }.within ⟨ranges, aliases⟩
    let (having, gathered) ← optional having (Term.resolve sub inner) gathered
    let (condition, _) ← optional condition (Term.resolve sub inner.refuseAggregates) []
    let ((order, hidden), gathered) ← resolveOrder sub inner outputs 1 [] order gathered
    let keys ← resolveGroup sub inner outputs 1 group
    if having.isSome && gathered.isEmpty && keys.isEmpty then .error .havingWithoutAggregate
    else
      let grouping : Option (Grouping Plan) :=
        if gathered.isEmpty && keys.isEmpty then none else some ⟨keys, gathered, having⟩
      let exprs := (outputs.map fun o => o.typed.expr) ++ hidden.map Typed.expr
      .ok ⟨.select (sourced.map Sourced.joined) condition grouping exprs distinct, outputs, order⟩

def compoundColumn (all : List (List Output)) (n : Nat) (t : Words) : Except Fault Nat :=
  let width := (all.headD []).length
  match position? t, t with
  | some place, _ => columnAt n "ORDER" width place
  | none, .column none name _ =>
    match all.findSome? fun outputs => outputs.findIdx? fun o => sameName o.name name with
    | some i => .ok i
    | none => .error (.unmatchedTerm n)
  | none, _ => .error (.unmatchedTerm n)

def compoundOrder (all : List (List Output)) (collations : List Collation) :
    Nat → List (OrderTerm Query) → Except Fault (List SortColumn)
  | _, [] => .ok []
  | n, o :: rest => do
    let i ← compoundColumn all n (withoutCollation o.term)
    let others ← compoundOrder all collations (n + 1) rest
    .ok (sortColumn o i (collations[i]?.getD .binary) :: others)

def withCommons (site : Site) (commons : List (CommonTable Query)) : Site :=
  { site with commons := (commons.map fun c => (c.name, Meaning.query c.columns c.query)) ++
      site.commons }

def resolveRest (sub : Sub) (site : Site) (width : Nat) :
    List (Compound × Core Query) → Except Fault (List (Compound × Selected))
  | [] => .ok []
  | (op, c) :: rest => do
    let s ← resolveCore sub site [] c
    if s.outputs.length ≠ width then .error (.unevenCompound op.words)
    else do
      let others ← resolveRest sub site width rest
      .ok ((op, s) :: others)

def resolveBody (sub : Sub) (site : Site) (q : QueryOf Query) : Except Fault Resolved := do
  let site := (withCommons site q.commons).refuseAggregates
  let single := q.rest.isEmpty
  let limitSite := { site with frames := [⟨[], []⟩] }
  let (limit, _) ← optional q.limit (Term.resolve sub limitSite) []
  let (offset, _) ← optional q.offset (Term.resolve sub limitSite) []
  let first ← resolveCore sub site (if single then q.order else []) q.first
  let rest ← resolveRest sub site first.outputs.length q.rest
  let collations := first.outputs.map fun o => o.typed.collationOrBinary
  let order ← if single then .ok first.order
    else compoundOrder (first.outputs :: rest.map fun r => r.2.outputs) collations 1 q.order
  .ok ⟨.query ⟨first.outputs.length, collations, first.stage, rest.map fun (op, s) => (op, s.stage),
      order, limit, offset⟩, first.outputs.map Output.heading⟩

def resolveWithin : Nat → Sub
  | 0, _, _ => .error .tooDeep
  | depth + 1, site, .mk q => resolveBody (resolveWithin depth) site q

def resolveQuery : Sub := resolveWithin Plan.nesting

end Tabular.Sql
