import Tabular.Sql.Catalog
import Tabular.Sql.Plan

/-!
# Names in scope

A name is looked up in the sources of the innermost query first, then in those of
the queries around it.
-/

set_option autoImplicit false

namespace Tabular.Sql

structure Typed where
  expr : Formula
  affinity : Affinity
  collation : Option (Bool × Collation)
  aggregated : Bool

namespace Typed

def plain (e : Formula) : Typed := ⟨e, .unset, none, false⟩

def value (v : Value) : Typed := plain (.value v)

def collationOrBinary (t : Typed) : Collation := (t.collation.map Prod.snd).getD .binary

def commonCollation (l r : Typed) : Collation :=
  match l.collation, r.collation with
  | some (true, c), _ => c
  | _, some (true, c) => c
  | some (_, c), _ => c
  | none, some (_, c) => c
  | none, none => .binary

end Typed

structure Heading where
  name : String
  type : String
  affinity : Affinity
  collation : Option Collation

def Heading.ofColumn (c : Column) : Heading := ⟨c.name, c.type, c.affinity, some c.collation⟩

structure Visible where
  heading : Heading
  index : Nat
  merged : Bool

namespace Visible

def typed (v : Visible) (depth : Nat) : Typed :=
  ⟨.place ⟨depth, v.index⟩, v.heading.affinity, v.heading.collation.map fun c => (false, c), false⟩

end Visible

structure Range where
  label : String
  columns : List Visible
  rowid : Option Visible

structure Frame where
  ranges : List Range
  aliases : List (String × Typed)

def rowidNames : List String := ["_rowid_", "rowid", "oid"]

def isRowidName (name : String) : Bool := rowidNames.any (sameName name)

def isLabelled (table : Option String) (r : Range) : Bool :=
  match table with
  | some t => sameName r.label t
  | none => true

def dotted (table : Option String) (name : String) : String :=
  match table with
  | some t => t ++ "." ++ name
  | none => name

namespace Frame

def ofRanges (ranges : List Range) : Frame := ⟨ranges, []⟩

def columns (f : Frame) (table : Option String) (name : String) : List Visible :=
  let ranges := f.ranges.filter (isLabelled table)
  let hits := ranges.flatMap fun r => r.columns.filter fun v =>
    sameName v.heading.name name && !(v.merged && table.isNone)
  if hits.isEmpty && isRowidName name then ranges.filterMap Range.rowid else hits

def find (f : Frame) (depth : Nat) (table : Option String) (name : String) :
    Except Fault (Option (Option Visible × Typed)) :=
  match f.columns table name with
  | [v] => .ok (some (some v, v.typed depth))
  | [] =>
    if table.isNone then
      .ok ((f.aliases.find? fun a => sameName a.1 name).map fun a => (none, a.2))
    else .ok none
  | _ => .error (.ambiguousColumn (dotted table name))

end Frame

inductive Meaning where
  | query (columns : List String) (q : Query)
  | working (level : Nat) (headings : List Heading)
  | circular

inductive AggregateUse where
  | gathered (width : Nat)
  | refused (fault : String → Fault)

structure Site where
  catalog : Catalog
  frames : List Frame
  commons : List (String × Meaning)
  level : Nat
  views : List View
  aggregates : AggregateUse
  closed : Bool

namespace Site

def refuseAggregates (s : Site) : Site := { s with aggregates := .refused .misusedAggregate }

def ofCatalog (c : Catalog) : Site := ⟨c, [], [], 0, [], .refused .misusedAggregate, false⟩

def unreadable : Site := { ofCatalog .empty with closed := true }

def within (s : Site) (f : Frame) : Site := { s with frames := f :: s.frames }

def findIn (table : Option String) (name : String) :
    Nat → List Frame → Except Fault (Option (Option Visible × Typed))
  | _, [] => .ok none
  | depth, f :: rest => do
    match ← f.find depth table name with
    | some hit => .ok (some hit)
    | none => findIn table name (depth + 1) rest

def find (s : Site) (table : Option String) (name : String) :
    Except Fault (Option (Option Visible × Typed)) := findIn table name 0 s.frames

def common? (s : Site) (name : String) : Option Meaning :=
  (s.commons.find? fun c => sameName c.1 name).map Prod.snd

def setCommon (s : Site) (name : String) (m : Meaning) : Site :=
  { s with commons := (name, m) :: s.commons }

def column (s : Site) (table : Option String) (name : String) (quoting : Quoting) :
    Except Fault Typed := do
  match ← s.find table name with
  | some (_, t) =>
    match s.aggregates with
    | .refused _ => if t.aggregated then .error (.aliasedAggregate name) else .ok t
    | .gathered _ => .ok t
  | none =>
    if table.isSome then .error (.noSuchColumn (dotted table name))
    else if quoting = .double then .ok (.value (.text name))
    else if quoting = .bare ∧ sameName name "true" then .ok (.value (.int 1))
    else if quoting = .bare ∧ sameName name "false" then .ok (.value (.int 0))
    else .error (.noSuchColumn name)

end Site

structure Resolved where
  plan : Plan
  headings : List Heading

end Tabular.Sql
