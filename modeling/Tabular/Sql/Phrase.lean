import Tabular.Sql.Value
import Tabular.Sql.Fault

/-!
# Phrases of SQL

What a statement says, before the names in it are given a meaning. Terms do not
depend on how the queries inside them are written, so `Q` stands for a query.
-/

set_option autoImplicit false

namespace Tabular.Sql

inductive UnaryOp where
  | negate
  | plus
  | complement
  | not
  | isNull
  | notNull
deriving DecidableEq

inductive BinaryOp where
  | or
  | and
  | equal
  | notEqual
  | is
  | isNot
  | less
  | atMost
  | greater
  | atLeast
  | bitAnd
  | bitOr
  | shiftLeft
  | shiftRight
  | add
  | subtract
  | multiply
  | divide
  | remainder
  | concat
deriving DecidableEq

def BinaryOp.isComparison : BinaryOp → Bool
  | .equal | .notEqual | .is | .isNot | .less | .atMost | .greater | .atLeast => true
  | _ => false

structure ObjectName where
  schema : Option String
  name : String
  written : String
deriving DecidableEq

inductive Quoting where
  | bare
  | double
  | other
deriving DecidableEq

inductive Term (Q : Type) where
  | value (v : Value)
  | parameter (number : Nat)
  | column (table : Option String) (name : String) (quoting : Quoting)
  | unary (op : UnaryOp) (t : Term Q)
  | binary (op : BinaryOp) (l r : Term Q)
  | inList (negated : Bool) (t : Term Q) (items : List (Term Q))
  | inQuery (negated : Bool) (t : Term Q) (q : Q)
  | exists (q : Q)
  | scalar (q : Q)
  | choice (condition yes no : Term Q)
  | cast (t : Term Q) (type : String)
  | collate (t : Term Q) (collation : String)
  | call (function : String) (distinct : Bool) (arguments : List (Term Q))
  | callStar (function : String)
  | row (items : List (Term Q))

inductive ResultColumn (Q : Type) where
  | star
  | tableStar (table : String)
  | term (t : Term Q) (label : Option String) (span : String)

inductive Origin (Q : Type) where
  | named (table : ObjectName)
  | query (q : Q)
  | function (name : String) (arguments : List (Term Q))

inductive JoinKind where
  | inner
  | left
  | right
  | full
deriving DecidableEq

structure Source (Q : Type) where
  origin : Origin Q
  label : Option String
  kind : JoinKind
  natural : Bool
  condition : Option (Term Q)
  shared : List String

inductive Core (Q : Type) where
  | select (distinct : Bool) (columns : List (ResultColumn Q)) (sources : List (Source Q))
      (condition : Option (Term Q)) (group : List (Term Q)) (having : Option (Term Q))
  | values (rows : List (List (Term Q)))

inductive Compound where
  | union
  | unionAll
  | intersect
  | except
deriving DecidableEq

def Compound.words : Compound → String
  | .union => "UNION"
  | .unionAll => "UNION ALL"
  | .intersect => "INTERSECT"
  | .except => "EXCEPT"

structure OrderTerm (Q : Type) where
  term : Term Q
  descending : Bool
  nullsFirst : Option Bool

structure CommonTable (Q : Type) where
  name : String
  columns : List String
  query : Q

structure QueryOf (Q : Type) where
  recursive : Bool
  commons : List (CommonTable Q)
  first : Core Q
  rest : List (Compound × Core Q)
  order : List (OrderTerm Q)
  limit : Option (Term Q)
  offset : Option (Term Q)

inductive Query where
  | mk (body : QueryOf Query)

inductive Conflict where
  | rollback
  | abort
  | fail
  | ignore
  | replace
deriving DecidableEq

abbrev Words := Term Query

inductive Consequence where
  | noAction
  | restrict
  | setNull
  | setDefault
  | cascade
deriving DecidableEq

structure Reference where
  table : String
  columns : List String
  onDelete : Consequence
  onUpdate : Consequence
  deferred : Bool
deriving DecidableEq

inductive ColumnRule where
  | nullable
  | notNull (conflict : Option Conflict)
  | default (t : Words) (span : String)
  | primaryKey (descending autoincrement : Bool) (conflict : Option Conflict)
  | unique (conflict : Option Conflict)
  | check (name : Option String) (t : Words) (span : String)
  | references (r : Reference)
  | collate (collation : String)

structure ColumnDefinition where
  name : String
  type : String
  rules : List ColumnRule

structure IndexedTerm where
  term : Words
  descending : Bool

inductive TableRule where
  | primaryKey (terms : List IndexedTerm) (autoincrement : Bool) (conflict : Option Conflict)
  | unique (terms : List IndexedTerm) (conflict : Option Conflict)
  | check (name : Option String) (t : Words) (span : String)
  | foreignKey (columns : List String) (r : Reference)

structure TableDefinition where
  columns : List ColumnDefinition
  rules : List TableRule
  withoutRowid : Bool
  strict : Bool

abbrev Assignment := String × Words

structure Upsert where
  target : List String
  assignments : List Assignment
  condition : Option Words

structure Insertion where
  table : ObjectName
  label : Option String
  conflict : Option Conflict
  columns : List String
  query : Option Query
  upserts : List Upsert
  returning : List (ResultColumn Query)

structure Update where
  table : ObjectName
  label : Option String
  conflict : Option Conflict
  assignments : List Assignment
  sources : List (Source Query)
  condition : Option Words
  returning : List (ResultColumn Query)

structure Deletion where
  table : ObjectName
  label : Option String
  condition : Option Words
  returning : List (ResultColumn Query)

inductive Alteration where
  | renameTable (new : String)
  | renameColumn (old new : String) (quoted : Bool)
  | addColumn (column : ColumnDefinition) (written : String)
  | dropColumn (column : String)

inductive Instruction where
  | query (q : Query)
  | insert (i : Insertion)
  | update (commons : List (CommonTable Query)) (u : Update)
  | delete (commons : List (CommonTable Query)) (d : Deletion)
  | createTable (temporary lenient : Bool) (name : ObjectName) (body : TableDefinition)
      (written : String)
  | createTableAs (temporary lenient : Bool) (name : ObjectName) (q : Query)
  | createIndex (unique lenient : Bool) (name : ObjectName) (table : String)
      (terms : List IndexedTerm) (condition : Option Words) (written : String)
  | createView (temporary lenient : Bool) (name : ObjectName) (columns : List String) (q : Query)
      (written : String)
  | drop (kind : ObjectKind) (lenient : Bool) (name : ObjectName)
  | alter (table : ObjectName) (change : Alteration)
  | begin
  | commit
  | rollback
  | savepoint (name : String)
  | release (name : String)
  | rollbackTo (name : String)
  | pragma (name : String) (argument : Option String)
  | maintain
  | vacuum

end Tabular.Sql
