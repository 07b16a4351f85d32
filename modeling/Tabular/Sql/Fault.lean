import Tabular.Decimal.Basic

/-!
# Faults of SQL statements

Why a statement is refused when it is compiled, or fails when it runs. Every
fault has a result code and a message.
-/

set_option autoImplicit false

namespace Tabular.Sql

open Decimal (showNat)

inductive ObjectKind where
  | table
  | index
  | view
  | trigger
deriving DecidableEq

def ObjectKind.word : ObjectKind → String
  | .table => "table"
  | .index => "index"
  | .view => "view"
  | .trigger => "trigger"

def ordinal (n : Nat) : String :=
  let suffix :=
    if n % 100 / 10 = 1 then "th"
    else match n % 10 with
      | 1 => "st"
      | 2 => "nd"
      | 3 => "rd"
      | _ => "th"
  showNat n ++ suffix

inductive UniqueKind where
  | primary
  | rowid
  | other
deriving DecidableEq

inductive Fault where
  -- reading
  | near (token : String)
  | incomplete
  | badToken (token : String)
  | parameterNumber
  | tooManyParameters
  -- names and shapes
  | noSuchTable (name : String)
  | noSuchColumn (name : String)
  | noSuchQuotedColumn (name : String)
  | ambiguousColumn (name : String)
  | noSuchFunction (name : String)
  | argumentCount (function : String)
  | misusedAggregate (function : String)
  | nestedAggregate (function : String)
  | aliasedAggregate (name : String)
  | notAFunction (name : String)
  | circularView (name : String)
  | noSuchCollation (name : String)
  | noSuchObject (kind : ObjectKind) (name : String)
  | noSuchSavepoint (name : String)
  | noSuchDatabase (name : String)
  | tableLacksColumn (table column : String)
  | valuesForTable (table : String) (columns values : Nat)
  | valuesForColumns (values columns : Nat)
  | unevenValues
  | unevenCompound (operator : String)
  | subqueryWidth (found expected : Nat)
  | rowValueMisused
  | unmatchedTerm (position : Nat)
  | termOutOfRange (position : Nat) (clause : String) (width : Nat)
  | noTables
  | havingWithoutAggregate
  | aggregateInGroupBy
  | lateClause (clause operator : String)
  | circular (name : String)
  | recursiveTwice (name : String)
  | commonTableWidth (name : String) (values columns : Nat)
  | viewWidth (name : String) (columns values : Nat)
  | joinColumn (name : String)
  | naturalWithCondition
  | raiseOutsideTrigger
  | prohibited (thing place : String)
  | nonConstantDefault (column : String)
  -- definitions
  | alreadyExists (kind : ObjectKind) (name : String)
  | nameTaken (kind : ObjectKind) (name : String)
  | duplicateColumn (name : String)
  | twoPrimaryKeys (table : String)
  | autoincrementKey
  | autoincrementWithoutRowid
  | noPrimaryKey (table : String)
  | unknownOption (name : String)
  | missingType (table column : String)
  | unknownType (table column type : String)
  | unknownForeignColumn (name : String)
  | foreignColumnWidth (column table : String)
  | foreignWidth
  | reservedName (name : String)
  | wrongDrop (drop : ObjectKind) (name : String)
  | notAllowed (table action : String)
  | viewIndexed
  | viewModified (name : String)
  | constraintIndex
  | noConflictTarget
  | cannotAdd (what : String)
  | cannotDropColumn (kind column : String)
  | onlyColumn (column : String)
  | brokenDefinition (kind : ObjectKind) (name : String) (change : Option String)
      (problem : String)
  | anotherNamed (name : String)
  | viewColumns (view : String)
  | viewAltered (view : String)
  | lacksDefault
  | constantOnly
  | referenceDefault
  -- running
  | unique (columns : List String) (kind : UniqueKind)
  | notNull (table column : String)
  | check (name : String)
  | wrongType (kind type table column : String)
  | foreignKey
  | foreignKeyMismatch (child parent : String)
  | mismatch
  | integerOverflow
  | escapeLength
  | tooDeep
  | full
  | tooBig
  | readOnly
  | cannotOpen
  | notADatabase
  | noSuchSystem (name : String)
  | interrupted
  | raised (message : String)
  | nestedTransaction
  | noTransaction (verb : String)
  | vacuumInTransaction
deriving DecidableEq

def Fault.code : Fault → Nat
  | .unique _ .primary => 1555
  | .unique _ .rowid => 2579
  | .unique _ .other => 2067
  | .notNull .. => 1299
  | .check _ => 275
  | .wrongType .. => 3091
  | .foreignKey => 787
  | .mismatch => 20
  | .full => 13
  | .tooBig => 18
  | .readOnly => 8
  | .cannotOpen => 14
  | .notADatabase => 26
  | .interrupted => 9
  | _ => 1

def Fault.message : Fault → String
  | .near token => "near \"" ++ token ++ "\": syntax error"
  | .incomplete => "incomplete input"
  | .badToken token => "unrecognized token: \"" ++ token ++ "\""
  | .parameterNumber => "variable number must be between ?1 and ?32766"
  | .tooManyParameters => "too many SQL variables"
  | .noSuchTable name => "no such table: " ++ name
  | .noSuchColumn name => "no such column: " ++ name
  | .noSuchQuotedColumn name => "no such column: \"" ++ name ++ "\""
  | .ambiguousColumn name => "ambiguous column name: " ++ name
  | .noSuchFunction name => "no such function: " ++ name
  | .argumentCount function => "wrong number of arguments to function " ++ function ++ "()"
  | .misusedAggregate function => "misuse of aggregate: " ++ function ++ "()"
  | .nestedAggregate function => "misuse of aggregate function " ++ function ++ "()"
  | .aliasedAggregate name => "misuse of aliased aggregate " ++ name
  | .notAFunction name => "'" ++ name ++ "' is not a function"
  | .circularView name => "view " ++ name ++ " is circularly defined"
  | .noSuchCollation name => "no such collation sequence: " ++ name
  | .noSuchObject kind name => "no such " ++ kind.word ++ ": " ++ name
  | .noSuchSavepoint name => "no such savepoint: " ++ name
  | .noSuchDatabase name => "unknown database " ++ name
  | .tableLacksColumn table column => "table " ++ table ++ " has no column named " ++ column
  | .valuesForTable table columns values =>
    "table " ++ table ++ " has " ++ showNat columns ++ " columns but " ++ showNat values ++
      " values were supplied"
  | .valuesForColumns values columns =>
    showNat values ++ " values for " ++ showNat columns ++ " columns"
  | .unevenValues => "all VALUES must have the same number of terms"
  | .unevenCompound operator =>
    "SELECTs to the left and right of " ++ operator ++
      " do not have the same number of result columns"
  | .subqueryWidth found expected =>
    "sub-select returns " ++ showNat found ++ " columns - expected " ++ showNat expected
  | .rowValueMisused => "row value misused"
  | .unmatchedTerm position =>
    ordinal position ++ " ORDER BY term does not match any column in the result set"
  | .termOutOfRange position clause width =>
    ordinal position ++ " " ++ clause ++ " BY term out of range - should be between 1 and " ++
      showNat width
  | .noTables => "no tables specified"
  | .havingWithoutAggregate => "HAVING clause on a non-aggregate query"
  | .aggregateInGroupBy => "aggregate functions are not allowed in the GROUP BY clause"
  | .lateClause clause operator =>
    clause ++ " clause should come after " ++ operator ++ " not before"
  | .circular name => "circular reference: " ++ name
  | .recursiveTwice name => "multiple references to recursive table: " ++ name
  | .commonTableWidth name values columns =>
    "table " ++ name ++ " has " ++ showNat values ++ " values for " ++ showNat columns ++
      " columns"
  | .viewWidth name columns values =>
    "expected " ++ showNat columns ++ " columns for '" ++ name ++ "' but got " ++ showNat values
  | .joinColumn name =>
    "cannot join using column " ++ name ++ " - column not present in both tables"
  | .naturalWithCondition => "a NATURAL join may not have an ON or USING clause"
  | .raiseOutsideTrigger => "RAISE() may only be used within a trigger-program"
  | .prohibited thing place => thing ++ " prohibited in " ++ place
  | .nonConstantDefault column => "default value of column [" ++ column ++ "] is not constant"
  | .alreadyExists kind name => kind.word ++ " " ++ name ++ " already exists"
  | .nameTaken kind name =>
    "there is already " ++ (if kind = .index then "an " else "a ") ++ kind.word ++ " named " ++ name
  | .duplicateColumn name => "duplicate column name: " ++ name
  | .twoPrimaryKeys table => "table \"" ++ table ++ "\" has more than one primary key"
  | .autoincrementKey => "AUTOINCREMENT is only allowed on an INTEGER PRIMARY KEY"
  | .autoincrementWithoutRowid => "AUTOINCREMENT not allowed on WITHOUT ROWID tables"
  | .noPrimaryKey table => "PRIMARY KEY missing on table " ++ table
  | .unknownOption name => "unknown table option: " ++ name
  | .missingType table column => "missing datatype for " ++ table ++ "." ++ column
  | .unknownType table column type =>
    "unknown datatype for " ++ table ++ "." ++ column ++ ": \"" ++ type ++ "\""
  | .unknownForeignColumn name => "unknown column \"" ++ name ++ "\" in foreign key definition"
  | .foreignColumnWidth column table =>
    "foreign key on " ++ column ++ " should reference only one column of table " ++ table
  | .foreignWidth =>
    "number of columns in foreign key does not match the number of columns in the referenced table"
  | .reservedName name => "object name reserved for internal use: " ++ name
  | .wrongDrop drop name =>
    "use DROP " ++ drop.word.toUpper ++ " to delete " ++ drop.word ++ " " ++ name
  | .notAllowed table action => "table " ++ table ++ " may not be " ++ action
  | .viewIndexed => "views may not be indexed"
  | .viewModified name => "cannot modify " ++ name ++ " because it is a view"
  | .noConflictTarget =>
    "ON CONFLICT clause does not match any PRIMARY KEY or UNIQUE constraint"
  | .constraintIndex =>
    "index associated with UNIQUE or PRIMARY KEY constraint cannot be dropped"
  | .cannotAdd what => "Cannot add " ++ what
  | .cannotDropColumn kind column => "cannot drop " ++ kind ++ " column: \"" ++ column ++ "\""
  | .onlyColumn column => "cannot drop column \"" ++ column ++ "\": no other columns exist"
  | .brokenDefinition kind name change problem =>
    "error in " ++ kind.word ++ " " ++ name ++
      (match change with | some change => " after " ++ change | none => "") ++ ": " ++ problem
  | .anotherNamed name => "there is already another table or index with this name: " ++ name
  | .viewColumns view => "cannot rename columns of view \"" ++ view ++ "\""
  | .viewAltered view => "view " ++ view ++ " may not be altered"
  | .lacksDefault => "Cannot add a NOT NULL column with default value NULL"
  | .constantOnly => "Cannot add a column with non-constant default"
  | .referenceDefault => "Cannot add a REFERENCES column with non-NULL default value"
  | .unique columns _ => "UNIQUE constraint failed: " ++ ", ".intercalate columns
  | .notNull table column => "NOT NULL constraint failed: " ++ table ++ "." ++ column
  | .check name => "CHECK constraint failed: " ++ name
  | .wrongType kind type table column =>
    "cannot store " ++ kind ++ " value in " ++ type ++ " column " ++ table ++ "." ++ column
  | .foreignKey => "FOREIGN KEY constraint failed"
  | .foreignKeyMismatch child parent =>
    "foreign key mismatch - \"" ++ child ++ "\" referencing \"" ++ parent ++ "\""
  | .mismatch => "datatype mismatch"
  | .tooDeep => "Expression tree is too large (maximum depth 1000)"
  | .escapeLength => "ESCAPE expression must be a single character"
  | .integerOverflow => "integer overflow"
  | .full => "database or disk is full"
  | .tooBig => "string or blob too big"
  | .readOnly => "attempt to write a readonly database"
  | .cannotOpen => "unable to open database file"
  | .notADatabase => "file is not a database"
  | .noSuchSystem name => "no such vfs: " ++ name
  | .interrupted => "interrupted"
  | .raised message => message
  | .nestedTransaction => "cannot start a transaction within a transaction"
  | .noTransaction verb => "cannot " ++ verb ++ " - no transaction is active"
  | .vacuumInTransaction => "cannot VACUUM from within a transaction"

end Tabular.Sql
