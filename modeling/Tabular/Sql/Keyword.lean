import Tabular.Sql.Token
import Tabular.Text.Search

/-!
# Words with a meaning

Some bare words are keywords. A reserved one is never a name; every other word is
a name wherever it has no meaning of its own.
-/

set_option autoImplicit false

namespace Tabular.Sql

def reservedWords : List String :=
  ["ADD", "ALL", "ALTER", "AND", "AS", "AUTOINCREMENT", "BETWEEN", "CASE", "CHECK", "COLLATE",
    "COMMIT", "CONSTRAINT", "CREATE", "DEFAULT", "DEFERRABLE", "DELETE", "DISTINCT", "DROP",
    "ELSE", "ESCAPE", "EXCEPT", "EXISTS", "FOREIGN", "FROM", "GROUP", "HAVING", "IN", "INDEX",
    "INSERT", "INTERSECT", "INTO", "IS", "ISNULL", "JOIN", "LIMIT", "NOT", "NOTHING", "NOTNULL",
    "NULL", "ON", "OR", "ORDER", "PRIMARY", "REFERENCES", "RETURNING", "SELECT", "SET", "TABLE",
    "THEN", "TO", "TRANSACTION", "UNION", "UNIQUE", "UPDATE", "USING", "VALUES", "WHEN", "WHERE"]

def joinWords : List String := ["CROSS", "FULL", "INNER", "LEFT", "NATURAL", "OUTER", "RIGHT"]

def softWords : List String :=
  ["ABORT", "ACTION", "AFTER", "ALWAYS", "ANALYZE", "ASC", "ATTACH", "BEFORE", "BEGIN", "BY",
    "CASCADE", "CAST", "COLUMN", "CONFLICT", "CURRENT", "CURRENT_DATE", "CURRENT_TIME",
    "CURRENT_TIMESTAMP", "DATABASE", "DEFERRED", "DESC", "DETACH", "DO", "EACH", "END",
    "EXCLUDE", "EXCLUSIVE", "EXPLAIN", "FAIL", "FILTER", "FIRST", "FOLLOWING", "FOR",
    "GENERATED", "GLOB", "GROUPS", "IF", "IGNORE", "IMMEDIATE", "INDEXED", "INITIALLY",
    "INSTEAD", "KEY", "LAST", "LIKE", "MATCH", "MATERIALIZED", "NO", "NULLS", "OF", "OFFSET",
    "OTHERS", "OVER", "PARTITION", "PLAN", "PRAGMA", "PRECEDING", "QUERY", "RAISE", "RANGE",
    "RECURSIVE", "REGEXP", "REINDEX", "RELEASE", "RENAME", "REPLACE", "RESTRICT", "ROLLBACK",
    "ROW", "ROWS", "SAVEPOINT", "TEMP", "TEMPORARY", "TIES", "TRIGGER", "UNBOUNDED", "VACUUM",
    "VIEW", "VIRTUAL", "WINDOW", "WITH", "WITHOUT"]

def nameText (name : String) : String :=
  let cs := name.toList
  let word := String.ofList (cs.map Char.toUpper)
  let plain := cs.all Lexer.isNameChar && !(cs.headD '0').isDigit &&
    !reservedWords.contains word && !joinWords.contains word && !softWords.contains word
  if plain then name
  else String.ofList ('"' :: Text.doubled '"' cs ++ ['"'])

def quotedName (name : String) : String :=
  String.ofList ('"' :: Text.doubled '"' name.toList ++ ['"'])

namespace Token

def key (t : Token) : String :=
  match t.lexeme with
  | .word => String.ofList (t.raw.map Char.toUpper)
  | .symbol => t.text
  | _ => ""

def is (t : Token) (key : String) : Bool := t.key = key

def isAny (t : Token) (keys : List String) : Bool := keys.contains t.key

def isWord (t : Token) : Bool := t.lexeme = .word

def name? (t : Token) (excluded : List String) : Option String :=
  match t.lexeme with
  | .name s _ => some s
  | .word => if excluded.contains t.key then none else some t.text
  | _ => none

def objectName? (t : Token) : Option String :=
  match t.lexeme with
  | .string s => some s
  | _ => t.name? reservedWords

def aliasName? (t : Token) : Option String :=
  match t.lexeme with
  | .string s => some s
  | _ => t.name? ("INDEXED" :: joinWords ++ reservedWords)

end Token
end Tabular.Sql
