import Tabular.Text.Search

/-!
# Identifiers in statement text

Plain names can stand in a statement as they are; any other name is quoted, with
each backtick in it written twice.
-/

set_option autoImplicit false

namespace Tabular.Identifier

def isLetter (c : Char) : Bool := ('A' ≤ c && c ≤ 'Z') || ('a' ≤ c && c ≤ 'z') || c = '_'

def isDigit (c : Char) : Bool := '0' ≤ c && c ≤ '9'

def isPlain (name : String) : Bool :=
  match name.toList with
  | [] => false
  | c :: cs => isLetter c && cs.all fun d => isLetter d || isDigit d

def quotedChars (name : List Char) : List Char := '`' :: Text.doubled '`' name ++ ['`']

def quote (name : String) : String := String.ofList (quotedChars name.toList)

end Tabular.Identifier
