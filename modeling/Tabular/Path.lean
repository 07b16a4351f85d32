import Tabular.Text.Blank
import Tabular.Text.Search

/-!
# Paths

A path is a text with slashes between its parts. Empty parts and parts that are
a single dot name nothing.
-/

set_option autoImplicit false

namespace Tabular.Path

def isAbsolute (path : List Char) : Bool := path.head? = some '/'

def parts (path : List Char) : List (List Char) :=
  (Text.splitAll '/' path).filter fun p => p ≠ [] ∧ p ≠ ['.']

def join (folder path : List Char) : List Char :=
  if isAbsolute path ∨ folder = [] then path
  else if folder.getLast? = some '/' then folder ++ path
  else folder ++ '/' :: path

def expand (home path : String) : String :=
  match Text.trim path.toList with
  | ['~'] => home
  | '~' :: '/' :: rest => String.ofList (join home.toList rest)
  | s => String.ofList s

def withoutExtension (name : List Char) : List Char :=
  let back := name.reverse
  match back.dropWhile (· ≠ '.') with
  | [] => name
  | _ :: front => if front = [] then name else front.reverse

def stem? (path : String) : Option String :=
  match (parts path.toList).getLast? with
  | none => none
  | some name =>
    if name = ['.', '.'] then none else some (String.ofList (withoutExtension name))

end Tabular.Path
