/-!
# Searching a text for a shorter one

Occurrences are looked for from the left and do not overlap.
-/

set_option autoImplicit false

namespace Tabular.Text

def after? : List Char → List Char → Option (List Char)
  | [], s => some s
  | _ :: _, [] => none
  | p :: ps, c :: s => if p = c then after? ps s else none

def cut? (sub : List Char) : List Char → Option (List Char × List Char)
  | [] => if sub = [] then some ([], []) else none
  | c :: s =>
    match after? sub (c :: s) with
    | some rest => some ([], rest)
    | none => (cut? sub s).map fun (before, rest) => (c :: before, rest)

def contains (sub s : List Char) : Bool := (cut? sub s).isSome

def removeFrom (sub : List Char) : Nat → List Char → List Char
  | _, [] => []
  | skip + 1, _ :: s => removeFrom sub skip s
  | 0, c :: s =>
    if sub.isPrefixOf (c :: s) then removeFrom sub (sub.length - 1) s
    else c :: removeFrom sub 0 s

def removeAll (sub s : List Char) : List Char := removeFrom sub 0 s

def splitAll (sep : Char) : List Char → List (List Char)
  | [] => [[]]
  | c :: s =>
    if c = sep then [] :: splitAll sep s
    else match splitAll sep s with
      | [] => [[c]]
      | part :: parts => (c :: part) :: parts

def doubled (c : Char) : List Char → List Char
  | [] => []
  | d :: s => if d = c then d :: d :: doubled c s else d :: doubled c s

end Tabular.Text
