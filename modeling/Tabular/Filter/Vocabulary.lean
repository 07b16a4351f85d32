import Tabular.Filter.Basic
import Tabular.Json.Reader

/-!
# Filters written as JSON

An object is a group: its scalar members are conditions, its objects are groups,
and a member named `LOGIC` rebinds the combinator. Size, depth and number of
conditions are bounded.
-/

set_option autoImplicit false

namespace Tabular.Filter

def logicName : String := "LOGIC"

def byteLimit : Nat := 65536

def depthLimit : Nat := 16

def conditionLimit : Nat := 100

def scalarText? : Json → Option String
  | .text s => some s
  | .number n => some n.print
  | .bool b => some (if b then "true" else "false")
  | _ => none

def readMembers
    (nested : Nat → List (String × Json) → Except InputFault (Entries × Nat)) (count : Nat) :
    List (String × Json) → Except InputFault (Entries × Nat)
  | [] => .ok (.nil, count)
  | (name, v) :: rest =>
    if name = logicName then
      match v with
      | .text s => do
        let rebound ← Combinator.read s
        let (entries, count) ← readMembers nested count rest
        .ok (.logic rebound entries, count)
      | _ => .error .filterLogic
    else
      match v with
      | .object members => do
        let (inner, count) ← nested count members
        let (entries, count) ← readMembers nested count rest
        .ok (.node (.group none inner) entries, count)
      | v =>
        match scalarText? v with
        | none => .error (.filterValue name)
        | some value =>
          if conditionLimit ≤ count then .error (.filterTooMany conditionLimit)
          else do
            let (entries, count) ← readMembers nested (count + 1) rest
            .ok (.node (.leaf ⟨name, value⟩) entries, count)

def readGroup : Nat → Nat → List (String × Json) → Except InputFault (Entries × Nat)
  | 0, _, _ => .error (.filterTooDeep depthLimit)
  | levels + 1, count, members => readMembers (readGroup levels) count members

def ofJson : Json → Except InputFault Filter
  | .object members => (readGroup depthLimit 0 members).map fun r => .group none r.1
  | _ => .error .filterNotObject

def read (s : String) : Except InputFault Filter :=
  if byteLimit < s.utf8ByteSize then .error (.filterTooLong byteLimit)
  else if Text.blank s then .ok all
  else
    match Json.read s.toList with
    | .error e => .error (.filterText (e.message s.toList))
    | .ok v => ofJson v

end Tabular.Filter
