import Tabular.Sql.Token
import Tabular.Sql.Fault

/-!
# Parameters

The parameters of a statement are numbered from one. A bare question mark takes the
next number, one with digits says its own, and a name keeps the number it got first.
-/

set_option autoImplicit false

namespace Tabular.Sql

structure Parameters where
  count : Nat
  written : List (String × Nat)
deriving DecidableEq

namespace Parameters

def empty : Parameters := ⟨0, []⟩

def limit : Nat := 32766

def add (ps : Parameters) (raw : List Char) : Except Fault (Nat × Parameters) :=
  let name := String.ofList raw
  match raw with
  | ['?'] =>
    let n := ps.count + 1
    if limit < n then .error .tooManyParameters else .ok (n, ⟨n, ps.written⟩)
  | '?' :: digits =>
    let n := Decimal.natOf 0 digits
    if n = 0 ∨ limit < n then .error .parameterNumber
    else .ok (n, ⟨max n ps.count, ps.written ++ [(name, n)]⟩)
  | _ =>
    match ps.written.find? fun w => w.1 = name with
    | some (_, n) => .ok (n, ps)
    | none =>
      let n := ps.count + 1
      .ok (n, ⟨n, ps.written ++ [(name, n)]⟩)

def name? (ps : Parameters) (n : Nat) : Option String :=
  (ps.written.find? fun w => w.2 = n).map Prod.fst

def number (ps : Parameters) : List Token → Except Fault (List Token × Parameters)
  | [] => .ok ([], ps)
  | t :: rest =>
    match t.lexeme with
    | .parameter _ => do
      let (n, ps) ← ps.add t.raw
      let (rest, ps) ← number ps rest
      .ok ({ t with lexeme := .parameter n } :: rest, ps)
    | _ =>
      if t.lexeme = .symbol ∧ t.raw = [';'] then .ok (t :: rest, ps)
      else do
        let (rest, ps) ← number ps rest
        .ok (t :: rest, ps)

end Parameters
end Tabular.Sql
