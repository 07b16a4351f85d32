import Tabular.Record

/-!
# JSON values

Whole numbers are kept exactly, all other numbers as doubles. The members of an
object form a record: their order is kept and a repeated name has its last value.
-/

set_option autoImplicit false

namespace Tabular

inductive Json.Number where
  | int (i : Int)
  | real (x : Float)

inductive Json where
  | null
  | bool (b : Bool)
  | number (n : Json.Number)
  | text (s : String)
  | array (items : List Json)
  | object (members : List (String × Json))

namespace Json

instance : Inhabited Json := ⟨.null⟩

def int (i : Int) : Json := .number (.int i)

def nat (n : Nat) : Json := .number (.int n)

def real (x : Float) : Json := if x.isFinite then .number (.real x) else .null

end Json
end Tabular
