import Tabular.Decimal.Reading
import Tabular.Decimal.Shortest
import Tabular.Text.Utf8

/-!
# SQL values

A value is of one of five kinds. Values of all kinds are ordered: nothing comes
first, then numbers, texts and blobs. A text that is not well-formed is kept as
its bytes.
-/

set_option autoImplicit false

namespace Tabular.Sql

inductive Value where
  | null
  | int (i : Int64)
  | real (x : Float)
  | text (s : String)
  | rawText (bytes : List UInt8)
  | blob (bytes : List UInt8)

namespace Value

instance : Inhabited Value := ⟨.null⟩

def isNull : Value → Bool
  | .null => true
  | _ => false

def isText : Value → Bool
  | .text _ | .rawText _ => true
  | _ => false

def isNumber : Value → Bool
  | .int _ | .real _ => true
  | _ => false

def typeName : Value → String
  | .null => "null"
  | .int _ => "integer"
  | .real _ => "real"
  | .text _ | .rawText _ => "text"
  | .blob _ => "blob"

def ofBool (b : Bool) : Value := .int (if b then 1 else 0)

def ofNat (n : Nat) : Value := .int (Int64.ofNat n)

def ofBytes (bytes : List UInt8) : Value :=
  match Text.Utf8.decode bytes with
  | .ok s => .text s
  | .error _ => .rawText bytes

def ofReal (x : Float) : Value := if x.isNaN then .null else .real x

def realLayout : Decimal.Layout := ⟨-4, 15, 2, true⟩

def realText (x : Float) : String :=
  if x.isInf then (if x < 0 then "-Inf" else "Inf")
  else if x == 0 then "0.0"
  else Decimal.signed x (Decimal.layout realLayout (Decimal.significant 15 x))

def bytes : Value → List UInt8
  | .null => []
  | .int i => Text.Utf8.encode (Decimal.showInt i.toInt)
  | .real x => Text.Utf8.encode (realText x)
  | .text s => Text.Utf8.encode s
  | .rawText bs => bs
  | .blob bs => bs

def shown : Value → String
  | .null => ""
  | .int i => Decimal.showInt i.toInt
  | .real x => realText x
  | .text s => s
  | .rawText bs => Text.Utf8.decodeLossy bs
  | .blob bs => Text.Utf8.decodeLossy bs

def toText : Value → Value
  | .null => .null
  | .int i => .text (Decimal.showInt i.toInt)
  | .real x => .text (realText x)
  | .text s => .text s
  | .rawText bs => .rawText bs
  | .blob bs => ofBytes bs

end Value

inductive Collation where
  | binary
  | noCase
  | rtrim
deriving DecidableEq

namespace Collation

def ofName? (name : String) : Option Collation :=
  match String.ofList (name.toList.map Char.toLower) with
  | "binary" => some .binary
  | "nocase" => some .noCase
  | "rtrim" => some .rtrim
  | _ => none

def name : Collation → String
  | .binary => "BINARY"
  | .noCase => "NOCASE"
  | .rtrim => "RTRIM"

def foldByte (b : UInt8) : UInt8 := if 65 ≤ b ∧ b ≤ 90 then b + 32 else b

def key : Collation → List UInt8 → List UInt8
  | .binary, bs => bs
  | .noCase, bs => bs.map foldByte
  | .rtrim, bs => (bs.reverse.dropWhile (· = 0x20)).reverse

end Collation

def compareBytes : List UInt8 → List UInt8 → Ordering
  | [], [] => .eq
  | [], _ :: _ => .lt
  | _ :: _, [] => .gt
  | a :: as, b :: bs => if a < b then .lt else if b < a then .gt else compareBytes as bs

def compareReals (x y : Float) : Ordering := if x < y then .lt else if y < x then .gt else .eq

def compareMixed (i : Int64) (x : Float) : Ordering :=
  if x.isNaN then .gt
  else if x < -9223372036854775808.0 then .gt
  else if 9223372036854775808.0 ≤ x then .lt
  else
    let y := x.toInt64
    if i < y then .lt else if y < i then .gt else compareReals i.toFloat x

namespace Value

def rank : Value → Nat
  | .null => 0
  | .int _ | .real _ => 1
  | .text _ | .rawText _ => 2
  | .blob _ => 3

def compare (c : Collation) (v w : Value) : Ordering :=
  match v, w with
  | .int i, .int j => if i < j then .lt else if j < i then .gt else .eq
  | .int i, .real y => compareMixed i y
  | .real x, .int j => (compareMixed j x).swap
  | .real x, .real y => compareReals x y
  | v, w =>
    if v.rank < w.rank then .lt
    else if w.rank < v.rank then .gt
    else if v.rank = 0 then .eq
    else if v.rank = 2 then compareBytes (c.key v.bytes) (c.key w.bytes)
    else compareBytes v.bytes w.bytes

def same (v w : Value) : Bool := compare .binary v w = .eq

end Value
end Tabular.Sql
