import Tabular.Sql.Fault
import Tabular.Sql.Number
import Tabular.Sql.Pattern
import Tabular.Sql.Rows
import Tabular.Text.Hex

/-!
# Functions

The functions of single values, and those that make one value of many.
-/

set_option autoImplicit false

namespace Tabular.Sql

open Tabular.Text

inductive Scalar where
  | abs
  | changes
  | char
  | coalesce
  | concat
  | currentDate
  | currentTime
  | currentTimestamp
  | glob
  | hex
  | instr
  | lastInsertId
  | length
  | like
  | lower
  | trim (left right : Bool)
  | greatest
  | least
  | nullif
  | octetLength
  | quote
  | replace
  | round
  | sign
  | substr
  | totalChanges
  | typeOf
  | unicode
  | upper
  | version
  | zeroBlob
deriving DecidableEq

structure Counters where
  changes : Nat
  totalChanges : Nat
  lastId : Int64
deriving DecidableEq

namespace Scalar

def ofName? (name : String) : Option (Scalar × Nat × Nat) :=
  let many := 127
  match String.ofList (name.toList.map Char.toLower) with
  | "abs" => some (.abs, 1, 1)
  | "changes" => some (.changes, 0, 0)
  | "char" => some (.char, 0, many)
  | "coalesce" => some (.coalesce, 2, many)
  | "concat" => some (.concat, 1, many)
  | "current_date" => some (.currentDate, 0, 0)
  | "current_time" => some (.currentTime, 0, 0)
  | "current_timestamp" => some (.currentTimestamp, 0, 0)
  | "glob" => some (.glob, 2, 2)
  | "hex" => some (.hex, 1, 1)
  | "ifnull" => some (.coalesce, 2, 2)
  | "instr" => some (.instr, 2, 2)
  | "last_insert_rowid" => some (.lastInsertId, 0, 0)
  | "length" => some (.length, 1, 1)
  | "like" => some (.like, 2, 3)
  | "lower" => some (.lower, 1, 1)
  | "ltrim" => some (.trim true false, 1, 2)
  | "max" => some (.greatest, 2, many)
  | "min" => some (.least, 2, many)
  | "nullif" => some (.nullif, 2, 2)
  | "octet_length" => some (.octetLength, 1, 1)
  | "quote" => some (.quote, 1, 1)
  | "replace" => some (.replace, 3, 3)
  | "round" => some (.round, 1, 2)
  | "rtrim" => some (.trim false true, 1, 2)
  | "sign" => some (.sign, 1, 1)
  | "sqlite_version" => some (.version, 0, 0)
  | "substr" | "substring" => some (.substr, 2, 3)
  | "total_changes" => some (.totalChanges, 0, 0)
  | "trim" => some (.trim true true, 1, 2)
  | "typeof" => some (.typeOf, 1, 1)
  | "unicode" => some (.unicode, 1, 1)
  | "upper" => some (.upper, 1, 1)
  | "zeroblob" => some (.zeroBlob, 1, 1)
  | _ => none

def roundReal (x : Float) (places : Nat) : Float :=
  if x.isFinite ∧ x.abs < 4503599627370496.0 then
    let v := (Decimal.binary x).value
    let n := (2 * v.num * Nat.pow 10 places + v.den) / (2 * v.den)
    let y := Decimal.nearest n (-places)
    if x < 0 then -y else y
  else x

def quoted (v : Value) : String :=
  match v with
  | .null => "NULL"
  | .blob bs => "X'" ++ (hexBytes bs).toUpper ++ "'"
  | .text _ | .rawText _ =>
    String.ofList ('\'' :: doubled '\'' (v.chars.takeWhile (· ≠ '\x00')) ++ ['\''])
  | .real x =>
    if x.isInf then (if x < 0 then "-9.0e+999" else "9.0e+999") else v.shown
  | v => v.shown

def slice {α : Type} (s : List α) (start : Int) (count : Option Int) : List α :=
  let n : Int := s.length
  let count := count.getD (n + start.natAbs + 1)
  let (start, count) :=
    if start < 0 then
      let first := start + n
      if first < 0 then (0, if count < 0 then count else max 0 (count + first)) else (first, count)
    else if 0 < start then (start - 1, count)
    else (0, if 0 < count then count - 1 else count)
  let (start, count) :=
    if count < 0 then (max 0 (start + count), min (-count) start) else (start, count)
  (s.drop start.toNat).take count.toNat

def placeOf {α : Type} [BEq α] (sub : List α) : List α → Nat → Nat
  | [], n => if sub.isEmpty then n else 0
  | c :: s, n => if sub.isPrefixOf (c :: s) then n else placeOf sub s (n + 1)

def replaced (sub new : List Char) : Nat → List Char → List Char
  | _, [] => []
  | skip + 1, _ :: s => replaced sub new skip s
  | 0, c :: s =>
    if sub.isPrefixOf (c :: s) then new ++ replaced sub new (sub.length - 1) s
    else c :: replaced sub new 0 s

def extreme (wanted : Ordering) (c : Collation) : List Value → Value
  | [] => .null
  | v :: vs => vs.foldl (fun best w => if Value.compare c w best = wanted then w else best) v

def ofChars (cs : List Char) : Value := .text (String.ofList cs)

def charOf (n : Int) : Char :=
  if 0 ≤ n ∧ n.toNat.isValidChar then Char.ofNat n.toNat else '\ufffd'

def likeValue (pattern text : Value) (escape : Option Char) : Value :=
  if pattern.isNull || text.isNull then .null
  else .ofBool (Pattern.like escape pattern.chars text.chars)

def apply (f : Scalar) (counters : Counters) (c : Collation) (args : List Value) :
    Except Fault Value :=
  match f, args with
  | .abs, [.null] => .ok .null
  | .abs, [.int i] => if i = Int64.minValue then .error .integerOverflow else .ok (.int i.abs)
  | .abs, [v] => .ok (.ofReal v.toReal.abs)
  | .changes, _ => .ok (.ofNat counters.changes)
  | .totalChanges, _ => .ok (.ofNat counters.totalChanges)
  | .lastInsertId, _ => .ok (.int counters.lastId)
  | .char, vs => .ok (ofChars (vs.map fun v => charOf v.toInt.toInt))
  | .coalesce, vs => .ok ((vs.find? fun v => !v.isNull).getD .null)
  | .concat, vs => .ok (.text (String.join (vs.map Value.shown)))
  | .currentDate, _ => .ok (.text "1970-01-01")
  | .currentTime, _ => .ok (.text "00:00:00")
  | .currentTimestamp, _ => .ok (.text "1970-01-01 00:00:00")
  | .glob, [p, v] =>
    if p.isNull || v.isNull then .ok .null
    else .ok (.ofBool (Pattern.glob (p.chars.length + 1) p.chars v.chars))
  | .hex, [v] => .ok (.text (hexBytes v.bytes).toUpper)
  | .instr, [v, w] =>
    match v, w with
    | .null, _ | _, .null => .ok .null
    | .blob a, .blob b => .ok (.ofNat (placeOf b a 1))
    | v, w => .ok (.ofNat (placeOf w.chars v.chars 1))
  | .length, [v] =>
    match v with
    | .null => .ok .null
    | .blob bs => .ok (.ofNat bs.length)
    | v => .ok (.ofNat (v.chars.takeWhile (· ≠ '\x00')).length)
  | .octetLength, [v] => .ok (if v.isNull then .null else .ofNat v.bytes.length)
  | .like, [p, v] => .ok (likeValue p v none)
  | .like, [p, v, e] =>
    match e, e.chars with
    | .null, _ => .ok .null
    | _, [c] => .ok (likeValue p v (some c))
    | _, _ => .error .escapeLength
  | .lower, [v] => .ok (if v.isNull then .null else ofChars (v.chars.map Char.toLower))
  | .upper, [v] => .ok (if v.isNull then .null else ofChars (v.chars.map Char.toUpper))
  | .trim left right, v :: rest =>
    match v, rest with
    | .null, _ | _, [.null] => .ok .null
    | v, rest =>
      let set := match rest with
        | w :: _ => w.chars
        | [] => [' ']
      let cut (cs : List Char) : List Char := cs.dropWhile set.contains
      let cs := if left then cut v.chars else v.chars
      .ok (ofChars (if right then (cut cs.reverse).reverse else cs))
  | .greatest, vs => .ok (if vs.any Value.isNull then .null else extreme .gt c vs)
  | .least, vs => .ok (if vs.any Value.isNull then .null else extreme .lt c vs)
  | .nullif, [v, w] => .ok (if !w.isNull && Value.compare c v w = .eq then .null else v)
  | .quote, [v] => .ok (.text (quoted v))
  | .replace, [v, a, b] =>
    if v.isNull || a.isNull || b.isNull then .ok .null
    else if a.chars = [] then .ok v.toText
    else .ok (ofChars (replaced a.chars b.chars 0 v.chars))
  | .round, v :: rest =>
    match v, rest with
    | .null, _ | _, [.null] => .ok .null
    | v, rest =>
      let places := match rest with
        | w :: _ => min 30 w.toInt.toInt.toNat
        | [] => 0
      .ok (.ofReal (roundReal v.toReal places))
  | .sign, [v] =>
    match v with
    | .int i => .ok (.int (if i < 0 then -1 else if 0 < i then 1 else 0))
    | .real x => .ok (.int (if x < 0 then -1 else if 0 < x then 1 else 0))
    | v =>
      if v.isText ∧ v.numeral.complete then
        let x := v.toReal
        .ok (.int (if x < 0 then -1 else if 0 < x then 1 else 0))
      else .ok .null
  | .substr, v :: w :: rest =>
    if v.isNull || w.isNull || rest.any Value.isNull then .ok .null
    else
      let count := rest.head?.map fun u => u.toInt.toInt
      match v with
      | .blob bs => .ok (.blob (slice bs w.toInt.toInt count))
      | v => .ok (ofChars (slice v.chars w.toInt.toInt count))
  | .typeOf, [v] => .ok (.text v.typeName)
  | .unicode, [v] =>
    match v.chars with
    | c :: _ => .ok (.ofNat c.toNat)
    | [] => .ok .null
  | .version, _ => .ok (.text "3.46.0")
  | .zeroBlob, [v] => .ok (.blob (List.replicate (min 1000000 v.toInt.toInt.toNat) 0))
  | _, _ => .ok .null

end Scalar

inductive Aggregate where
  | countRows
  | count
  | sum
  | total
  | average
  | least
  | greatest
  | join
deriving DecidableEq

namespace Aggregate

def ofName? (name : String) (arguments : Nat) : Option Aggregate :=
  match String.ofList (name.toList.map Char.toLower), arguments with
  | "count", 0 => some .countRows
  | "count", 1 => some .count
  | "sum", 1 => some .sum
  | "total", 1 => some .total
  | "avg", 1 => some .average
  | "min", 1 => some .least
  | "max", 1 => some .greatest
  | "group_concat", 1 | "group_concat", 2 | "string_agg", 2 => some .join
  | _, _ => none

def isName (name : String) : Bool :=
  ["count", "sum", "total", "avg", "group_concat", "string_agg"].contains
    (String.ofList (name.toList.map Char.toLower))

def addTo (acc : Float × Float) (x : Float) : Float × Float :=
  let (s, lost) := acc
  let t := s + x
  (t, lost + (if x.abs < s.abs then (s - t) + x else (x - t) + s))

def sumReal (vs : List Value) : Float :=
  let (s, lost) := vs.foldl (fun acc v => addTo acc v.toReal) (0, 0)
  if lost.isNaN then s else s + lost

def sumInt : Int → List Value → Except Fault Value
  | acc, [] => .ok (.int (Int64.ofInt acc))
  | acc, v :: vs =>
    let next := acc + v.toInt.toInt
    if next < Decimal.leastInt ∨ Decimal.mostInt < next then .error .integerOverflow
    else sumInt next vs

def isWhole (v : Value) : Bool :=
  match v with
  | .int _ => true
  | v => v.isText && v.numeral.complete && v.numeral.integral && v.numeral.toInt?.isSome

def joined : List (Value × Value) → List Char
  | [] => []
  | (v, _) :: rest => v.chars ++ rest.flatMap fun (w, separator) => separator.chars ++ w.chars

def apply (f : Aggregate) (c : Collation) (rows : List Row) : Except Fault Value :=
  let firsts := (rows.map fun r => r.headD .null).filter fun v => !v.isNull
  match f with
  | .countRows => .ok (.ofNat rows.length)
  | .count => .ok (.ofNat firsts.length)
  | .sum =>
    if firsts.isEmpty then .ok .null
    else if firsts.all isWhole then sumInt 0 firsts
    else .ok (.ofReal (sumReal firsts))
  | .total => .ok (.ofReal (sumReal firsts))
  | .average =>
    if firsts.isEmpty then .ok .null
    else .ok (.ofReal (sumReal firsts / Float.ofNat firsts.length))
  | .least => .ok (Scalar.extreme .lt c firsts)
  | .greatest => .ok (Scalar.extreme .gt c firsts)
  | .join =>
    if firsts.isEmpty then .ok .null
    else
      let pairs := (rows.filter fun r => !(r.headD .null).isNull).map fun r =>
        (r.headD .null, (r.drop 1).headD (.text ","))
      .ok (Scalar.ofChars (joined pairs))

end Aggregate
end Tabular.Sql
