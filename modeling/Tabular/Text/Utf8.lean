/-!
# UTF-8

Bytes are read as characters and as ill-formed pieces: a piece is the longest
beginning of a character that its next byte does not continue.
-/

set_option autoImplicit false

namespace Tabular.Text.Utf8

inductive Item where
  | char (c : Char)
  | wrong (width : Option Nat) (index : Nat)
deriving DecidableEq

def between (low high b : UInt8) : Bool := low ≤ b && b ≤ high

def continues (b : UInt8) : Bool := between 0x80 0xBF b

def secondOfThree (a b : UInt8) : Bool :=
  if a = 0xE0 then between 0xA0 0xBF b
  else if a = 0xED then between 0x80 0x9F b
  else continues b

def secondOfFour (a b : UInt8) : Bool :=
  if a = 0xF0 then between 0x90 0xBF b
  else if a = 0xF4 then between 0x80 0x8F b
  else continues b

def codePoint (first : Nat) (others : List UInt8) : Char :=
  Char.ofNat (others.foldl (fun n b => 64 * n + b.toNat % 64) first)

def scan (index : Nat) : List UInt8 → List Item
  | [] => []
  | a :: s =>
    if a < 0x80 then .char (Char.ofNat a.toNat) :: scan (index + 1) s
    else if between 0xC2 0xDF a then
      match s with
      | [] => [.wrong none index]
      | b :: t =>
        if continues b then .char (codePoint (a.toNat % 32) [b]) :: scan (index + 2) t
        else .wrong (some 1) index :: scan (index + 1) (b :: t)
    else if between 0xE0 0xEF a then
      match s with
      | [] => [.wrong none index]
      | b :: t =>
        if !secondOfThree a b then .wrong (some 1) index :: scan (index + 1) (b :: t)
        else match t with
          | [] => [.wrong none index]
          | c :: u =>
            if continues c then .char (codePoint (a.toNat % 16) [b, c]) :: scan (index + 3) u
            else .wrong (some 2) index :: scan (index + 2) (c :: u)
    else if between 0xF0 0xF4 a then
      match s with
      | [] => [.wrong none index]
      | b :: t =>
        if !secondOfFour a b then .wrong (some 1) index :: scan (index + 1) (b :: t)
        else match t with
          | [] => [.wrong none index]
          | c :: u =>
            if !continues c then .wrong (some 2) index :: scan (index + 2) (c :: u)
            else match u with
              | [] => [.wrong none index]
              | d :: v =>
                if continues d then
                  .char (codePoint (a.toNat % 8) [b, c, d]) :: scan (index + 4) v
                else .wrong (some 3) index :: scan (index + 3) (d :: v)
    else .wrong (some 1) index :: scan (index + 1) s

def characters : List Item → Except (Option Nat × Nat) (List Char)
  | [] => .ok []
  | .char c :: rest => (characters rest).map (c :: ·)
  | .wrong width index :: _ => .error (width, index)

def decode (bytes : List UInt8) : Except (Option Nat × Nat) String :=
  (characters (scan 0 bytes)).map String.ofList

def decodeLossy (bytes : List UInt8) : String :=
  String.ofList ((scan 0 bytes).map fun
    | .char c => c
    | .wrong .. => '\ufffd')

def encode (s : String) : List UInt8 := s.toUTF8.toList

end Tabular.Text.Utf8
