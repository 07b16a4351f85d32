import Tabular.Decimal.Reading
import Tabular.Text.Hex

/-!
# Tokens of SQL text

A text is cut into tokens from the left, each as long as its kind admits. Blanks
and comments stand in front of the token that follows them, so that the tokens
with what stands in front of them make up the text.
-/

set_option autoImplicit false

namespace Tabular.Sql

inductive Lexeme where
  | word
  | name (s : String) (double : Bool)
  | string (s : String)
  | blob (bytes : List UInt8)
  | integer
  | float
  /-- A parameter with its number, which is 0 before the parameters are counted. -/
  | parameter (number : Nat)
  | symbol
  | illegal
  | finish
deriving DecidableEq

structure Token where
  lead : List Char
  raw : List Char
  lexeme : Lexeme
deriving DecidableEq

namespace Token

def text (t : Token) : String := String.ofList t.raw

instance : Inhabited Token := ⟨⟨[], [], .finish⟩⟩

end Token

namespace Lexer

open Tabular.Decimal Tabular.Text

def isBlank (c : Char) : Bool := c = ' ' || c = '\t' || c = '\n' || c = '\x0c' || c = '\r'

def isNameChar (c : Char) : Bool := c.isAlphanum || c = '_' || c = '$' || 0x80 ≤ c.toNat

def afterBlock : List Char → List Char
  | [] => []
  | '*' :: '/' :: s => s
  | _ :: s => afterBlock s

def leading : Nat → List Char → List Char → List Char × List Char
  | 0, lead, s => (lead.reverse, s)
  | fuel + 1, lead, s =>
    match s with
    | '-' :: '-' :: r =>
      let comment := r.takeWhile (· ≠ '\n')
      leading fuel (comment.reverse ++ '-' :: '-' :: lead) (r.dropWhile (· ≠ '\n'))
    | '/' :: '*' :: c :: r =>
      let rest := afterBlock (c :: r)
      let comment := s.take (s.length - rest.length)
      leading fuel (comment.reverse ++ lead) rest
    | '\ufeff' :: r => leading fuel ('\ufeff' :: lead) r
    | c :: r =>
      if isBlank c || (c.toNat = 11 && (lead.head?.map isBlank).getD false) then
        leading fuel (c :: lead) r
      else (lead.reverse, s)
    | [] => (lead.reverse, [])

def quoted (q : Char) : List Char → Option (List Char × List Char)
  | [] => none
  | c :: s =>
    if c = q then
      match s with
      | d :: r => if d = q then (quoted q r).map fun (cs, rest) => (q :: cs, rest) else some ([], s)
      | [] => some ([], [])
    else (quoted q s).map fun (cs, rest) => (c :: cs, rest)

def symbols : List (List Char) :=
  ["->>", "->", "<=", "<>", "<<", ">=", ">>", "==", "!=", "||", "(", ")", ";", "+", "-", "*", "/",
    "%", "=", "<", ">", "|", ",", "&", "~", "."].map String.toList

def isDigitPart (c : Char) : Bool := isDigit c || c = '_'

def wellSeparated : List Char → Bool
  | '_' :: _ => false
  | [] => true
  | c :: '_' :: d :: s => isDigit c && isDigit d && wellSeparated (d :: s)
  | [_, '_'] => false
  | _ :: s => wellSeparated s

def powerPart (s : List Char) : List Char :=
  match s with
  | e :: r =>
    if e = 'e' ∨ e = 'E' then
      let (sign, ds) := match r with
        | '+' :: ds => (['+'], ds)
        | '-' :: ds => (['-'], ds)
        | ds => ([], ds)
      match ds with
      | d :: _ => if isDigit d then e :: sign ++ ds.takeWhile isDigitPart else []
      | [] => []
    else []
  | [] => []

def number (s : List Char) : List Char × Lexeme × Bool :=
  match s with
  | '0' :: x :: d :: r =>
    if (x = 'x' ∨ x = 'X') ∧ (hexDigit? d).isSome then
      let ds := (d :: r).takeWhile fun c => (hexDigit? c).isSome || c = '_'
      ('0' :: x :: ds, .integer, wellSeparated (ds.map fun c => if c = '_' then '_' else '0'))
    else decimal s
  | _ => decimal s
where
  decimal (s : List Char) : List Char × Lexeme × Bool :=
    let front := s.takeWhile isDigitPart
    let back := match s.dropWhile isDigitPart with
      | '.' :: r => '.' :: r.takeWhile isDigitPart
      | _ => []
    let power := powerPart (s.drop (front.length + back.length))
    let ok := wellSeparated front && wellSeparated (back.drop 1) &&
      wellSeparated (power.dropWhile fun c => !isDigit c)
    (front ++ back ++ power, if back = [] ∧ power = [] then .integer else .float, ok)

def numberToken (s : List Char) : List Char × Lexeme :=
  let (cs, lexeme, ok) := number s
  let extra := (s.drop cs.length).takeWhile isNameChar
  if extra = [] then (cs, if ok then lexeme else .illegal) else (cs ++ extra, .illegal)

def namedParameter : Nat → Nat → List Char → List Char → List Char × Lexeme
  | 0, _, acc, _ => (acc.reverse, .illegal)
  | fuel + 1, n, acc, s =>
    let done : List Char × Lexeme := (acc.reverse, if n = 0 then .illegal else .parameter 0)
    match s with
    | ':' :: ':' :: r => namedParameter fuel n (':' :: ':' :: acc) r
    | '(' :: r =>
      if n = 0 then done
      else
        let inner := r.takeWhile fun c => !(isBlank c || c.toNat = 11) && c ≠ ')'
        match r.drop inner.length with
        | ')' :: _ => (acc.reverse ++ '(' :: inner ++ [')'], .parameter 0)
        | _ => (acc.reverse ++ '(' :: inner, .illegal)
    | c :: r => if isNameChar c then namedParameter fuel (n + 1) (c :: acc) r else done
    | [] => done

def blobToken (s : List Char) : List Char × Lexeme :=
  let digits := s.takeWhile fun c => (hexDigit? c).isSome
  match s.drop digits.length, bytesOfHex? digits with
  | '\'' :: _, some bytes => (digits ++ ['\''], .blob bytes)
  | _, _ =>
    let body := s.takeWhile (· ≠ '\'')
    (body ++ (if body.length < s.length then ['\''] else []), .illegal)

def token (s : List Char) : List Char × Lexeme :=
  match s with
  | [] => ([], .finish)
  | c :: r =>
    let between (make : String → Lexeme) : List Char × Lexeme :=
      match quoted c r with
      | some (cs, rest) => (s.take (s.length - rest.length), make (String.ofList cs))
      | none => (s, .illegal)
    if c.toNat = 0 then ([], .finish)
    else if c = '\'' then between .string
    else if c = '"' then between fun n => .name n true
    else if c = '\x60' then between fun n => .name n false
    else if c = '[' then
      let body := r.takeWhile (· ≠ ']')
      if body.length < r.length then ('[' :: body ++ [']'], .name (String.ofList body) false)
      else (s, .illegal)
    else if isDigit c || (c = '.' && (r.head?.map isDigit).getD false) then numberToken s
    else if c = '?' then ('?' :: r.takeWhile isDigit, .parameter 0)
    else if c = '$' || c = '@' || c = ':' || c = '#' then namedParameter (r.length + 1) 0 [c] r
    else if (c = 'x' || c = 'X') && r.head? = some '\'' then
      let (cs, lexeme) := blobToken (r.drop 1)
      (c :: '\'' :: cs, lexeme)
    else if isNameChar c then (s.takeWhile isNameChar, .word)
    else
      match symbols.find? fun sym => sym.isPrefixOf s with
      | some sym => (sym, .symbol)
      | none => ([c], .illegal)

def tokens : Nat → List Char → List Token
  | 0, s => [⟨s, [], .finish⟩]
  | fuel + 1, s =>
    let (lead, s) := leading (s.length + 1) [] s
    let (raw, lexeme) := token s
    let t : Token := ⟨lead, raw, lexeme⟩
    if lexeme = .finish ∨ lexeme = .illegal then [t] else t :: tokens fuel (s.drop raw.length)

end Lexer

def tokensOf (s : String) : List Token := Lexer.tokens (s.length + 1) s.toList

def spanText (ts : List Token) (next : Token) : String :=
  let s := (match ts with
    | [] => []
    | t :: rest => t.raw ++ rest.flatMap fun u => u.lead ++ u.raw) ++ next.lead
  let isGap (c : Char) : Bool := Lexer.isBlank c || c.toNat = 11
  String.ofList (((s.dropWhile isGap).reverse.dropWhile isGap).reverse)

end Tabular.Sql
