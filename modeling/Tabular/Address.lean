import Tabular.Error
import Tabular.Path
import Tabular.Text.Utf8

/-!
# Addresses of databases

An address names a file or a database in memory, after an optional scheme and
before optional parameters. Percent signs in the path stand for bytes.
-/

set_option autoImplicit false

namespace Tabular.Address

open Tabular.Text

inductive Place where
  | memory
  | file (path : String)
deriving DecidableEq

structure Target where
  place : Place
  readOnly : Bool
  system : Option String
deriving DecidableEq

def systems : List String := ["unix", "unix-dotfile", "unix-excl", "unix-none"]

def Target.unknownSystem? (t : Target) : Option String :=
  t.system.filter fun s => !systems.contains s

def withScheme (url : String) : String :=
  let s := trim url.toList
  if (after? "sqlite:".toList s).isSome then String.ofList s
  else "sqlite:" ++ String.ofList s

def withoutAll (lead : List Char) : Nat → List Char → List Char
  | 0, s => s
  | fuel + 1, s =>
    match after? lead s with
    | some rest => withoutAll lead fuel rest
    | none => s

def splitFirst (c : Char) (s : List Char) : List Char × Option (List Char) :=
  match cut? [c] s with
  | some (front, back) => (front, some back)
  | none => (s, none)

def percentDecoded : List Char → List UInt8
  | [] => []
  | '%' :: a :: b :: s =>
    match hexDigit? a, hexDigit? b with
    | some high, some low => UInt8.ofNat (16 * high + low) :: percentDecoded s
    | _, _ => 0x25 :: percentDecoded (a :: b :: s)
  | c :: s => Utf8.encode (String.ofList [c]) ++ percentDecoded s

def parameterText (s : List Char) : String :=
  Utf8.decodeLossy (percentDecoded (s.map fun c => if c = '+' then ' ' else c))

def parameters (s : List Char) : List (String × String) :=
  ((splitAll '&' s).filter (· ≠ [])).map fun p =>
    let (name, value) := splitFirst '=' p
    (parameterText name, parameterText (value.getD []))

structure Options where
  readOnly : Bool
  memory : Bool
  immutable : Bool
  system : Option String

def Options.plain : Options := ⟨false, false, false, none⟩

def applyParameter (o : Options) : String × String → Except AddressFault Options
  | ("mode", value) =>
    match value with
    | "ro" => .ok { o with readOnly := true }
    | "rw" | "rwc" => .ok o
    | "memory" => .ok { o with memory := true }
    | _ => .error (.unknownValue value "mode")
  | ("cache", value) =>
    if value = "private" ∨ value = "shared" then .ok o
    else .error (.unknownValue value "cache")
  | ("immutable", value) =>
    if value = "true" ∨ value = "1" then .ok { o with immutable := true }
    else if value = "false" ∨ value = "0" then .ok { o with immutable := false }
    else .error (.unknownValue value "immutable")
  | ("vfs", value) => .ok { o with system := some value }
  | (name, _) => .error (.unknownParameter name)

def applyParameters (o : Options) : List (String × String) → Except AddressFault Options
  | [] => .ok o
  | p :: rest => (applyParameter o p).bind fun o => applyParameters o rest

def filePath (path : List Char) : List Char :=
  match after? "file:".toList path with
  | none => path
  | some rest =>
    let rest := match after? "//".toList rest with
      | some authority => authority.dropWhile (· ≠ '/')
      | none => rest
    (Utf8.decodeLossy (percentDecoded (rest.takeWhile fun c => c ≠ '?' && c ≠ '#'))).toList

def placeOf (path : List Char) : Place :=
  if path = [] ∨ path = ":memory:".toList then .memory else .file (String.ofList path)

def decodedPath (path : List Char) : Except AddressFault (List Char) :=
  match Utf8.decode (percentDecoded path) with
  | .ok s => .ok s.toList
  | .error (width, index) => .error (.notUtf8 width index)

def target (url : String) : Except AddressFault Target := do
  let s := url.toList
  let s := withoutAll "sqlite:".toList s.length (withoutAll "sqlite://".toList s.length s)
  let (database, query) := splitFirst '?' s
  let path ← if database = ":memory:".toList then .ok database else decodedPath database
  let options ← applyParameters .plain (match query with | some q => parameters q | none => [])
  if path.contains '\x00' then .error .nulInPath
  else .ok ⟨if options.memory then .memory else placeOf (filePath path),
    options.readOnly || options.immutable, options.system⟩

def name? (url : String) : Option String :=
  let s := url.toList
  let rest := match after? "sqlite://".toList s with
    | some rest => rest
    | none => (after? "sqlite:".toList s).getD s
  let path := (splitFirst '?' rest).1
  if path = [] ∨ path = ":memory:".toList ∨ contains "mode=memory".toList s then none
  else Path.stem? (String.ofList path)

end Tabular.Address
