import Tabular.CommandLine.Argument

/-!
# Reading a command line

Options come before or after the command they belong to, and among its other
arguments. A value given as an argument of its own is judged only when the next
argument calls for it, so an unknown option is complained of first.
-/

set_option autoImplicit false

namespace Tabular.CommandLine

abbrev Variables := List (String × String)

def lookup? (vars : Variables) (name : String) : Option String :=
  (vars.find? fun v => v.1 = name).map Prod.snd

structure Level where
  options : List Argument
  versioned : Bool

structure Progress where
  given : List (String × Value)
  pending : Option (Argument × List String)
  /-- The arguments that stand by their place and are still to come. -/
  toCome : List Argument
  trailing : Bool

namespace Progress

def start (places : List Argument) : Progress := ⟨[], none, places, false⟩

def has (p : Progress) (a : Argument) : Bool := p.given.any fun g => g.1 = a.label

def readAll (a : Argument) : List String → Except CommandFault (List (String × Value))
  | [] => .ok []
  | s :: rest => do
    let v ← a.read s
    let others ← readAll a rest
    .ok ((a.label, v) :: others)

def take (p : Progress) (a : Argument) (values : List String) : Except CommandFault Progress :=
  if values.isEmpty then .error (.notAValue a.usage "")
  else if !a.many && p.has a then .error (.twice a.usage)
  else (readAll a values).map fun vs => { p with given := p.given ++ vs }

def resolve (p : Progress) : Except CommandFault Progress :=
  match p.pending with
  | none => .ok p
  | some (a, values) => { p with pending := none }.take a values

def awaits (p : Progress) : Bool :=
  match p.pending with
  | some (a, []) => a.isOption
  | _ => false

def takeOption (p : Progress) (a : Argument) (attached : Option String) :
    Except CommandFault Progress := do
  let p ← p.resolve
  match attached with
  | some value => p.take a [value]
  | none => .ok { p with pending := some (a, []) }

end Progress

def longOption (level : Level) (p : Progress) (s : List Char) : Except CommandFault Progress :=
  let (name, value) := match Text.cut? ['='] s with
    | some (name, value) => (String.ofList name, some (String.ofList value))
    | none => (String.ofList s, none)
  match level.options.find? fun a => a.long = some name with
  | some a => p.takeOption a value
  | none =>
    if name = "help" ∨ (name = "version" ∧ level.versioned) then
      match value with
      | some value => .error (.surplus ("--" ++ name) value)
      | none => p.resolve.bind fun _ => .error (if name = "help" then .help else .version)
    else .error (.unknownArgument ("--" ++ name))

def shortOption (level : Level) (p : Progress) (c : Char) (rest : List Char) :
    Except CommandFault Progress :=
  match level.options.find? fun a => a.short = some c with
  | some a =>
    p.takeOption a (match rest with
      | [] => none
      | '=' :: value => some (String.ofList value)
      | value => some (String.ofList value))
  | none =>
    if c = 'h' then p.resolve.bind fun _ => .error .help
    else if c = 'V' ∧ level.versioned then p.resolve.bind fun _ => .error .version
    else .error (.unknownArgument (String.ofList ['-', c]))

def placed (p : Progress) (s : String) : Except CommandFault Progress :=
  match p.toCome with
  | [] => .error (.unknownArgument s)
  | a :: rest =>
    match p.pending with
    | some (b, values) =>
      if a.many ∧ a = b then .ok { p with pending := some (b, values ++ [s]) }
      else p.resolve.map fun p =>
        { p with pending := some (a, [s]), toCome := if a.many then a :: rest else rest }
    | none =>
      .ok { p with pending := some (a, [s]), toCome := if a.many then a :: rest else rest }

def step (level : Level) (p : Progress) (s : String) : Except CommandFault Progress :=
  if p.trailing then placed p s
  else
    match s.toList with
    | ['-', '-'] => .ok { p with trailing := true }
    | '-' :: '-' :: rest => longOption level p rest
    | '-' :: c :: rest => shortOption level p c rest
    | _ =>
      match p.pending with
      | some (a, []) => .ok { p with pending := some (a, [s]) }
      | _ => placed p s

def steps (level : Level) (p : Progress) : List String → Except CommandFault Progress
  | [] => p.resolve
  | s :: rest => (step level p s).bind fun p => steps level p rest

def fromVariables (vars : Variables) (p : Progress) :
    List (Argument × String) → Except CommandFault (List (String × Value))
  | [] => .ok []
  | (a, name) :: rest =>
    match lookup? vars name with
    | some s =>
      if p.has a then fromVariables vars p rest
      else do
        let v ← a.read s
        let others ← fromVariables vars p rest
        .ok ((a.label, v) :: others)
    | none => fromVariables vars p rest

def textAt (given : List (String × Value)) (label : String) : Option String :=
  given.findSome? fun
    | (l, .text s) => if l = label then some s else none
    | _ => none

def wholeAt (given : List (String × Value)) (label : String) : Option Int :=
  given.findSome? fun
    | (l, .whole i) => if l = label then some i else none
    | _ => none

def truthAt (given : List (String × Value)) (label : String) : Option Bool :=
  given.findSome? fun
    | (l, .truth b) => if l = label then some b else none
    | _ => none

def fieldsOf (given : List (String × Value)) : List Field :=
  given.filterMap fun
    | (_, .field f) => some f
    | _ => none

def sortKeysOf (given : List (String × Value)) : List SortKey :=
  given.filterMap fun
    | (_, .sortKey k) => some k
    | _ => none

def textsAt (given : List (String × Value)) (label : String) : List String :=
  given.filterMap fun
    | (l, .text s) => if l = label then some s else none
    | _ => none

def overridesOf (given : List (String × Value)) : Config.Overrides :=
  ⟨textAt given "DATABASE_URL", textAt given "CONFIG",
    (wholeAt given "STATEMENT_TIMEOUT").map Int.toNat, truthAt given "SCHEMA_CACHE"⟩

def commandOf (f : Form) (given : List (String × Value)) : Command :=
  let table := (textAt given "TABLE").getD ""
  let id := Int64.ofInt ((wholeAt given "ID").getD 0)
  match f.name with
  | "exists" => .hasTable table
  | "columns" => .columns table
  | "get" => .get table id
  | "list" =>
    .list table (textAt given "FILTER") (sortKeysOf given) (textsAt given "SELECT")
      ((wholeAt given "LIMIT").getD 0).toNat
  | "add" => .add table (fieldsOf given)
  | "update" => .update table id (fieldsOf given)
  | "delete" => .delete table id
  | "query" => .query ((textAt given "SQL").getD "")
  | _ => .tables

def settingOptions : List Argument := settings.map Prod.fst

def readForm (vars : Variables) (f : Form) (args : List String) :
    Except CommandFault (List (String × Value) × List (String × Value)) := do
  let p ← steps ⟨f.options ++ settingOptions, false⟩ (.start f.places) args
  let fallback ← fromVariables vars p settings
  match f.places.filter fun a => !p.has a with
  | [] => .ok (p.given, fallback)
  | missing => .error (.missing (missing.map Argument.usage))

def helpOn : List String → CommandFault
  | [] => .help
  | [name] => if name = "help" ∨ (form? name).isSome then .help else .unknownCommand
  | _ => .unknownCommand

def strayFault (p : Progress) (s : String) : CommandFault :=
  if p.trailing ∧ (s = "help" ∨ (form? s).isSome) then .unknownArgument s else .unknownCommand

def outerLevel : Level := ⟨settingOptions, true⟩

def withoutCommand (vars : Variables) (p : Progress) : CommandFault :=
  match p.resolve.bind fun p => (fromVariables vars p settings).map fun vs => p.given ++ vs with
  | .error e => e
  | .ok given => if given.isEmpty then .nothing else .noCommand

def withCommand (vars : Variables) (p : Progress) (f : Form) (args : List String) :
    Except CommandFault Invocation := do
  let (given, fallback) ← readForm vars f args
  let p ← p.resolve
  let outerFallback ← fromVariables vars p settings
  let all := given ++ p.given ++ fallback ++ outerFallback
  .ok ⟨commandOf f given, overridesOf all⟩

def readFrom (vars : Variables) : Progress → List String → Except CommandFault Invocation
  | p, [] => .error (withoutCommand vars p)
  | p, s :: rest =>
    let isCommand := !p.trailing && !p.awaits
    if isCommand && s = "help" then .error (helpOn rest)
    else
      match (if isCommand then form? s else none) with
      | some f => withCommand vars p f rest
      | none =>
        if p.trailing || (!s.startsWith "-" || s = "-") && !p.awaits then .error (strayFault p s)
        else (step outerLevel p s).bind fun p => readFrom vars p rest

def read (vars : Variables) (args : List String) : Except CommandFault Invocation :=
  readFrom vars (.start []) args

end Tabular.CommandLine
