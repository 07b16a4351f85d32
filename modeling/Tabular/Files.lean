import Tabular.Path

/-!
# Files

Folders, texts and stored data under paths. Relative paths start at the current
folder; a path is followed part by part, and each part it passes is a folder.
-/

set_option autoImplicit false

namespace Tabular

inductive Files.Entry (α : Type) where
  | folder
  | text (content : String)
  | data (content : α)

structure Files (α : Type) where
  home : String
  current : List String
  entries : List (List String × Files.Entry α)

namespace Files

variable {α : Type}

abbrev Place := List String

def names (path : String) : List String := (Path.parts path.toList).map String.ofList

def Entry.isFolder : Entry α → Bool
  | .folder => true
  | _ => false

def lookup (entries : List (Place × Entry α)) (place : Place) : Option (Entry α) :=
  (entries.find? fun e => e.1 = place).map Prod.snd

def at? (files : Files α) (place : Place) : Option (Entry α) :=
  if place = [] then some .folder else lookup files.entries place

def isFolder (files : Files α) (place : Place) : Bool :=
  match files.at? place with
  | some e => e.isFolder
  | none => false

def put (files : Files α) (place : Place) (e : Entry α) : Files α :=
  { files with entries := (place, e) :: files.entries.filter fun f => f.1 ≠ place }

def putFolder (files : Files α) (place : Place) : Files α :=
  (List.range place.length).foldl (fun files n =>
    let around := place.take (n + 1)
    if (files.at? around).isSome then files else files.put around .folder) files

def start (path : String) (current : Place) : Place :=
  if Path.isAbsolute path.toList then [] else current

def nameLimit : Nat := 255

def walk (files : Files α) : Place → List String → Option Place
  | here, [] => some here
  | here, name :: rest =>
    if !files.isFolder here ∨ nameLimit < name.utf8ByteSize then none
    else if name = ".." then walk files here.dropLast rest
    else walk files (here ++ [name]) rest

def endsAsFolder (path : String) : Bool :=
  match (Text.splitAll '/' path.toList).reverse with
  | last :: _ :: _ => last = [] ∨ last = ['.']
  | _ => false

def find? (files : Files α) (path : String) : Option (Entry α) :=
  if path.isEmpty then none
  else
    match (files.walk (start path files.current) (names path)).bind files.at? with
    | some e => if endsAsFolder path && !e.isFolder then none else some e
    | none => none

def placeByText (files : Files α) (path : String) : Place :=
  (names path).foldl (fun here name => if name = ".." then here.dropLast else here ++ [name])
    (start path files.current)

def admits (files : Files α) (place : Place) : Bool :=
  place.all (fun name => name.utf8ByteSize ≤ nameLimit) && files.isFolder place.dropLast

end Files
end Tabular
