import SiteSpiders.Json.Printer
import SiteSpiders.Storage.Fault
import SiteSpiders.Text.Divide
import SiteSpiders.Text.Utf8

/-!
# Records on disk

Records are appended, one line each, to the file of their collection. The disk is a
tree of directories and files below a working directory.
-/
namespace SiteSpiders.Storage

/-- A place on disk, from the outermost directory. -/
abbrev Location := List String

/-- A disk: its directories and its files with their contents. -/
structure Disk where
  directories : List Location := [["."]]
  files : List (Location × String) := []
  deriving Repr, Inhabited

/-- The working directory, one level below the outermost one. -/
def workingDirectory : Location := ["."]

/-- The longest name of a file in bytes. -/
def longestName : Nat := 255

namespace Disk

def isDirectory (d : Disk) (l : Location) : Bool := l.isEmpty || d.directories.contains l

def content? (d : Disk) (l : Location) : Option String := d.files.lookup l

/-- One step of the way to a place. -/
def enter (d : Disk) (at_ : Location) (name : String) : Except FileFault Location :=
  if name = ".." then .ok at_.dropLast
  else if longestName < Text.utf8Length name then .error .nameTooLong
  else
    let next := at_ ++ [name]
    if d.isDirectory next then .ok next
    else if (d.content? next).isSome then .error .notDirectory
    else .error .missing

/-- The directory at the end of a way. -/
def walk (d : Disk) (at_ : Location) : List String → Except FileFault Location
  | [] => .ok at_
  | name :: rest => do
    let next ← d.enter at_ name
    d.walk next rest

/-- The steps of a written path. -/
def steps (path : String) : List String :=
  (Text.divideText '/' path).filter fun s => s != "" && s != "."

def origin (path : String) : Location :=
  if ['/'].isPrefixOf path.toList then [] else workingDirectory

def makeDirectory (d : Disk) (at_ : Location) (way : List String) : Except FileFault Disk := do
  let parent ← d.walk at_ way.dropLast
  match way.getLast? with
  | none => .error .exists_
  | some name =>
    if name = ".." then .error .exists_
    else if longestName < Text.utf8Length name then .error .nameTooLong
    else
      let place := parent ++ [name]
      if d.isDirectory place || (d.content? place).isSome then .error .exists_
      else .ok { d with directories := d.directories ++ [place] }

/-- Makes a directory unless it is there. -/
def ensureDirectory (d : Disk) (at_ : Location) (way : List String) : Except FileFault Disk :=
  match d.makeDirectory at_ way with
  | .ok made => .ok made
  | .error fault =>
    if fault = .exists_ then
      match d.walk at_ way with
      | .ok _ => .ok d
      | .error _ => .error fault
    else .error fault

/-- Makes a directory with all those above it that are missing. `way` is the way in reverse. -/
def ensureWay (d : Disk) (at_ : Location) : List String → Except FileFault Disk
  | [] => .ok d
  | last :: before =>
    match d.ensureDirectory at_ (last :: before).reverse with
    | .ok made => .ok made
    | .error fault =>
      if fault = .missing then do
        let made ← d.ensureWay at_ before
        made.ensureDirectory at_ (last :: before).reverse
      else .error fault

/-- Makes the directory of a written path with all those above it that are missing. -/
def ensurePath (d : Disk) (path : String) : Except FileFault Disk :=
  if path.toList.contains (Char.ofNat 0) then .error .nulByte
  else d.ensureWay (origin path) (steps path).reverse

/-- Adds a text to the end of a file, made if it is not there. -/
def extend (d : Disk) (place : Location) (text : String) : Disk :=
  match d.content? place with
  | some _ => { d with
      files := d.files.map fun f => if f.1 = place then (place, f.2 ++ text) else f }
  | none => { d with files := d.files ++ [(place, text)] }

/-- Adds a text to the end of the file of a written path. -/
def append (d : Disk) (path : String) (text : String) : Except FileFault Disk := do
  if path.toList.contains (Char.ofNat 0) then .error .nulByte
  let way := steps path
  let parent ← d.walk (origin path) way.dropLast
  match way.getLast? with
  | none => .error .isDirectory
  | some name =>
    let place := parent ++ [name]
    if name = ".." || d.isDirectory place then .error .isDirectory
    else if longestName < Text.utf8Length name then .error .nameTooLong
    else .ok (d.extend place text)

/-- The lines of a text, each with its line feed; the last may lack it. -/
def splitLines (current : List Char) : List Char → List (List Char)
  | [] => if current.isEmpty then [] else [current.reverse]
  | c :: rest =>
    if c = '\n' then (c :: current).reverse :: splitLines [] rest
    else splitLines (c :: current) rest

/-- The lines of a text, each with its line feed. -/
def linesOf (text : String) : List String := (splitLines [] text.toList).map String.ofList

/-- The files below the working directory, with their lines. -/
def listing (d : Disk) : List (String × List String) :=
  d.files.filterMap fun (place, text) =>
    match place with
    | "." :: rest => some (String.intercalate "/" rest, linesOf text)
    | _ => none

end Disk

structure Item where
  url : Url
  /-- When it was found; crawls by the virtual clock leave a mark here. -/
  timestamp : String := "T"
  data : Json
  metadata : Option Json := none

/-- The line of a record, without its line feed. -/
def Item.text (i : Item) : String :=
  (Json.object [("url", .string i.url.text), ("timestamp", .string i.timestamp),
    ("data", i.data), ("metadata", i.metadata.getD .null)]).compact

def Item.line (i : Item) : String := i.text ++ "\n"

/-- The path of a collection's file below a base directory. -/
def collectionPath (base collection : String) : String :=
  let file := collection ++ ".jsonl"
  if ['/'].isPrefixOf file.toList then file
  else if base = "" || base.toList.getLast? == some '/' then base ++ file
  else base ++ "/" ++ file

/-- A directory that records are kept under. `fails` is asked with the number of a call, and a
call that fails by it writes nothing. -/
structure Output where
  disk : Disk := {}
  base : String := ""
  fails : Nat → Bool := fun _ => false
  calls : Nat := 0
  deriving Inhabited

/-- Opens a base directory on a disk, making it if it is not there. -/
def Output.create (disk : Disk) (base : String) : Except StorageFault Output :=
  match disk.ensurePath base with
  | .ok disk => .ok { disk, base }
  | .error fault => .error (.file fault)

/-- Keeps a record in a collection. -/
def Output.store (o : Output) (item : Item) (collection : String) :
    Except StorageFault Unit × Output :=
  let counted := { o with calls := o.calls + 1 }
  if o.fails o.calls then (.error .refused, counted)
  else match o.disk.append (collectionPath o.base collection) item.line with
    | .ok disk => (.ok (), { counted with disk })
    | .error fault => (.error (.file fault), counted)

end SiteSpiders.Storage
