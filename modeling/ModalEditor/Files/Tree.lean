import ModalEditor.Text.Basic

/-! A tree of files with a working directory. A path is followed name by name, from the top or from
the working directory; all names but the last must be directories. -/

namespace ModalEditor

inductive FileError
  | notFound
  | notADirectory
  | isADirectory
  | permissionDenied
  | notText
  deriving DecidableEq, Repr

namespace FileError

def message : FileError → String
  | notFound => "No such file or directory (os error 2)"
  | notADirectory => "Not a directory (os error 20)"
  | isADirectory => "Is a directory (os error 21)"
  | permissionDenied => "Permission denied (os error 13)"
  | notText => "stream did not contain valid UTF-8"

end FileError

inductive FileEntry
  | file (bytes : ByteArray)
  | directory

abbrev Location := List String

/-- All entries below the top directory; the first one of a location counts. -/
structure FileTree where
  workingDirectory : Location
  entries : List (Location × FileEntry)
  /-- Where nothing may be written, be there a file or not. -/
  locked : List Location

namespace FileTree

def get? (t : FileTree) (l : Location) : Option FileEntry :=
  if l.isEmpty then some .directory else t.entries.lookup l

def erase (t : FileTree) (l : Location) : FileTree :=
  { t with entries := t.entries.filter (·.1 ≠ l) }

def set (t : FileTree) (l : Location) (e : FileEntry) : FileTree :=
  { t with entries := (l, e) :: (t.erase l).entries }

def namesFrom (name : Text) : Text → List String
  | [] => [.ofList name]
  | c :: cs => if c = '/' then .ofList name :: namesFrom [] cs else namesFrom (name ++ [c]) cs

def namesOf (path : String) : List String :=
  namesFrom [] path.toList

def startOf (t : FileTree) (path : String) : Location :=
  if path.toList.head? = some '/' then [] else t.workingDirectory

def enter (here : Location) (name : String) : Location :=
  if name = "" ∨ name = "." then here
  else if name = ".." then here.dropLast
  else here ++ [name]

def follow (t : FileTree) (here : Location) : List String → Except FileError Location
  | [] => .ok here
  | name :: rest =>
    match t.get? here with
    | none => .error .notFound
    | some (.file _) => .error .notADirectory
    | some .directory => t.follow (enter here name) rest

def resolve (t : FileTree) (path : String) : Except FileError Location :=
  if path.isEmpty then .error .notFound else t.follow (t.startOf path) (namesOf path)

def read (t : FileTree) (path : String) : Except FileError ByteArray := do
  match t.get? (← t.resolve path) with
  | none => .error .notFound
  | some .directory => .error .isADirectory
  | some (.file bytes) => .ok bytes

def readText (t : FileTree) (path : String) : Except FileError Text := do
  match (← t.read path).utf8Decode? with
  | some cs => .ok cs.toList
  | none => .error .notText

def write (t : FileTree) (path : String) (bytes : ByteArray) : Except FileError FileTree := do
  let l ← t.resolve path
  match t.get? l with
  | some .directory => .error .isADirectory
  | _ => if l ∈ t.locked then .error .permissionDenied else .ok (t.set l (.file bytes))

def writeText (t : FileTree) (path : String) (text : Text) : Except FileError FileTree :=
  t.write path (String.ofList text).toUTF8

def exists? (t : FileTree) (path : String) : Bool :=
  match t.resolve path with
  | .ok l => (t.get? l).isSome
  | .error _ => false

def addDirectories (t : FileTree) (here : Location) : List String → FileTree
  | [] => t
  | name :: rest =>
    let l := here ++ [name]
    let t := if (t.get? l).isSome then t else t.set l .directory
    t.addDirectories l rest

def empty (workingDirectory : Location) : FileTree :=
  addDirectories ⟨workingDirectory, [], []⟩ [] workingDirectory

/-- Puts an entry at a path, with all directories on the way. Nothing replaces a directory. -/
def place (t : FileTree) (path : String) (e : FileEntry) : FileTree :=
  let l := (namesOf path).foldl enter (t.startOf path)
  let t := t.addDirectories [] l.dropLast
  match t.get? l with
  | some .directory => t
  | _ => t.set l e

def listing (t : FileTree) : List (Location × FileEntry) :=
  (t.entries.filter fun e => t.workingDirectory.isPrefixOf e.1 && e.1 ≠ t.workingDirectory).map
    fun e => (e.1.drop t.workingDirectory.length, e.2)

def removeFile (t : FileTree) (path : String) : FileTree :=
  match t.resolve path with
  | .error _ => t
  | .ok l =>
    match t.get? l with
    | some (.file _) => t.erase l
    | _ => t

def fileName (path : String) : String :=
  (namesOf path).getLastD path

end FileTree

end ModalEditor
