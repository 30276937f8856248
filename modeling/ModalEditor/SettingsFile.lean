import ModalEditor.Files.Tree
import ModalEditor.Settings
import ModalEditor.Toml.Document

/-! The settings file. It is a TOML document with a section for the command line and one for the
cursor; what is absent keeps its standard value, and what is not known is passed over. A section may
also be an array, which gives the values in a fixed order. A file that cannot be used as a whole is
not used at all. -/

namespace ModalEditor.SettingsFile

open Toml

def text? : Value → Option String
  | .string t => some (.ofList t)
  | _ => none

def truth? : Value → Option Bool
  | .boolean b => some b
  | _ => none

def field? {α : Type} (read? : Value → Option α) (standard : α) : Option Value → Option α
  | none => some standard
  | some v => read? v

def fieldsOf? (names : List String) : Option Value → Option (List (Option Value))
  | none => some (names.map fun _ => none)
  | some (.table _ es) =>
    if entriesBounded (es.filter fun e => .ofList e.1 ∉ names) then
      some (names.map fun name => Entries.get? es name.toList)
    else none
  | some (.array _ items) => some ((List.range names.length).map (items[·]?))
  | some (.datetime _) => some (names.map fun _ => none)
  | some _ => none

def commandLine? (section? : Option Value) : Option (String × String) := do
  let fields ← fieldsOf? ["label", "escape_shortcut"] section?
  let standard := Settings.standard
  let label ← field? text? standard.label (fields[0]?.join)
  let escapeShortcut ← field? text? standard.escapeShortcut (fields[1]?.join)
  return (label, escapeShortcut)

def cursor? (section? : Option Value) : Option CursorStyle := do
  let fields ← fieldsOf? ["block", "foreground", "background"] section?
  let standard := CursorStyle.standard
  let block ← field? truth? standard.block (fields[0]?.join)
  let foreground ← field? text? standard.foreground (fields[1]?.join)
  let background ← field? text? standard.background (fields[2]?.join)
  return { block, foreground, background }

def settings? (document : Entries) : Option Settings := do
  let known := ["commandline", "cursor"]
  let (label, escapeShortcut) ← commandLine? (document.get? "commandline".toList)
  let cursor ← cursor? (document.get? "cursor".toList)
  if entriesBounded (document.filter fun e => .ofList e.1 ∉ known) then
    some { label, escapeShortcut, cursor }
  else none

def fileName : String := "vimline.toml"

/-- The user's directory for configuration: the one that is named if it is an absolute path, else
the usual one below the home directory. -/
def configDirectory (named home : Option String) : Option String :=
  match named.filter (·.startsWith "/") with
  | some d => some d
  | none => home.map (· ++ "/.config")

def discover (files : FileTree) (configDirectory : Option String) : String :=
  if files.exists? fileName then fileName
  else
    match configDirectory with
    | some d => d ++ "/vimline/" ++ fileName
    | none => fileName

inductive Event
  | absent
  | loaded
  | refused
  deriving DecidableEq, Repr

structure Loaded where
  path : Option String
  settings : Settings
  event : Event
  deriving DecidableEq, Repr

def load (files : FileTree) (path : String) : Loaded :=
  match files.readText path with
  | .error _ => ⟨none, .standard, .absent⟩
  | .ok t =>
    match (parse? t).bind settings? with
    | some s => ⟨some path, s, .loaded⟩
    | none => ⟨none, .standard, .refused⟩

def loadFrom (files : FileTree) (configDirectory path : Option String) : Loaded :=
  load files (path.getD (discover files configDirectory))

end ModalEditor.SettingsFile
