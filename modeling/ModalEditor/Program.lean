import ModalEditor.Arguments
import ModalEditor.Session
import ModalEditor.SettingsFile

namespace ModalEditor.Program

def versionText : String := "vimline 0.1.0\n"

def helpText : String := "Usage: vimline [OPTIONS] [PATH]\n"

def logFile : String := "vimline.log"

inductive ExitCode
  | success
  | failure
  | usage
  deriving DecidableEq, Repr

def ExitCode.number : ExitCode → Nat
  | success => 0
  | failure => 1
  | usage => 2

structure Outcome where
  code : ExitCode
  output : String
  files : FileTree

def lineFeed : UInt8 := 10

def carriageReturn : UInt8 := 13

def dropReturn (line : List UInt8) : List UInt8 :=
  if line.getLast? = some carriageReturn then line.dropLast else line

/-- Splits bytes at line feeds, where those of `line` have been read before. The last line may lack
a line feed, and then keeps its carriage return. -/
def linesFrom (line : List UInt8) : List UInt8 → List (List UInt8)
  | [] => if line.isEmpty then [] else [line]
  | b :: bs =>
    if b = lineFeed then dropReturn line :: linesFrom [] bs else linesFrom (line ++ [b]) bs

def decode? (line : List UInt8) : Option Text :=
  line.toByteArray.utf8Decode?.map (·.toList)

def inputLines (input : ByteArray) : List (Option Text) :=
  (linesFrom [] input.data.toList).map decode?

def openDocument (files : FileTree) : Option String → Except ActionError Workspace
  | some path => (Workspace.ofFiles files).openPath path
  | none => .ok ((Workspace.ofFiles files).withDocument "scratch" [])

def settingsOf (files : FileTree) (configDirectory : Option String) (a : Arguments) : Settings :=
  (SettingsFile.loadFrom files configDirectory a.settings).settings

def start (files : FileTree) (configDirectory : Option String) (a : Arguments) :
    Except ActionError Plugin :=
  (openDocument files a.path).map fun w => .ofSettings w (settingsOf files configDirectory a)

def print (rows : List Session.Row) : String :=
  String.join (rows.map fun r => r.text ++ "\n")

def session (p : Plugin) (input : ByteArray) : Outcome :=
  let r := Session.run p (inputLines input)
  { code := if r.ending = .unreadable then .failure else .success
    output := print r.rows
    files := r.plugin.commandLine.workspace.files }

def run (args : List String) (files : FileTree) (configDirectory : Option String)
    (input : ByteArray) : Outcome :=
  let files := files.place logFile (.file .empty)
  match Arguments.parse args with
  | .misuse => ⟨.usage, "", files⟩
  | .version => ⟨.success, versionText, files⟩
  | .help => ⟨.success, helpText, files⟩
  | .edit a =>
    match start files configDirectory a with
    | .error _ => ⟨.failure, "", files⟩
    | .ok p => session p input

end ModalEditor.Program
