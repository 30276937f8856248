import ModalEditor.Plugin

/-! A session: input lines go to the widget with the focus, and a row after each line tells where
the cursor is. On the command line a line is typed and entered; when a key hands the focus to the
editor, the rest of the line is inserted there. In the editor a whole line is inserted, and one line
is kept for leaving insert mode. The session ends with its input or its last document. -/

namespace ModalEditor

namespace Session

def escapeLine : Text := "<Esc>".toList

def insertText (c : CommandLine) (t : Text) : CommandLine :=
  c.updateWorkspace (·.updateEditor (·.insert t))

/-- Types a line into the command line, up to the character that hands the focus to the editor. -/
def typeLine (c : CommandLine) : Text → CommandLine
  | [] => if c.focus = .commandLine then c.enter else c
  | k :: ks => if c.focus = .commandLine then typeLine (c.typeChar k) ks else insertText c (k :: ks)

def feed (p : Plugin) (line : Text) : Plugin :=
  if line = escapeLine then p.shortcut p.escapeShortcut
  else if p.commandLine.focus = .editor then p.update (insertText · (line ++ ['\n']))
  else p.update (typeLine · line)

inductive Row
  | cursor (name : String) (line column : Nat) (focus : Focus)
  | noDocument
  deriving DecidableEq, Repr

def modeName : Focus → String
  | .commandLine => "COMMAND"
  | .editor => "INSERT"

def Row.text : Row → String
  | cursor name line column focus =>
    name ++ " " ++ toString line ++ ":" ++ toString column ++ " [" ++ modeName focus ++ "]"
  | noDocument => "[no document]"

def row (p : Plugin) : Row :=
  match p.commandLine.workspace.editor? with
  | some e => .cursor e.name (e.lineColumn.1 + 1) (e.lineColumn.2 + 1) p.commandLine.focus
  | none => .noDocument

def isOver (p : Plugin) : Bool :=
  p.commandLine.workspace.documents.isEmpty

inductive End
  | ended
  | unreadable
  deriving DecidableEq, Repr

structure Result where
  rows : List Row
  plugin : Plugin
  ending : End

def feedAll (p : Plugin) : List (Option Text) → Result
  | [] => ⟨[], p, .ended⟩
  | none :: _ => ⟨[], p, .unreadable⟩
  | some line :: lines =>
    let p := feed p line
    if isOver p then ⟨[row p], p, .ended⟩
    else
      let r := feedAll p lines
      { r with rows := row p :: r.rows }

def run (p : Plugin) (lines : List (Option Text)) : Result :=
  let p := p.update .focusIn
  let r := feedAll p lines
  { r with rows := row p :: r.rows }

end Session

end ModalEditor
