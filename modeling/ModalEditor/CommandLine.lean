import ModalEditor.Dispatch
import ModalEditor.Key.Sequence
import ModalEditor.Settings

/-! The command line. Whenever its text changes, the complete key sequences at the front are
dispatched one after the other, until one is incomplete or a key hands the focus to the editor; the
rest stays. Return runs a command for a whole line. While the command line has the focus, a
highlight shows where the cursor of the current editor is. -/

namespace ModalEditor

structure CommandLine where
  workspace : Workspace
  buffer : Text
  focus : Focus
  label : String
  style : CursorStyle
  reports : List DispatchError

namespace CommandLine

def cursorOwner : String := "vim_cursor"

def ofSettings (w : Workspace) (s : Settings) : CommandLine :=
  { workspace := w, buffer := [], focus := .editor, label := s.label, style := s.cursor
    reports := [] }

def blockCursor (style : CursorStyle) (e : Editor) : Highlight :=
  { first := e.cursor.position
    last := min (e.cursor.position + 1) e.text.length
    foreground := style.foreground
    background := style.background }

def showCursor (style : CursorStyle) (e : Editor) : Editor :=
  if style.block then e.highlight cursorOwner [blockCursor style e]
  else e.clearHighlight cursorOwner

def refresh (c : CommandLine) : CommandLine :=
  { c with workspace := c.workspace.updateEditor (showCursor c.style) }

def refreshIfFocused (c : CommandLine) : CommandLine :=
  if c.focus = .commandLine then c.refresh else c

def focusIn (c : CommandLine) : CommandLine :=
  refresh { c with
    focus := .commandLine
    buffer := []
    workspace := c.workspace.updateEditor Editor.dropFocus }

def focusOut (c : CommandLine) : CommandLine :=
  { c with
    focus := .editor
    workspace := c.workspace.updateEditor (·.clearHighlight cursorOwner) }

def escape (c : CommandLine) : CommandLine := c.focusIn

def follow (c : CommandLine) (f : Focus) : CommandLine :=
  if f = .editor ∧ c.focus = .commandLine then c.focusOut else c

def report (c : CommandLine) (e : DispatchError) : CommandLine :=
  { c with reports := c.reports ++ [e] }

def settle (c : CommandLine) (d : Dispatch) : CommandLine :=
  let c := { c with workspace := d.2 }
  match d.1 with
  | .ok f => c.follow f
  | .error e => c.report e

@[simp] theorem buffer_follow (c : CommandLine) (f : Focus) : (c.follow f).buffer = c.buffer := by
  simp only [follow]
  split <;> rfl

@[simp] theorem buffer_settle (c : CommandLine) (d : Dispatch) :
    (c.settle d).buffer = c.buffer := by
  simp only [settle]
  split
  · simp
  · rfl

def runSequence (c : CommandLine) (s : KeySequence) : CommandLine :=
  settle { c with buffer := s.rest } (c.workspace.dispatchKey s.token s.count)

def runSequences (c : CommandLine) : CommandLine :=
  if c.focus = .commandLine then
    match _h : KeySequence.parse? c.buffer with
    | none => c
    | some s => (c.runSequence s).runSequences
  else c
termination_by c.buffer.length
decreasing_by
  simp only [runSequence, buffer_settle]
  exact KeySequence.length_rest_lt _h

def textChanged (c : CommandLine) (t : Text) : CommandLine :=
  (runSequences { c with buffer := t }).refreshIfFocused

def typeChar (c : CommandLine) (k : Char) : CommandLine :=
  c.textChanged (c.buffer ++ [k])

def typeText (c : CommandLine) (t : Text) : CommandLine :=
  t.foldl typeChar c

def runLine (c : CommandLine) (line : Text) : CommandLine :=
  match line with
  | ':' :: rest => c.settle (c.workspace.dispatchCommand rest)
  | '!' :: rest => c.report (.notImplemented ("shell command " ++ Text.quoted rest))
  | '/' :: _ | '?' :: _ => c.report (.notImplemented ("search " ++ Text.quoted line))
  | _ => c

def enter (c : CommandLine) : CommandLine :=
  if c.buffer.isEmpty then c
  else (runLine { c with buffer := [] } c.buffer).refreshIfFocused

def setLabel (c : CommandLine) (label : String) : CommandLine := { c with label }

def setStyle (c : CommandLine) (style : CursorStyle) : CommandLine :=
  refreshIfFocused { c with style }

def updateWorkspace (c : CommandLine) (f : Workspace → Workspace) : CommandLine :=
  { c with workspace := f c.workspace }

end CommandLine

end ModalEditor
