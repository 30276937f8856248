import ModalEditor.Command
import ModalEditor.Key.Basic
import ModalEditor.Text.Quoted
import ModalEditor.Workspace

namespace ModalEditor

inductive Focus
  | commandLine
  | editor
  deriving DecidableEq, Repr

inductive DispatchError
  | unknownKey (name : Text)
  | unknownCommand (name : Text)
  | notImplemented (what : String)
  | privateKey (token : Text)
  | noEditor
  | action (cause : ActionError)
  deriving DecidableEq, Repr

namespace DispatchError

def message : DispatchError → String
  | unknownKey name => "unknown key " ++ name.quoted
  | unknownCommand name => "unknown command " ++ name.quoted
  | notImplemented what => "not implemented: " ++ what
  | privateKey token => "private key " ++ token.quoted ++ " cannot be dispatched"
  | noEditor => "no document is open"
  | action cause => "host action failed: " ++ cause.message

def isQuiet : DispatchError → Bool
  | privateKey _ => true
  | _ => false

/-- Nothing has been tried. -/
def isRefusal : DispatchError → Bool
  | action _ => false
  | _ => true

end DispatchError

abbrev Dispatch := Except DispatchError Focus × Workspace

def Dispatch.ofPerformed : Workspace.Performed → Dispatch
  | (.ok (), w) => (.ok .commandLine, w)
  | (.error e, w) => (.error (.action e), w)

@[simp] theorem Dispatch.snd_ofPerformed (o : Workspace.Performed) : (ofPerformed o).2 = o.2 := by
  rcases o with ⟨_ | _, _⟩ <;> rfl

namespace Editor

def go [Segmentation] (e : Editor) (m : Motion) (count : Nat) : Editor :=
  (e.move m .move count).1

def select [Segmentation] (e : Editor) (m : Motion) (count : Nat) : Editor :=
  (e.move m .keep count).1

def openLineBelow (e : Editor) : Editor :=
  (e.go .lineEnd 1).insert ['\n']

def openLineAbove (e : Editor) : Editor :=
  ((e.go .lineStart 1).insert ['\n']).go .up 1

def deleteLines (e : Editor) (count : Nat) : Editor :=
  ((e.go .lineStart 1).select .down count).cut

def deleteToLineEnd (e : Editor) (count : Nat) : Editor :=
  ((e.select .lineEnd 1).select .down (count - 1)).cut

def deleteWords (e : Editor) (count : Nat) : Editor :=
  (e.select .wordEnd count).cut

end Editor

namespace Workspace

def edit (w : Workspace) (focus : Focus) (f : Editor → Editor) : Dispatch :=
  match w.editor? with
  | none => (.error .noEditor, w)
  | some _ => (.ok focus, w.updateEditor f)

def run (w : Workspace) (actions : List Action) : Dispatch :=
  Dispatch.ofPerformed (w.performAll actions)

end Workspace

/-- What a key or a line comes to, whatever the workspace. -/
inductive Plan
  | refuse (e : DispatchError) (refusal : e.isRefusal)
  | ignore
  | edit (focus : Focus) (f : Editor → Editor)
  | action (a : Action)
  | saveAndClose

namespace Plan

def stay (f : Editor → Editor) : Plan := edit .commandLine f

def insert (f : Editor → Editor) : Plan := edit .editor fun e => (f e).takeFocus

def carryOut (w : Workspace) : Plan → Dispatch
  | refuse e _ => (.error e, w)
  | ignore => (.ok .commandLine, w)
  | edit focus f => w.edit focus f
  | action a => w.run [a]
  | saveAndClose => w.run [.save, .close]

end Plan

def Key.plan (count : Nat) : Key → Plan
  | left => .stay (·.go .left count)
  | down => .stay (·.go .down count)
  | up => .stay (·.go .up count)
  | right => .stay (·.go .right count)
  | nextWord => .stay (·.go .nextWord count)
  | lineStart => .stay (·.go .lineStart 1)
  | lineEnd => .stay (·.go .lineEnd 1)
  | insert => .insert id
  | append => .insert (·.go .right 1)
  | appendAtLineEnd => .insert (·.go .lineEnd 1)
  | openBelow => .insert Editor.openLineBelow
  | openAbove => .insert Editor.openLineAbove
  | undo => .stay (·.undoTimes count)
  | deleteLine => .stay (·.deleteLines count)
  | deleteToLineEnd => .stay (·.deleteToLineEnd count)
  | deleteWord => .stay (·.deleteWords count)
  | saveAndClose => .saveAndClose

def FileCommand.plan (arguments : Text) : FileCommand → Plan
  | write => .action .save
  | quit => .action .close
  | writeQuit => .saveAndClose
  | new => .action .new
  | edit =>
    if arguments = [] then .action .reload
    else if arguments = ['.'] then .action .openQueued
    else .refuse (.notImplemented (.ofList ('e' :: ' ' :: arguments))) rfl

inductive Input
  | key (token : Text) (count : Nat)
  | command (line : Text)
  deriving DecidableEq, Repr

def Input.plan : Input → Plan
  | key token count =>
    if token.head? = some '_' then .refuse (.privateKey token) rfl
    else
      match Key.ofName? (Key.nameOf token) with
      | some k => k.plan count
      | none => .refuse (.unknownKey (Key.nameOf token)) rfl
  | command line =>
    match Command.parse line with
    | .ignored => .ignore
    | .goToLine number => .stay (·.goToLine number)
    | .named name arguments =>
      match FileCommand.ofName? name with
      | some c => c.plan arguments
      | none => .refuse (.unknownCommand name) rfl

namespace Workspace

def dispatch (w : Workspace) (i : Input) : Dispatch :=
  i.plan.carryOut w

def dispatchKey (w : Workspace) (token : Text) (count : Nat) : Dispatch :=
  w.dispatch (.key token count)

def dispatchCommand (w : Workspace) (line : Text) : Dispatch :=
  w.dispatch (.command line)

def press (w : Workspace) (count : Nat) (k : Key) : Dispatch :=
  (k.plan count).carryOut w

section

variable (w : Workspace) {token : Text} (count : Nat)

theorem dispatchKey_of_private (h : token.head? = some '_') :
    w.dispatchKey token count = (.error (.privateKey token), w) := by
  rw [dispatchKey, dispatch, Input.plan, if_pos h]
  rfl

theorem dispatchKey_of_unknown (h : token.head? ≠ some '_')
    (hk : Key.ofName? (Key.nameOf token) = none) :
    w.dispatchKey token count = (.error (.unknownKey (Key.nameOf token)), w) := by
  rw [dispatchKey, dispatch, Input.plan, if_neg h, hk]
  rfl

theorem dispatchKey_of_key (h : token.head? ≠ some '_') {k : Key}
    (hk : Key.ofName? (Key.nameOf token) = some k) :
    w.dispatchKey token count = w.press count k := by
  rw [dispatchKey, dispatch, Input.plan, if_neg h, hk, press]

theorem dispatchKey_eq (token : Text) :
    (∃ e, w.dispatchKey token count = (.error e, w)) ∨
      ∃ k, Key.ofName? (Key.nameOf token) = some k ∧
        w.dispatchKey token count = w.press count k := by
  by_cases h : token.head? = some '_'
  · exact .inl ⟨_, w.dispatchKey_of_private count h⟩
  · cases hk : Key.ofName? (Key.nameOf token) with
    | none => exact .inl ⟨_, w.dispatchKey_of_unknown count h hk⟩
    | some k => exact .inr ⟨k, rfl, w.dispatchKey_of_key count h hk⟩

end

end Workspace

end ModalEditor
