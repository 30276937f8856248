import ModalEditor.Proofs.Workspace.Plan

namespace ModalEditor

inductive Operation
  | action (a : Action)
  | openPath (path : String)
  | queuePath (path : String)
  | edit (x : EditorOperation)
  | input (i : Input)
  | replaceFiles (files : FileTree)

namespace Workspace

def apply (w : Workspace) : Operation → Dispatch
  | .action a => w.run [a]
  | .openPath path => Dispatch.ofPerformed (w.openFile path)
  | .queuePath path => (.ok .commandLine, w.queuePath path)
  | .edit x => w.edit .commandLine (·.apply x)
  | .input i => w.dispatch i
  | .replaceFiles files => (.ok .commandLine, { w with files })

inductive Reachable : Workspace → Prop
  | ofFiles (files : FileTree) : Reachable (.ofFiles files)
  | withDocument (files : FileTree) (name : String) (text : Text) :
      Reachable ((ofFiles files).withDocument name text)
  | apply {w : Workspace} : Reachable w → ∀ o, Reachable (w.apply o).2

section Preserved

variable {P : Editor → Prop} {w : Workspace} (hnew : ∀ name text, P (.ofText name text))
  (happly : ∀ e x, P e → P (e.apply x))
include hnew happly

theorem Every.dispatch (h : w.Every P) (i : Input) : (w.dispatch i).2.Every P := by
  refine carryOut hnew (fun e text => happly e (.replaceText text)) h fun focus f hplan e he => ?_
  rcases Input.plan_eq_edit hplan with ⟨k, count, -, rfl⟩ | ⟨number, -, rfl⟩
  · exact Key.change_of_apply happly he count k
  · exact happly e (.goToLine number) he

theorem Every.apply (h : w.Every P) (o : Operation) : (w.apply o).2.Every P := by
  cases o with
  | action a => exact run hnew (fun e text => happly e (.replaceText text)) h [a]
  | openPath path =>
    rw [Workspace.apply, Dispatch.snd_ofPerformed]
    exact openFile hnew h path
  | queuePath path => exact h
  | edit x => exact h.edit (fun e => happly e x) _
  | input i => exact h.dispatch hnew happly i
  | replaceFiles files => exact h

theorem Reachable.every (h : w.Reachable) : w.Every P := by
  induction h with
  | ofFiles files => exact nofun
  | withDocument files name text => exact .add nofun (hnew name text)
  | apply _ o ih => exact ih.apply hnew happly o

end Preserved

theorem Reachable.dispatch {w : Workspace} (h : w.Reachable) (i : Input) :
    (w.dispatch i).2.Reachable :=
  h.apply (.input i)

theorem Reachable.updateEditor {w : Workspace} (h : w.Reachable) (x : EditorOperation) :
    (w.updateEditor (·.apply x)).Reachable := by
  rw [← snd_edit w .commandLine]
  exact h.apply (.edit x)

theorem Reachable.within {w : Workspace} (h : w.Reachable) : w.Every Editor.Within :=
  h.every Editor.within_ofText fun _ x he => he.apply x

end Workspace

end ModalEditor
