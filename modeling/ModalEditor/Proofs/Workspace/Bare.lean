import Mathlib.Data.List.InsertIdx
import ModalEditor.Proofs.CommandLine.Cursor
import ModalEditor.Proofs.Workspace.Plan

namespace ModalEditor

open CommandLine (cursorOwner)

def Document.bare (d : Document) : Document :=
  { d with editor := d.editor.clearHighlight cursorOwner }

namespace Workspace

def bare (w : Workspace) : Workspace :=
  { w with documents := w.documents.map Document.bare }

end Workspace

def Workspace.Performed.bare (o : Workspace.Performed) : Workspace.Performed := (o.1, o.2.bare)

def Dispatch.bare (o : Dispatch) : Dispatch := (o.1, o.2.bare)

def Editor.IgnoresCursor (f : Editor → Editor) : Prop :=
  ∀ e : Editor, f (e.clearHighlight cursorOwner) = (f e).clearHighlight cursorOwner

namespace Workspace

variable (w : Workspace)

@[simp] theorem document?_bare : w.bare.document? = w.document?.map Document.bare := by
  cases h : w.current <;> simp [document?, bare, h]

@[simp] theorem editor?_bare : w.bare.editor? = w.editor?.map (·.clearHighlight cursorOwner) := by
  simp [editor?, Document.bare, Function.comp_def]

theorem bare_updateEditor {f g : Editor → Editor}
    (h : ∀ e, (f e).clearHighlight cursorOwner = g (e.clearHighlight cursorOwner)) :
    (w.updateEditor f).bare = w.bare.updateEditor g := by
  cases hi : w.current with
  | none => simp only [updateEditor, bare, hi]
  | some i =>
    simp only [updateEditor, bare, hi]
    congr 1
    refine List.ext_getElem? fun j => ?_
    rw [List.getElem?_map, List.getElem?_modify, List.getElem?_modify, List.getElem?_map]
    cases w.documents[j]? with
    | none => rfl
    | some d =>
      simp only [Option.map_eq_map, Option.map_some]
      split
      · simp only [Document.bare, h]
      · rfl

theorem bare_updateEditor_of_highlight {f : Editor → Editor}
    (h : ∀ e, (f e).clearHighlight cursorOwner = e.clearHighlight cursorOwner) :
    (w.updateEditor f).bare = w.bare := by
  rw [w.bare_updateEditor (g := id) h, updateEditor_id]

theorem edit_bare (focus : Focus) {f : Editor → Editor} (hf : Editor.IgnoresCursor f) :
    w.bare.edit focus f = (w.edit focus f).bare := by
  cases he : w.editor? with
  | none =>
    have hbare : w.bare.editor? = none := by rw [editor?_bare, he, Option.map_none]
    rw [edit_of_none he, edit_of_none hbare]
    rfl
  | some e =>
    have hbare : w.bare.editor? = some (e.clearHighlight cursorOwner) := by
      rw [editor?_bare, he, Option.map_some]
    rw [edit_of_editor? he, edit_of_editor? hbare, Dispatch.bare,
      w.bare_updateEditor fun e => (hf e).symm]

theorem add_bare (d : Document) : w.bare.add d.bare = (w.add d).bare := by
  simp [add, bare]

theorem openFile_bare (path : String) : w.bare.openFile path = (w.openFile path).bare := by
  simp only [openFile, show w.bare.files = w.files from rfl]
  cases w.files.readText path with
  | error e => rfl
  | ok text =>
    exact congrArg (Prod.mk _) (w.add_bare ⟨some path, .ofText (FileTree.fileName path) text⟩)

theorem openQueued_bare : w.bare.openQueued = w.openQueued.bare := by
  simp only [openQueued, show w.bare.openQueue = w.openQueue from rfl]
  cases w.openQueue with
  | nil => rfl
  | cons path openQueue => exact openFile_bare { w with openQueue } path

theorem save_bare : w.bare.save = w.save.bare := by
  simp only [save, document?_bare, show w.bare.files = w.files from rfl]
  cases hd : w.document? with
  | none => rfl
  | some d =>
    cases hp : d.path with
    | none => simp [Document.bare, hp, Performed.bare, Editor.clearHighlight]
    | some path =>
      cases hw : w.files.writeText path d.editor.text <;>
        simp [Document.bare, hp, hw, Performed.bare, Editor.clearHighlight, bare]

theorem close_bare : w.bare.close = w.close.bare := by
  cases hi : w.current with
  | none => simp [close, bare, hi, Performed.bare]
  | some i => simp [close, bare, hi, Performed.bare, List.eraseIdx_map]

theorem newDocument_bare : w.bare.newDocument = w.newDocument.bare :=
  add_bare { w with untitled := w.untitled + 1 }
    ⟨none, .ofText ("untitled" ++ toString (w.untitled + 1)) []⟩

theorem reload_bare : w.bare.reload = w.reload.bare := by
  simp only [reload, document?_bare, show w.bare.files = w.files from rfl]
  cases hd : w.document? with
  | none => rfl
  | some d =>
    cases hp : d.path with
    | none => simp [Document.bare, hp, Performed.bare, Editor.clearHighlight]
    | some path =>
      cases hr : w.files.readText path with
      | error e => simp [Document.bare, hp, hr, Performed.bare]
      | ok text =>
        have hreplace : (w.updateEditor (·.replaceText text)).bare =
            w.bare.updateEditor (·.replaceText text) := w.bare_updateEditor fun _ => rfl
        simp [Document.bare, hp, hr, Performed.bare, hreplace]

theorem effect_bare (a : Action) : w.bare.effect a = (w.effect a).bare := by
  cases a with
  | save => exact w.save_bare
  | close => exact w.close_bare
  | new => exact congrArg (Prod.mk _) w.newDocument_bare
  | openQueued => exact w.openQueued_bare
  | reload => exact w.reload_bare

theorem perform_bare (a : Action) : w.bare.perform a = (w.perform a).bare :=
  (w.request a).effect_bare a

theorem performAll_bare (as : List Action) : w.bare.performAll as = (w.performAll as).bare := by
  fun_induction performAll w as with
  | case1 => rfl
  | case2 w a as w' ha ih =>
    rw [performAll, perform_bare, ha]
    exact ih
  | case3 w a as w' e ha =>
    rw [performAll, perform_bare, ha]
    rfl

theorem run_bare (as : List Action) : w.bare.run as = (w.run as).bare := by
  rw [run, run, performAll_bare]
  rcases w.performAll as with ⟨_ | _, _⟩ <;> rfl

end Workspace

theorem Plan.carryOut_bare (w : Workspace) {plan : Plan}
    (h : ∀ focus f, plan = .edit focus f → Editor.IgnoresCursor f) :
    plan.carryOut w.bare = (plan.carryOut w).bare := by
  cases plan with
  | refuse | ignore => rfl
  | edit focus f => exact w.edit_bare focus (h focus f rfl)
  | action a => exact w.run_bare [a]
  | saveAndClose => exact w.run_bare [.save, .close]

theorem Input.ignoresCursor_of_plan {i : Input} {focus : Focus} {f : Editor → Editor}
    (h : i.plan = .edit focus f) : Editor.IgnoresCursor f := by
  rcases Input.plan_eq_edit h with ⟨k, count, -, rfl⟩ | ⟨number, -, rfl⟩
  · exact fun e => Key.change_clearHighlight e cursorOwner count k
  · exact fun _ => rfl

theorem Workspace.dispatch_bare (w : Workspace) (i : Input) :
    w.bare.dispatch i = (w.dispatch i).bare :=
  Plan.carryOut_bare w fun _ _ => Input.ignoresCursor_of_plan

end ModalEditor
