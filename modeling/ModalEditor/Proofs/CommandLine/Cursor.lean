import ModalEditor.CommandLine
import ModalEditor.Proofs.Key.Change

namespace ModalEditor

open CommandLine (cursorOwner)

namespace Editor

variable (e : Editor) (owner : String)

@[simp] theorem clearHighlight_clearHighlight :
    (e.clearHighlight owner).clearHighlight owner = e.clearHighlight owner := by
  simp [clearHighlight]

@[simp] theorem go_clearHighlight (m : Motion) (count : Nat) :
    (e.clearHighlight owner).go m count = (e.go m count).clearHighlight owner := rfl

@[simp] theorem select_clearHighlight (m : Motion) (count : Nat) :
    (e.clearHighlight owner).select m count = (e.select m count).clearHighlight owner := rfl

@[simp] theorem insert_clearHighlight (s : Text) :
    (e.clearHighlight owner).insert s = (e.insert s).clearHighlight owner := rfl

@[simp] theorem takeFocus_clearHighlight :
    (e.clearHighlight owner).takeFocus = e.takeFocus.clearHighlight owner := rfl

@[simp] theorem cut_clearHighlight :
    (e.clearHighlight owner).cut = e.cut.clearHighlight owner := by
  cases h : e.cursor.hasSelection <;> simp [cut, clearHighlight, snapshot, h]

@[simp] theorem undo_clearHighlight :
    (e.clearHighlight owner).undo = e.undo.clearHighlight owner := by
  simp only [undo, clearHighlight]
  split <;> rfl

@[simp] theorem undoTimes_clearHighlight (count : Nat) :
    (e.clearHighlight owner).undoTimes count = (e.undoTimes count).clearHighlight owner := by
  induction count generalizing e with
  | zero => rfl
  | succ n ih =>
    rw [undoTimes, undoTimes, undo_clearHighlight, ih]
    exact (apply_ite (clearHighlight · owner) _ _ _).symm

@[simp] theorem clearHighlight_showCursor (style : CursorStyle) :
    (CommandLine.showCursor style e).clearHighlight cursorOwner = e.clearHighlight cursorOwner := by
  simp only [CommandLine.showCursor]
  split <;> simp [highlight, clearHighlight]

end Editor

theorem Key.change_clearHighlight (e : Editor) (owner : String) (count : Nat) (k : Key) :
    k.change count (e.clearHighlight owner) = (k.change count e).clearHighlight owner := by
  cases k <;> simp [change, plan, Plan.stay, Plan.insert, Plan.change, Editor.openLineBelow,
    Editor.openLineAbove, Editor.deleteLines, Editor.deleteToLineEnd, Editor.deleteWords]

namespace Workspace

def hideCursor (w : Workspace) : Workspace :=
  w.updateEditor (·.clearHighlight cursorOwner)

@[simp] theorem hideCursor_hideCursor (w : Workspace) :
    w.hideCursor.hideCursor = w.hideCursor := by
  simp [hideCursor, updateEditor_updateEditor, Function.comp_def]

end Workspace

namespace Dispatch

def hideCursor (o : Dispatch) : Dispatch := (o.1, o.2.hideCursor)

@[simp] theorem hideCursor_hideCursor (o : Dispatch) :
    hideCursor (hideCursor o) = hideCursor o := by
  simp [hideCursor]

end Dispatch

namespace Workspace

variable (w : Workspace)

theorem hideCursor_of_none (h : w.current = none) : w.hideCursor = w := by
  simp [hideCursor, updateEditor, h]

theorem edit_hideCursor (focus : Focus) {f : Editor → Editor}
    (hf : ∀ e : Editor, f (e.clearHighlight cursorOwner) = (f e).clearHighlight cursorOwner) :
    w.hideCursor.edit focus f = (w.edit focus f).hideCursor := by
  simp only [edit, hideCursor, editor?_updateEditor, Dispatch.hideCursor]
  cases w.editor? with
  | none => rfl
  | some e => simp [updateEditor_updateEditor, Function.comp_def, hf]

theorem request_hideCursor (a : Action) : w.hideCursor.request a = (w.request a).hideCursor := by
  cases h : w.current <;> simp [request, hideCursor, updateEditor, h]

theorem save_hideCursor : w.hideCursor.save = (w.save.1, w.save.2.hideCursor) := by
  simp only [save, hideCursor, document?_updateEditor]
  cases w.document? with
  | none => rfl
  | some d =>
    cases hp : d.path with
    | none => simp [hp, Editor.clearHighlight]
    | some path =>
      cases h : w.current <;>
        cases hw : w.files.writeText path d.editor.text <;>
          simp [hp, h, hw, updateEditor, Editor.clearHighlight]

theorem close_hideCursor : w.hideCursor.close = w.close := by
  cases h : w.current with
  | none => rw [hideCursor_of_none w h]
  | some i => simp [close, hideCursor, updateEditor, h, List.eraseIdx_modify_of_eq]

theorem perform_save_hideCursor :
    w.hideCursor.perform .save = ((w.perform .save).1, (w.perform .save).2.hideCursor) := by
  simp only [perform, effect, request_hideCursor, save_hideCursor]

theorem perform_close_hideCursor : w.hideCursor.perform .close = w.perform .close := by
  simp only [perform, effect, request_hideCursor, close_hideCursor]

theorem run_saveAndClose_hideCursor :
    (w.hideCursor.run [.save, .close]).hideCursor = (w.run [.save, .close]).hideCursor := by
  simp only [run, performAll, perform_save_hideCursor]
  obtain ⟨r, saved⟩ := w.perform .save
  cases r with
  | error => simp [Dispatch.ofPerformed, Dispatch.hideCursor]
  | ok => simp [perform_close_hideCursor]

theorem press_hideCursor (count : Nat) (k : Key) :
    (w.hideCursor.press count k).hideCursor = (w.press count k).hideCursor := by
  by_cases hk : k = .saveAndClose
  · subst hk
    exact w.run_saveAndClose_hideCursor
  · have hf (e : Editor) := Key.change_clearHighlight e cursorOwner count k
    rw [Key.press_eq_edit hk, Key.press_eq_edit hk, edit_hideCursor w _ hf,
      Dispatch.hideCursor_hideCursor]

theorem dispatchKey_hideCursor (token : Text) (count : Nat) :
    (w.hideCursor.dispatchKey token count).hideCursor = (w.dispatchKey token count).hideCursor := by
  by_cases h : token.head? = some '_'
  · simp [dispatchKey_of_private _ _ h, Dispatch.hideCursor]
  · cases hk : Key.ofName? (Key.nameOf token) with
    | none => simp [dispatchKey_of_unknown _ _ h hk, Dispatch.hideCursor]
    | some k => simp only [dispatchKey_of_key _ _ h hk, press_hideCursor]

end Workspace

end ModalEditor
