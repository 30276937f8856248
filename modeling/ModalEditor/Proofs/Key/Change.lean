import ModalEditor.Proofs.Editor.Operation
import ModalEditor.Proofs.Workspace.Every

namespace ModalEditor

namespace Plan

def focus : Plan → Focus
  | edit focus _ => focus
  | _ => .commandLine

def change (e : Editor) : Plan → Editor
  | edit _ f => f e
  | _ => e

end Plan

namespace Key

def change (count : Nat) (e : Editor) (k : Key) : Editor := (k.plan count).change e

def focus (k : Key) : Focus := (k.plan 0).focus

theorem plan_eq_edit {k : Key} (hk : k ≠ saveAndClose) (count : Nat) :
    k.plan count = .edit k.focus (k.change count ·) := by
  cases k with
  | saveAndClose => exact absurd rfl hk
  | _ => rfl

theorem press_eq_edit {k : Key} (hk : k ≠ saveAndClose) (w : Workspace) (count : Nat) :
    w.press count k = w.edit k.focus (k.change count ·) := by
  rw [Workspace.press, plan_eq_edit hk, Plan.carryOut]

theorem change_of_apply {P : Editor → Prop} (happly : ∀ e x, P e → P (e.apply x)) {e : Editor}
    (h : P e) (count : Nat) (k : Key) : P (k.change count e) := by
  have go {e : Editor} (h : P e) (m : Motion) (n : Nat) : P (e.go m n) :=
    happly e (.move m .move n) h
  have select {e : Editor} (h : P e) (m : Motion) (n : Nat) : P (e.select m n) :=
    happly e (.move m .keep n) h
  have newLine {e : Editor} (h : P e) : P (e.insert ['\n']) := happly e (.insert ['\n']) h
  have cut {e : Editor} (h : P e) : P e.cut := happly e .cut h
  have takeFocus {e : Editor} (h : P e) : P e.takeFocus := happly e .takeFocus h
  cases k with
  | insert => exact takeFocus h
  | append => exact takeFocus (go h _ _)
  | appendAtLineEnd => exact takeFocus (go h _ _)
  | openBelow => exact takeFocus (newLine (go h _ _))
  | openAbove => exact takeFocus (go (newLine (go h _ _)) _ _)
  | undo => exact Editor.undoTimes_of_undo (fun e => happly e .undo) h count
  | deleteLine => exact cut (select (go h _ _) _ _)
  | deleteToLineEnd => exact cut (select (select h _ _) _ _)
  | deleteWord => exact cut (select h _ _)
  | saveAndClose => exact h
  | _ => exact go h _ _

theorem within_change {e : Editor} (h : e.Within) (count : Nat) (k : Key) :
    (k.change count e).Within :=
  change_of_apply (fun _ x he => he.apply x) h count k

theorem hasSelection_change {e : Editor} {count : Nat} {k : Key}
    (h : (k.change count e).cursor.hasSelection) : k = insert ∨ k = undo ∨ k = saveAndClose := by
  cases k with
  | insert => exact .inl rfl
  | undo => exact .inr (.inl rfl)
  | saveAndClose => exact .inr (.inr rfl)
  | _ =>
    simp [change, plan, Plan.insert, Plan.stay, Plan.change, Editor.openLineBelow,
      Editor.openLineAbove, Editor.deleteLines, Editor.deleteToLineEnd, Editor.deleteWords] at h

end Key

end ModalEditor
