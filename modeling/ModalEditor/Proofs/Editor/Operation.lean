import ModalEditor.Proofs.Editor.Bounds

namespace ModalEditor

inductive EditorOperation
  | setCursor (c : Cursor)
  | move (m : Motion) (a : Anchor) (count : Nat)
  | goToLine (number : Nat)
  | insert (s : Text)
  | cut
  | undo
  | takeFocus
  | dropFocus
  | highlight (owner : String) (items : List Highlight)
  | clearHighlight (owner : String)
  | replaceText (text : Text)
  deriving DecidableEq, Repr

namespace EditorOperation

def isMove : EditorOperation → Bool
  | setCursor _ | move _ _ _ | goToLine _ => true
  | _ => false

def isEdit : EditorOperation → Bool
  | insert _ | cut => true
  | _ => false

end EditorOperation

namespace Editor

def apply (e : Editor) : EditorOperation → Editor
  | .setCursor c => e.setCursor c
  | .move m a count => (e.move m a count).1
  | .goToLine number => e.goToLine number
  | .insert s => e.insert s
  | .cut => e.cut
  | .undo => e.undo
  | .takeFocus => e.takeFocus
  | .dropFocus => e.dropFocus
  | .highlight owner items => e.highlight owner items
  | .clearHighlight owner => e.clearHighlight owner
  | .replaceText text => e.replaceText text

variable {e : Editor}

theorem Within.apply (h : e.Within) (x : EditorOperation) : (e.apply x).Within := by
  cases x with
  | setCursor c => exact ⟨⟨Nat.min_le_right _ _, Nat.min_le_right _ _⟩, h.history⟩
  | move m a count =>
    cases a with
    | move => exact h.go m count
    | keep => exact h.select m count
  | goToLine number => exact h.goToLine number
  | insert s => exact h.insert s
  | cut => exact h.cut
  | undo => exact h.undo
  | replaceText text => exact .replaceText e text
  | takeFocus | dropFocus | highlight _ _ | clearHighlight _ => exact ⟨h.cursor, h.history⟩

theorem apply_of_isMove {x : EditorOperation} (hx : x.isMove) :
    ∃ c, e.apply x = { e with cursor := c } := by
  cases x with
  | setCursor | move | goToLine => exact ⟨_, rfl⟩
  | _ => cases hx

theorem history_of_isEdit {x : EditorOperation} (hx : x.isEdit)
    (ht : (e.apply x).text ≠ e.text) : (e.apply x).history = e.history.push e.snapshot := by
  cases x with
  | insert s => rfl
  | cut =>
    cases hs : e.cursor.hasSelection with
    | false => exact absurd (by simp [apply, cut, hs]) ht
    | true => simp [apply, cut, hs]
  | _ => cases hx

theorem undoTimes_of_undo {P : Editor → Prop} (hundo : ∀ e, P e → P e.undo) (h : P e)
    (count : Nat) : P (e.undoTimes count) := by
  induction count generalizing e with
  | zero => exact h
  | succ n ih =>
    rw [undoTimes]
    split
    · exact h
    · exact ih (hundo e h)

end Editor

end ModalEditor
