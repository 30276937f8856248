import Mathlib.Logic.Function.Iterate
import ModalEditor.Proofs.Editor.Bounds
import ModalEditor.Proofs.Text.Offset

namespace ModalEditor

variable [Segmentation]

theorem Motion.walk_one (m : Motion) (t : Text) (p : Position) : m.walk t 1 p =
    ((m.step? t ⟨p, none⟩).elim p Walker.position, (m.step? t ⟨p, none⟩).isSome) := by
  rw [walk, repeatStep]
  cases m.step? t ⟨p, none⟩ with
  | none => rfl
  | some w => by_cases hw : w = ⟨p, none⟩ <;> simp [hw, repeatStep]

namespace Text

variable {t b k : Text} {pre post : List Text} {n j : Nat}

def offsetAfter (t : Text) (m : Motion) (n : Nat) : Nat :=
  (m.step? t ⟨t.positionAt n, none⟩).elim n fun w => t.offsetAt w.position

theorem offsetAfter_left (t : Text) (n : Nat) :
    t.offsetAfter .left n = (t.left? (t.positionAt n)).elim n t.offsetAt := by
  rw [offsetAfter, Motion.step?]
  cases t.left? (t.positionAt n) <;> rfl

theorem offsetAfter_right (t : Text) (n : Nat) :
    t.offsetAfter .right n = (t.right? (t.positionAt n)).elim n t.offsetAt := by
  rw [offsetAfter, Motion.step?]
  cases t.right? (t.positionAt n) <;> rfl

namespace Place

variable (h : Place t n pre b k post j)
include h

theorem offsetAfter_lineStart : t.offsetAfter .lineStart n = pre.flatten.length := by
  simpa [offsetAfter, Motion.step?, h.positionAt_eq] using h.offsetAt_eq 0

theorem offsetAfter_lineEnd :
    t.offsetAfter .lineEnd n = pre.flatten.length + (b ++ dropLineFeed k).length := by
  simpa [offsetAfter, Motion.step?, h.positionAt_eq, contentLength, h.content_eq]
    using h.offsetAt_lineEnd

end Place

theorem offsetAt_walk_one (h : n ≤ t.length) (m : Motion) :
    t.offsetAt (m.walk t 1 (t.positionAt n)).1 = t.offsetAfter m n := by
  rw [m.walk_one, offsetAfter]
  cases m.step? t ⟨t.positionAt n, none⟩ with
  | none => exact offsetAt_positionAt h
  | some w => rfl

theorem offsetAfter_le_length (h : n ≤ t.length) (m : Motion) :
    t.offsetAfter m n ≤ t.length := by
  rw [← offsetAt_walk_one h]
  exact t.offsetAt_le_length _

end Text

namespace Editor

variable {e : Editor}

theorem go_one (h : e.cursor.position ≤ e.text.length) (m : Motion) :
    e.go m 1 = { e with cursor := .caret (e.text.offsetAfter m e.cursor.position) } := by
  rw [← Text.offsetAt_walk_one h]
  rfl

theorem select_one (h : e.cursor.position ≤ e.text.length) (m : Motion) :
    e.select m 1 = { e with
      cursor := ⟨e.text.offsetAfter m e.cursor.position, e.cursor.anchor⟩ } := by
  rw [← Text.offsetAt_walk_one h]
  rfl

theorem move_one (h : e.cursor.position ≤ e.text.length) (m : Motion) : e.move m .move 1 =
    ({ e with cursor := .caret (e.text.offsetAfter m e.cursor.position) },
      (m.step? e.text ⟨e.text.positionAt e.cursor.position, none⟩).isSome) := by
  have hcompleted : (e.move m .move 1).2 =
      (m.step? e.text ⟨e.text.positionAt e.cursor.position, none⟩).isSome :=
    congrArg Prod.snd (m.walk_one e.text _)
  rw [← go_one h, ← hcompleted]
  rfl

theorem position_iterate_go (h : e.cursor.position ≤ e.text.length) (m : Motion) (k : Nat) :
    ((·.go m 1)^[k] e).cursor.position = (e.text.offsetAfter m)^[k] e.cursor.position := by
  induction k generalizing e with
  | zero => rfl
  | succ k ih =>
    have hgo := go_one h m
    have hle : (e.go m 1).cursor.position ≤ (e.go m 1).text.length := by
      rw [hgo]
      exact Text.offsetAfter_le_length h m
    rw [Function.iterate_succ_apply, Function.iterate_succ_apply, ih hle, hgo]
    rfl

end Editor

end ModalEditor
