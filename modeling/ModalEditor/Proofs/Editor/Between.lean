import ModalEditor.Proofs.Editor.Move
import ModalEditor.Proofs.Text.RoundTrip

namespace ModalEditor

namespace Text

variable {t b k : Text} {pre post : List Text} {n j : Nat}

theorem Place.offsetAfter_up {l : Text} (h : Place t n (pre ++ [l]) b k post 0) :
    t.offsetAfter .up n = pre.flatten.length := by
  obtain ⟨b', k', -, hline⟩ := h.exists_above
  have hp : t.positionAt n = ⟨pre.length + 1, 0⟩ := by simp [h.positionAt_eq]
  rw [offsetAfter, Motion.step?, hp, if_neg (Nat.succ_ne_zero _)]
  simp [columnOf, atColumn, offsetAt_lineStart hline.length_lt_lineCount, hline.lineStart_eq]

end Text

namespace Editor

variable {e : Editor} {u v : Text}

structure Between (e : Editor) (u v : Text) : Prop where
  text_eq : e.text = u ++ v
  cursor_eq : e.cursor = .caret u.length

namespace Between

theorem insert (h : e.Between u v) (s : Text) : (e.insert s).Between (u ++ s) v where
  text_eq := by
    rw [text_insert, h.cursor_eq, h.text_eq, Cursor.first_caret, Cursor.last_caret, List.take_left,
      List.drop_left]
  cursor_eq := by rw [Editor.insert, h.cursor_eq, Cursor.first_caret, List.length_append]

end Between

end Editor

theorem Editor.text_insert_nil_go (e : Editor) (m : Motion) (count : Nat) :
    ((e.go m count).insert []).text = e.text := by
  have hcaret : (e.go m count).cursor = .caret (e.go m count).cursor.position := rfl
  rw [text_insert, hcaret, Cursor.first_caret, Cursor.last_caret, List.append_nil,
    List.take_append_drop]
  rfl

namespace Text.Place

variable {e : Editor} {b k f : Text} {pre post : List Text} {j : Nat}

theorem between_lineStart (h : Place e.text e.cursor.position pre b k post j) :
    (e.go .lineStart 1).Between pre.flatten (b ++ k ++ post.flatten) := by
  rw [Editor.go_one h.le_length, h.offsetAfter_lineStart]
  exact ⟨h.eq_append, rfl⟩

theorem between_lineEnd (h : Place e.text e.cursor.position pre b k post j)
    (hf : k = dropLineFeed k ++ f) :
    (e.go .lineEnd 1).Between (pre.flatten ++ (b ++ dropLineFeed k)) (f ++ post.flatten) := by
  rw [Editor.go_one h.le_length, h.offsetAfter_lineEnd]
  constructor
  · conv => lhs; rw [h.eq_append, hf]
    simp only [List.append_assoc]
  · simp only [List.length_append]

end Text.Place

theorem Editor.Between.go_up {e : Editor} {l b k : Text} {pre post : List Text}
    (h : e.Between (pre ++ [l]).flatten (b ++ k ++ post.flatten))
    (hline : e.text.HasLine (pre ++ [l]) b k post) :
    (e.go .up 1).Between pre.flatten (l ++ (b ++ k ++ post.flatten)) := by
  have hplace : Text.Place e.text e.cursor.position (pre ++ [l]) b k post 0 := by
    rw [h.cursor_eq]
    exact hline.place_start
  rw [go_one hplace.le_length, hplace.offsetAfter_up]
  exact ⟨by simp [h.text_eq], rfl⟩

end ModalEditor
