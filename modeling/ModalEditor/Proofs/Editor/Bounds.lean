import ModalEditor.Dispatch
import ModalEditor.Proofs.Text.Position

namespace ModalEditor

namespace Cursor

structure Within (c : Cursor) (t : Text) : Prop where
  position : c.position ≤ t.length
  anchor : c.anchor ≤ t.length

theorem Within.last_le {c : Cursor} {t : Text} (h : c.Within t) : c.last ≤ t.length :=
  Nat.max_le.2 ⟨h.position, h.anchor⟩

theorem Within.first_le {c : Cursor} {t : Text} (h : c.Within t) : c.first ≤ t.length :=
  Nat.le_trans c.first_le_last h.last_le

theorem within_caret {n : Nat} {t : Text} (h : n ≤ t.length) : (caret n).Within t := ⟨h, h⟩

end Cursor

theorem History.mem_push {h : History} {s x : Snapshot} (hx : x ∈ h.push s) : x = s ∨ x ∈ h := by
  match h with
  | [] => exact .inl (List.mem_singleton.1 hx)
  | newest :: rest =>
    rw [History.push] at hx
    split at hx
    · exact .inr hx
    · exact List.mem_cons.1 (List.mem_of_mem_take hx)

namespace Editor

variable {e : Editor}

theorem text_insert (e : Editor) (s : Text) :
    (e.insert s).text = e.text.take e.cursor.first ++ s ++ e.text.drop e.cursor.last := by
  have hle := e.cursor.first_le_last
  simp only [insert, Text.insertAt, Text.remove, Nat.max_eq_right hle]
  cases Nat.le_total e.cursor.first e.text.length with
  | inl h =>
    have hlen : (e.text.take e.cursor.first).length = e.cursor.first := by simp [h]
    rw [List.take_left' hlen, List.drop_left' hlen]
  | inr h =>
    have hdrop : e.text.drop e.cursor.last = [] := List.drop_eq_nil_of_le (Nat.le_trans h hle)
    simp [hdrop, List.take_of_length_le h, h]

theorem text_cut (h : e.cursor.hasSelection) :
    e.cut.text = e.text.take e.cursor.first ++ e.text.drop e.cursor.last := by
  simp [cut, h, Text.remove, Nat.max_eq_right e.cursor.first_le_last]

structure Within (e : Editor) : Prop where
  cursor : e.cursor.Within e.text
  history : ∀ s ∈ e.history, s.cursor.Within s.text

theorem within_ofText (name : String) (text : Text) : (ofText name text).Within where
  cursor := Cursor.within_caret (Nat.zero_le _)
  history := by simp [ofText]

namespace Within

theorem go (h : e.Within) (m : Motion) (count : Nat) : (e.go m count).Within where
  cursor := Cursor.within_caret (Text.offsetAt_le_length _ _)
  history := h.history

theorem select (h : e.Within) (m : Motion) (count : Nat) : (e.select m count).Within where
  cursor := ⟨Text.offsetAt_le_length _ _, h.cursor.anchor⟩
  history := h.history

theorem push (h : e.Within) : ∀ s ∈ e.history.push e.snapshot, s.cursor.Within s.text := by
  intro s hs
  rcases History.mem_push hs with rfl | hs
  · exact h.cursor
  · exact h.history s hs

theorem insert (h : e.Within) (s : Text) : (e.insert s).Within where
  cursor := by
    refine Cursor.within_caret ?_
    have hfirst := h.cursor.first_le
    simp only [text_insert, List.length_append, List.length_take]
    omega
  history := h.push

theorem cut (h : e.Within) : e.cut.Within := by
  cases hs : e.cursor.hasSelection with
  | false => simpa [Editor.cut, hs] using h
  | true =>
    have hcut : e.cut.cursor = .caret e.cursor.first ∧
        e.cut.history = e.history.push e.snapshot := by
      simp [Editor.cut, hs]
    constructor
    · rw [hcut.1, text_cut hs]
      refine Cursor.within_caret ?_
      have hfirst := h.cursor.first_le
      simp only [List.length_append, List.length_take]
      omega
    · rw [hcut.2]
      exact h.push

theorem undo (h : e.Within) : e.undo.Within := by
  simp only [Editor.undo]
  split
  · exact h
  · rename_i s rest hs
    have hh := h.history
    rw [hs] at hh
    exact ⟨hh s (by simp), fun s' hs' => hh s' (by simp [hs'])⟩

theorem goToLine (h : e.Within) (number : Nat) : (e.goToLine number).Within where
  cursor := Cursor.within_caret (Text.offsetAt_le_length _ _)
  history := h.history

theorem replaceText (e : Editor) (text : Text) : (e.replaceText text).Within where
  cursor := Cursor.within_caret (Nat.min_le_right _ _)
  history := by simp [Editor.replaceText]

end Within

@[simp] theorem hasSelection_go (e : Editor) (m : Motion) (count : Nat) :
    (e.go m count).cursor.hasSelection = false :=
  Cursor.hasSelection_caret _

@[simp] theorem hasSelection_insert (e : Editor) (s : Text) :
    (e.insert s).cursor.hasSelection = false :=
  Cursor.hasSelection_caret _

@[simp] theorem hasSelection_cut (e : Editor) : e.cut.cursor.hasSelection = false := by
  cases h : e.cursor.hasSelection <;> simp [cut, h]

end Editor

end ModalEditor
