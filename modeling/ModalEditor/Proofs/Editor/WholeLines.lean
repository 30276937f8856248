import ModalEditor.Proofs.Editor.Move
import ModalEditor.Proofs.Motion.Vertical
import ModalEditor.Proofs.Workspace.Every

namespace ModalEditor

namespace Text

variable {t : Text} {i j : Nat}

theorem flatten_take_append_drop (t : Text) (i : Nat) :
    (t.lines.take i).flatten ++ (t.lines.drop i).flatten = t := by
  rw [← List.flatten_append, List.take_append_drop, flatten_lines]

theorem take_lineStart (t : Text) (i : Nat) :
    t.take (t.lineStart i) = (t.lines.take i).flatten := by
  have htake : ((t.lines.take i).flatten ++ (t.lines.drop i).flatten).take (t.lineStart i) =
      (t.lines.take i).flatten := List.take_left
  rwa [flatten_take_append_drop] at htake

theorem drop_lineStart (t : Text) (i : Nat) :
    t.drop (t.lineStart i) = (t.lines.drop i).flatten := by
  have hdrop : ((t.lines.take i).flatten ++ (t.lines.drop i).flatten).drop (t.lineStart i) =
      (t.lines.drop i).flatten := List.drop_left
  rwa [flatten_take_append_drop] at hdrop

theorem slice_lineStart (h : i ≤ j) :
    t.slice (t.lineStart i) (t.lineStart j) = ((t.lines.take j).drop i).flatten := by
  have htake : (t.lines.take j).flatten =
      (t.lines.take i).flatten ++ ((t.lines.take j).drop i).flatten := by
    conv => lhs; rw [← List.take_append_drop i (t.lines.take j)]
    rw [List.take_take, Nat.min_eq_left h, List.flatten_append]
  rw [slice, take_lineStart, htake, lineStart, List.drop_left]

theorem lineStart_lt (h : i < j) (hj : j < t.lineCount) : t.lineStart i < t.lineStart j := by
  refine Nat.lt_of_lt_of_le ?_ (t.lineStart_mono (Nat.succ_le_of_lt h))
  obtain ⟨pre, b, k, post, hline, rfl⟩ := exists_hasLine_of_lt (Nat.lt_trans h hj)
  rw [hline.lineStart_succ, hline.lineStart_eq]
  cases hline.ending with
  | last =>
    have hcount : t.lineCount = pre.length + 1 := by simp [lineCount, hline.lines_eq]
    omega
  | «break» hk => exact Nat.lt_add_of_pos_right (List.length_pos_iff.2 (by simp [hk.ne_nil]))

theorem positionAt_lineStart (h : i < t.lineCount) : t.positionAt (t.lineStart i) = ⟨i, 0⟩ := by
  obtain ⟨pre, b, k, post, hline, rfl⟩ := exists_hasLine_of_lt h
  rw [hline.lineStart_eq, hline.place_start.positionAt_eq]
  rfl

theorem lines_without_iff (hi : i < t.lineCount) (hj : j < t.lineCount) :
    lines (t.lines.take i ++ t.lines.drop j).flatten = t.lines.take i ++ t.lines.drop j ↔
      ¬ Meet (t.lines.take i).flatten (t.lines.drop j).flatten := by
  have hlined (i : Nat) : Lined (t.lines.take i ++ t.lines.drop i) := by
    rw [List.take_append_drop]
    exact t.lined_lines
  have hne {i : Nat} (h : i < t.lineCount) : t.lines.drop i ≠ [] := by
    simpa [lineCount] using h
  have hrest := ((Lined.append_iff (hlined j) (hne hj) (hne hj)).1 (hlined j)).1
  rw [lines_eq_iff, Lined.append_iff (hlined i) (hne hi) (hne hj)]
  simp [hrest]

end Text

theorem Motion.walk_down_lineStart {t : Text} {i : Nat} (h : i < t.lineCount) (count : Nat) :
    (Motion.down.walk t count ⟨i, 0⟩).1 = ⟨Vertical.down.target t i count, 0⟩ := by
  have hwalk := Vertical.walk_eq .down count (p := ⟨i, 0⟩) h
  rw [Vertical.motion] at hwalk
  rw [hwalk]
  split
  · rename_i hstays
    rw [hstays]
  · simp [Text.columnOf, Text.atColumn]

namespace Editor

open Text

variable {e : Editor} {i j : Nat}

theorem go_select_lineStart (e : Editor) (count : Nat) :
    let i := (e.text.positionAt e.cursor.position).line
    (e.go .lineStart 1).select .down count = { e with
      cursor := ⟨e.text.lineStart (Vertical.down.target e.text i count), e.text.lineStart i⟩ } := by
  intro i
  have hi : i < e.text.lineCount := (e.text.atCharacter_positionAt e.cursor.position).1
  have hwalk := Motion.lineStart.walk_one e.text (e.text.positionAt e.cursor.position)
  have hgo : e.go .lineStart 1 = { e with cursor := .caret (e.text.lineStart i) } := by
    rw [go, move, hwalk, ← offsetAt_lineStart hi]
    rfl
  have htarget : Vertical.down.target e.text i count < e.text.lineCount := Vertical.target_lt hi
  rw [hgo, ← offsetAt_lineStart htarget, ← Motion.walk_down_lineStart hi, ← positionAt_lineStart hi]
  rfl

theorem cut_lines (hi : i < j) (hj : j < e.text.lineCount)
    (hc : e.cursor = ⟨e.text.lineStart j, e.text.lineStart i⟩) :
    e.cut = { e with
      text := (e.text.lines.take i ++ e.text.lines.drop j).flatten
      clipboard := some ((e.text.lines.take j).drop i).flatten
      cursor := .caret (e.text.lineStart i)
      history := e.history.push e.snapshot } := by
  have hlt := lineStart_lt hi hj
  have hle := Nat.le_of_lt hlt
  have hselection : e.cursor.hasSelection := by simp [hc, Cursor.hasSelection, Nat.ne_of_gt hlt]
  have hfirst : e.cursor.first = e.text.lineStart i := by
    rw [hc, Cursor.first, Nat.min_eq_right hle]
  have hlast : e.cursor.last = e.text.lineStart j := by
    rw [hc, Cursor.last, Nat.max_eq_left hle]
  rw [cut, if_pos hselection, hfirst, hlast, slice_lineStart (Nat.le_of_lt hi), Text.remove,
    Nat.max_eq_right hle, take_lineStart, drop_lineStart, List.flatten_append]

end Editor

namespace Workspace

open Text

/-- Whole lines go away, from the line of the cursor as many as counted but never the last line of
the text. What is left are the other lines; they are the lines of the new text unless a carriage
return comes to stand before a line feed. -/
theorem dispatchKey_removesLines {w : Workspace} {e : Editor} (he : w.editor? = some e)
    (count : Nat) :
    let i := (e.text.positionAt e.cursor.position).line
    let j := min (i + count) (e.text.lineCount - 1)
    ∃ e', w.dispatchKey ['d', 'd'] count = (.ok .commandLine, w.updateEditor fun _ => e') ∧
      e' = { e with
        text := e'.text, clipboard := e'.clipboard, cursor := e'.cursor, history := e'.history } ∧
      e'.text = (e.text.lines.take i ++ e.text.lines.drop j).flatten ∧
      e'.cursor = .caret (e.text.lineStart i) ∧
      (i < j → e'.clipboard = some ((e.text.lines.take j).drop i).flatten) ∧
      (i = j → e'.text = e.text ∧ e'.clipboard = e.clipboard ∧ e'.history = e.history) ∧
      (e'.text.lines = e.text.lines.take i ++ e.text.lines.drop j ↔
        ¬ Meet (e.text.lines.take i).flatten (e.text.lines.drop j).flatten) := by
  intro i j
  have hi : i < e.text.lineCount := (e.text.atCharacter_positionAt e.cursor.position).1
  have hj : j < e.text.lineCount := Vertical.target_lt (v := .down) hi
  have hij : i ≤ j := Nat.le_min.2 ⟨Nat.le_add_right i count, Nat.le_pred_of_lt hi⟩
  have hdispatch : w.dispatchKey ['d', 'd'] count =
      (.ok .commandLine, w.updateEditor fun _ => e.deleteLines count) :=
    edit_eq_const he .commandLine (·.deleteLines count)
  refine ⟨e.deleteLines count, hdispatch, ?_⟩
  have hselect : (e.go .lineStart 1).select .down count =
      { e with cursor := ⟨e.text.lineStart j, e.text.lineStart i⟩ } := e.go_select_lineStart count
  rw [Editor.deleteLines, hselect]
  rcases Nat.lt_or_eq_of_le hij with hlt | heq
  · have hcut := Editor.cut_lines hlt hj (e := { e with
      cursor := ⟨e.text.lineStart j, e.text.lineStart i⟩ }) rfl
    rw [hcut]
    exact ⟨rfl, rfl, rfl, fun _ => rfl, fun heq => absurd heq (Nat.ne_of_lt hlt),
      lines_without_iff hi hj⟩
  · -- There is no line to go down to, so nothing is selected.
    have hcut : Editor.cut { e with cursor := ⟨e.text.lineStart j, e.text.lineStart i⟩ } =
        { e with cursor := .caret (e.text.lineStart i) } := by
      simp [Editor.cut, Cursor.hasSelection, Cursor.caret, heq]
    have hall : (e.text.lines.take i ++ e.text.lines.drop j).flatten = e.text := by
      rw [← heq, List.flatten_append, flatten_take_append_drop]
    have hlines := lines_without_iff hi hj
    rw [hall] at hlines
    rw [hcut, hall]
    exact ⟨rfl, rfl, rfl, fun hlt => absurd heq (Nat.ne_of_lt hlt), fun _ => ⟨rfl, rfl, rfl⟩,
      hlines⟩

theorem dispatchKey_removesLines_selected :
    let e : Editor := { Editor.ofText "" "a\nbc\r\n\u6f22\nd".toList with cursor := ⟨3, 0⟩ }
    let w := (Workspace.ofFiles (.empty [])).add ⟨none, e⟩
    w.editor? = some e ∧ ∃ e', w.dispatchKey ['d', 'd'] 7 =
        (.ok .commandLine, w.updateEditor fun _ => e') ∧
      e'.text = "a\nd".toList ∧ e'.cursor = .caret 2 ∧
      e'.clipboard = some "bc\r\n\u6f22\n".toList := by
  intro e w
  obtain ⟨e', hdispatch, -, htext, hcursor, hclipboard, -⟩ :=
    dispatchKey_removesLines (w := w) (e := e) rfl 7
  exact ⟨rfl, e', hdispatch, htext, hcursor, hclipboard (by decide)⟩

end Workspace

end ModalEditor
