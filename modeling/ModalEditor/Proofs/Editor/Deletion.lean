import ModalEditor.Proofs.Editor.Move
import ModalEditor.Proofs.Key.Name
import ModalEditor.Proofs.Motion.WordEnd
import ModalEditor.Proofs.Text.Cut
import ModalEditor.Proofs.Workspace.Every

namespace ModalEditor

namespace Editor

variable {e : Editor} {n m : Nat}

theorem text_cut_of_le (hc : e.cursor = ⟨m, n⟩) (hle : n ≤ m) :
    e.cut.text = e.text.take n ++ e.text.drop m := by
  rcases Nat.lt_or_eq_of_le hle with hlt | rfl
  · rw [text_cut (by simp [hc, Cursor.hasSelection, Nat.ne_of_gt hlt]), hc, Cursor.first,
      Cursor.last, Nat.min_eq_right hle, Nat.max_eq_left hle]
  · simp [cut, hc, Cursor.hasSelection]

theorem select_zero (h : e.cursor.position ≤ e.text.length) (m : Motion) : e.select m 0 = e := by
  have hselect : e.select m 0 = { e with
      cursor := ⟨e.text.offsetAt (e.text.positionAt e.cursor.position), e.cursor.anchor⟩ } := rfl
  rw [hselect, Text.offsetAt_positionAt h]

end Editor

inductive Deletion
  | toLineEnd
  | words (count : Nat)
  deriving DecidableEq, Repr

namespace Deletion

open Text Editor

def token : Deletion → Text
  | toLineEnd => ['D']
  | words _ => ['d', 'w']

def count : Deletion → Nat
  | toLineEnd => 1
  | words count => count

def change : Deletion → Editor → Editor
  | toLineEnd => (·.deleteToLineEnd 1)
  | words count => (·.deleteWords count)

theorem dispatchKey_token (w : Workspace) (d : Deletion) :
    w.dispatchKey d.token d.count = w.edit .commandLine d.change := by
  cases d with
  | toLineEnd =>
    have hbound : (['D'], Key.deleteToLineEnd) ∈ Key.tokens := by decide
    exact Workspace.dispatchKey_of_mem_tokens hbound w 1
  | words count =>
    have hbound : (['d', 'w'], Key.deleteWord) ∈ Key.tokens := by decide
    exact Workspace.dispatchKey_of_mem_tokens hbound w count

variable {e : Editor} {b k : Text} {pre post : List Text} {j : Nat}

theorem exists_text_change (h : Place e.text e.cursor.position pre b k post j)
    (hc : e.cursor.hasSelection = false) (d : Deletion) :
    ∃ m, j ≤ m ∧ m ≤ (e.text.content pre.length).length ∧
      (d.change e).text =
        e.text.take e.cursor.position ++ e.text.drop (pre.flatten.length + m) := by
  have hanchor : e.cursor.anchor = e.cursor.position :=
    congrArg Cursor.anchor (Cursor.eq_caret_of_hasSelection hc)
  cases d with
  | toLineEnd =>
    have hend : e.text.offsetAfter .lineEnd e.cursor.position =
        pre.flatten.length + (e.text.content pre.length).length := by
      rw [h.offsetAfter_lineEnd, h.content_eq]
    have hselect := select_one h.le_length .lineEnd
    rw [hend, hanchor] at hselect
    have hle : pre.flatten.length + (e.text.content pre.length).length ≤ e.text.length :=
      hend ▸ offsetAfter_le_length h.le_length .lineEnd
    have hchange : toLineEnd.change e = ((e.select .lineEnd 1).select .down 0).cut := rfl
    refine ⟨_, h.le_length_content, Nat.le_refl _, ?_⟩
    rw [hchange, hselect, select_zero hle]
    refine text_cut_of_le rfl ?_
    rw [h.offset_eq]
    exact Nat.add_le_add_left h.le_length_content _
  | words count =>
    obtain ⟨m, hjm, hm, hoffset⟩ := h.exists_offsetAt (h.ahead.walk_wordEnd count)
    have hcursor : (e.select .wordEnd count).cursor =
        ⟨pre.flatten.length + m, e.cursor.position⟩ := by
      rw [← hoffset]
      exact congrArg (Cursor.mk _) hanchor
    refine ⟨m, hjm, hm, text_cut_of_le hcursor ?_⟩
    rw [h.offset_eq]
    exact Nat.add_le_add_left hjm _

/-- Each deletion takes away what stands right of the caret, as far as the content of the line goes.
It leaves the break of the line and all other lines as they are, if and only if what goes away is
nothing, or has no break in it and does not keep a carriage return from a line feed. On a line that
ends with a line feed it does, unless the caret is at its start, behind a carriage return. -/
theorem dispatchKey_cutsLine_iff {w : Workspace} (he : w.editor? = some e)
    (hc : e.cursor.hasSelection = false) (hle : e.cursor.position ≤ e.text.length) (d : Deletion) :
    let i := (e.text.positionAt e.cursor.position).line
    let column := e.cursor.position - e.text.lineStart i
    ∃ e' removed rest,
      w.dispatchKey d.token d.count = (.ok .commandLine, w.updateEditor fun _ => e') ∧
      e.text.drop e.cursor.position = removed ++ rest ∧
      e'.text = e.text.take e.cursor.position ++ rest ∧
      removed <+: (e.text.content i).drop column ∧
      (e.text.CutsLine i column e'.text ↔
        removed = [] ∨ Unbroken removed ∧ ¬ Meet (e.text.take e.cursor.position) rest) ∧
      (e.text.breakAt i = [] ∨ e.text.breakAt i = ['\n'] →
        (column = 0 → ¬ e.text.BehindReturn i) → e.text.CutsLine i column e'.text) := by
  intro i column
  obtain ⟨pre, b, k, post, j, h⟩ := exists_place hle
  have hi : i = pre.length := congrArg Position.line h.positionAt_eq
  have hcolumn : column = j := by
    simp only [column, hi, h.lineStart_eq]
    have := h.offset_eq
    omega
  obtain ⟨m, hjm, hm, htext⟩ := exists_text_change h hc d
  rw [hi, hcolumn]
  obtain ⟨before, r, after, hl, rfl, hr, htake, hdrop, hrest⟩ := h.exists_split hjm hm
  rw [hrest] at htext
  refine ⟨d.change e, r, after ++ post.flatten, ?_, hdrop, htext, hr, ?_, ?_⟩
  · rw [dispatchKey_token, Workspace.edit_eq_const he]
  · rw [htext, htake]
    exact h.cutsLine_iff hl
  · rw [h.breakAt_eq, htext, htake]
    exact fun hk hreturn => h.cutsLine_of_lineFeed hl hk hr hreturn

theorem dispatchKey_cutsLine_words :
    let w := (Workspace.ofFiles (.empty [])).withDocument "" "ab cd\ne".toList
    ∃ e', w.dispatchKey ['d', 'w'] 2 = (.ok .commandLine, w.updateEditor fun _ => e') ∧
      e'.text = "\ne".toList ∧ CutsLine "ab cd\ne".toList 0 0 e'.text := by
  intro w
  obtain ⟨e', -, -, hdispatch, -, -, -, -, hcuts⟩ :=
    dispatchKey_cutsLine_iff (w := w) (e := .ofText "" "ab cd\ne".toList) rfl rfl (by decide) (words 2)
  have htext : some e'.text = some "\ne".toList := by
    have hrun : (w.dispatchKey ['d', 'w'] 2).2.editor?.map (·.text) = some "\ne".toList := by
      decide +kernel
    exact (congrArg (·.2.editor?.map (·.text)) hdispatch).symm.trans hrun
  exact ⟨e', hdispatch, Option.some.inj htext, hcuts (.inr (by decide)) (by decide)⟩

/-- The carriage return goes away that belongs to the break of the line. -/
theorem exists_toLineEnd_not_cutsLine :
    let w := (Workspace.ofFiles (.empty [])).withDocument "" "a\r\nb".toList
    (w.dispatchKey ['D'] 1).2.editor?.map (·.text) = some "\nb".toList ∧
      ¬ CutsLine "a\r\nb".toList 0 0 "\nb".toList := by
  refine ⟨by decide +kernel, ?_⟩
  rintro ⟨before, removed, after, hline, hbefore, hremoved, -, hlines⟩
  obtain rfl := List.length_eq_zero_iff.1 hbefore
  have hafter : some ['\n'] = some after := congrArg List.head? hlines
  cases Option.some.inj hafter
  have hline : ['a', '\r'] ++ ['\n'] = removed ++ ['\n'] := Option.some.inj hline
  rw [← List.append_cancel_right hline] at hremoved
  exact absurd hremoved (by decide)

end Deletion

end ModalEditor
