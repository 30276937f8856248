import ModalEditor.Proofs.Editor.Between
import ModalEditor.Proofs.Editor.Revert
import ModalEditor.Proofs.Key.Name
import ModalEditor.Proofs.Workspace.Every

namespace ModalEditor

namespace Editor

variable {e : Editor}

/-- The text has been edited, and both the clipboard, inserted where the caret is left, and one undo
take this back. -/
structure Reversible (e e' : Editor) : Prop where
  text_ne : e'.text ≠ e.text
  caret : e'.cursor.hasSelection = false
  paste : ∃ s, e'.clipboard = some s ∧ (e'.insert s).text = e.text
  undo : e'.undo.text = e.text

theorem Within.between_cut (h : e.Within) (hs : e.cursor.hasSelection) :
    e.cut.Between (e.text.take e.cursor.first) (e.text.drop e.cursor.last) where
  text_eq := text_cut hs
  cursor_eq := by
    rw [List.length_take_of_le h.cursor.first_le, Editor.cut, if_pos hs]

theorem Within.reversible_cut (h : e.Within) (hs : e.cursor.hasSelection) :
    e.Reversible e.cut where
  text_ne := (h.text_cut_ne hs).symm
  caret := e.hasSelection_cut
  paste := by
    refine ⟨e.text.slice e.cursor.first e.cursor.last, by rw [Editor.cut, if_pos hs], ?_⟩
    rw [((h.between_cut hs).insert _).text_eq, Text.take_slice_drop _ e.cursor.first_le_last]
  undo := by
    have hhistory : e.cut.history = e.history.push e.snapshot := history_of_edits (x := .cut) hs
    exact congrArg Snapshot.text (snapshot_undo hhistory)

theorem Within.cut_cases (h : e.Within) {c : Cursor} (hc : c.Within e.text) :
    let e' := Editor.cut { e with cursor := c }
    (e'.text = e.text ∧ e'.clipboard = e.clipboard ∧ e'.history = e.history) ∨
      e.Reversible e' := by
  intro e'
  cases hs : c.hasSelection with
  | false =>
    have hcut : e' = { e with cursor := c } := if_neg (by simp [hs])
    rw [hcut]
    exact .inl ⟨rfl, rfl, rfl⟩
  | true =>
    have hmoved : Within { e with cursor := c } := ⟨hc, h.history⟩
    have hcut := hmoved.reversible_cut hs
    exact .inr ⟨hcut.text_ne, hcut.caret, hcut.paste, hcut.undo⟩

end Editor

namespace Workspace

open Editor

variable {w : Workspace} {e : Editor}

theorem exists_dispatchKey_eq_cut (he : w.editor? = some e) (h : e.Within) {token : Text}
    (htoken : token ∈ [['d', 'd'], ['D'], ['d', 'w']]) (count : Nat) :
    ∃ c : Cursor, c.Within e.text ∧ w.dispatchKey token count =
      (.ok .commandLine, w.updateEditor fun _ => Editor.cut { e with cursor := c }) := by
  simp only [List.mem_cons, List.not_mem_nil, or_false] at htoken
  rcases htoken with rfl | rfl | rfl
  · refine ⟨_, ((h.go .lineStart 1).select .down count).cursor, ?_⟩
    rw [dispatchKey_of_mem_tokens (k := .deleteLine) (by decide)]
    exact edit_eq_const he .commandLine (·.deleteLines count)
  · refine ⟨_, ((h.select .lineEnd 1).select .down (count - 1)).cursor, ?_⟩
    rw [dispatchKey_of_mem_tokens (k := .deleteToLineEnd) (by decide)]
    exact edit_eq_const he .commandLine (·.deleteToLineEnd count)
  · refine ⟨_, (h.select .wordEnd count).cursor, ?_⟩
    rw [dispatchKey_of_mem_tokens (k := .deleteWord) (by decide)]
    exact edit_eq_const he .commandLine (·.deleteWords count)

theorem dispatchKey_undo_one (he : w.editor? = some e) :
    w.dispatchKey ['u'] 1 = (.ok .commandLine, w.updateEditor fun _ => e.undo) := by
  have hundo : e.undoTimes 1 = e.undo := e.undoTimes_eq_iterate 1
  rw [dispatchKey_of_mem_tokens (k := .undo) (by decide), ← hundo]
  exact edit_eq_const he .commandLine (·.undoTimes 1)

/-- A deletion leaves text, clipboard and history as they are, or it can be taken back by insertion
of the clipboard where it leaves the caret, and as well by one press of the key that undoes. -/
theorem dispatchKey_reversible (he : w.editor? = some e) (h : e.Attained) {token : Text}
    (htoken : token ∈ [['d', 'd'], ['D'], ['d', 'w']]) (count : Nat) :
    ∃ e', w.dispatchKey token count = (.ok .commandLine, w.updateEditor fun _ => e') ∧
      (w.updateEditor fun _ => e').dispatchKey ['u'] 1 =
        (.ok .commandLine, w.updateEditor fun _ => e'.undo) ∧
      ((e'.text = e.text ∧ e'.clipboard = e.clipboard ∧ e'.history = e.history) ∨
        e.Reversible e') := by
  have hwithin := h.wellFormed.toWithin
  obtain ⟨c, hc, hdispatch⟩ := exists_dispatchKey_eq_cut he hwithin htoken count
  refine ⟨_, hdispatch, ?_, hwithin.cut_cases hc⟩
  have hafter (e' : Editor) : (w.updateEditor fun _ => e').editor? = some e' := by
    rw [editor?_updateEditor, he]
    rfl
  rw [dispatchKey_undo_one (hafter _), updateEditor_updateEditor]
  rfl

theorem dispatchKey_reversible_selected :
    let e := ((Editor.ofText "" "ab\ncd\ne".toList).apply (.insert [])).apply (.setCursor ⟨4, 1⟩)
    let w := (Workspace.ofFiles (.empty [])).add ⟨none, e⟩
    w.editor? = some e ∧ e.Attained ∧ e.history = [⟨e.text, .caret 0⟩] ∧
      ∃ e', w.dispatchKey ['D'] 2 = (.ok .commandLine, w.updateEditor fun _ => e') ∧
        e'.text = ['a'] ∧ e'.cursor = .caret 1 ∧ e'.history = e.history ∧
        e.Reversible e' := by
  intro e w
  have he : e.Attained := .apply (.apply (.ofText _ _) (.insert [])) (.setCursor ⟨4, 1⟩)
  have htoken : ['D'] ∈ [['d', 'd'], ['D'], ['d', 'w']] := by decide
  obtain ⟨e', hdispatch, -, hcases⟩ := dispatchKey_reversible (w := w) (e := e) rfl he htoken 2
  have hrun : (w.dispatchKey ['D'] 2).2.editor?.map (fun e' => (e'.text, e'.cursor, e'.history)) =
      some (['a'], .caret 1, e.history) := by
    decide +kernel
  rw [hdispatch] at hrun
  obtain ⟨htext, hcursor, hhistory⟩ : e'.text = ['a'] ∧ e'.cursor = .caret 1 ∧
      e'.history = e.history := by
    simpa only [Prod.mk.injEq] using Option.some.inj hrun
  rcases hcases with ⟨hsame, -⟩ | hreversible
  · exact absurd (htext.symm.trans hsame) (by decide)
  · exact ⟨rfl, he, by decide, e', hdispatch, htext, hcursor, hhistory, hreversible⟩

end Workspace

end ModalEditor
