import ModalEditor.Proofs.CommandLine.Presses
import ModalEditor.Proofs.Workspace.Plan
import ModalEditor.Session

/-! Where a selection comes from. Nothing but undo leaves one, and nothing but the key for inserting
takes one along into the editor. -/

namespace ModalEditor

def Restored (ps : List Press) (t : Text) (c : Cursor) : Prop :=
  ∃ p ∈ ps, p.key = .undo ∧ p.result.text = t ∧ p.result.cursor = c

def EndsInInsert (ps : List Press) (t : Text) (c : Cursor) : Prop :=
  ∃ p, ps.getLast? = some p ∧ p.key = .insert ∧ p.editor.text = t ∧ p.editor.cursor = c

theorem Restored.append {ps : List Press} {t : Text} {c : Cursor} (h : Restored ps t c)
    (qs : List Press) : Restored (ps ++ qs) t c := by
  obtain ⟨p, hp, hundo⟩ := h
  exact ⟨p, List.mem_append_left _ hp, hundo⟩

structure Editor.Explained (ps : List Press) (e : Editor) : Prop where
  within : e.Within
  restored : e.cursor.hasSelection → Restored ps e.text e.cursor

namespace Editor.Explained

variable {ps : List Press} {e : Editor}

theorem append (h : e.Explained ps) (qs : List Press) : e.Explained (ps ++ qs) where
  within := h.within
  restored hs := (h.restored hs).append qs

theorem of_caret (h : e.Within) (he : e.cursor.hasSelection = false) : e.Explained ps where
  within := h
  restored hs := by
    rw [he] at hs
    cases hs

theorem clearHighlight (h : e.Explained ps) (owner : String) :
    (e.clearHighlight owner).Explained ps :=
  ⟨⟨h.within.cursor, h.within.history⟩, h.restored⟩

theorem dropFocus (h : e.Explained ps) : e.dropFocus.Explained ps :=
  ⟨⟨h.within.cursor, h.within.history⟩, h.restored⟩

theorem showCursor (h : e.Explained ps) (style : CursorStyle) :
    (CommandLine.showCursor style e).Explained ps := by
  simp only [CommandLine.showCursor]
  split
  all_goals exact ⟨⟨h.within.cursor, h.within.history⟩, h.restored⟩

theorem insert (h : e.Explained ps) (s : Text) : (e.insert s).Explained ps :=
  .of_caret (h.within.insert s) (hasSelection_insert e s)

theorem goToLine (h : e.Explained ps) (number : Nat) : (e.goToLine number).Explained ps :=
  .of_caret (h.within.goToLine number) (Cursor.hasSelection_caret _)

theorem replaceText (e : Editor) (text : Text) : (e.replaceText text).Explained ps :=
  .of_caret (Within.replaceText e text) (Cursor.hasSelection_caret _)

theorem ofText (name : String) (text : Text) : (Editor.ofText name text).Explained ps :=
  .of_caret (within_ofText name text) (Cursor.hasSelection_caret _)

theorem change (h : e.Explained ps) (k : Key) (count : Nat) :
    (k.change count e).Explained (ps ++ [⟨k, count, e⟩]) where
  within := Key.within_change h.within count k
  restored hs := by
    rcases Key.hasSelection_change hs with rfl | rfl | rfl
    -- text and cursor are the old ones but after undo, which is on record now
    · exact (h.restored hs).append _
    · exact ⟨_, List.mem_append_right _ (List.mem_singleton.2 rfl), rfl, rfl, rfl⟩
    · exact (h.restored hs).append _

end Editor.Explained

namespace CommandLine

structure Explained (ps : List Press) (c : CommandLine) : Prop where
  editors : c.workspace.Every (Editor.Explained ps)
  inserting : c.focus = .editor → ∃ e, c.workspace.editor? = some e ∧
    (e.cursor.hasSelection → EndsInInsert ps e.text e.cursor)

namespace Explained

variable {ps : List Press} {c : CommandLine}

theorem of_commandLine (hc : c.focus = .commandLine)
    (h : c.workspace.Every (Editor.Explained ps)) : c.Explained ps where
  editors := h
  inserting hf := by
    rw [hc] at hf
    cases hf

theorem settle {o : Dispatch} (hc : c.focus = .commandLine) (ho : o.1 ≠ .ok .editor)
    (h : o.2.Every (Editor.Explained ps)) : (c.settle o).Explained ps := by
  cases hr : o.1 with
  | error e =>
    rw [settle_error hr]
    exact .of_commandLine hc h
  | ok f =>
    cases f with
    | editor => exact absurd hr ho
    | commandLine =>
      rw [settle_commandLine hr]
      exact .of_commandLine hc h

theorem focusOut {e : Editor} {k : Key} {count : Nat} (hk : k.focus = .editor)
    (he : c.workspace.editor? = some (k.change count e))
    (h : c.workspace.Every (Editor.Explained (ps ++ [⟨k, count, e⟩]))) :
    c.focusOut.Explained (ps ++ [⟨k, count, e⟩]) where
  editors := h.update fun _ he => he.clearHighlight cursorOwner
  inserting _ := by
    refine ⟨(k.change count e).clearHighlight cursorOwner, by simp [CommandLine.focusOut, he], ?_⟩
    intro hs
    rcases Key.hasSelection_change hs with rfl | rfl | rfl
    · exact ⟨_, List.getLast?_concat .., rfl, rfl, rfl⟩
    · cases hk
    · cases hk

theorem runSequence (h : c.Explained ps) (hc : c.focus = .commandLine) (s : KeySequence) :
    (c.runSequence s).Explained (ps ++ (c.workspace.press? s).toList) := by
  cases hp : c.workspace.press? s with
  | none =>
    obtain ⟨e, w, ho, hw⟩ := Workspace.press?_eq_none hp
    rw [CommandLine.runSequence, ho, settle_error rfl]
    refine .of_commandLine hc fun d hd => ?_
    simpa using h.editors d (hw ▸ hd)
  | some p =>
    obtain ⟨he, ho⟩ := Workspace.press?_eq_some hp
    obtain ⟨k, count, e⟩ := p
    rw [CommandLine.runSequence, ho]
    by_cases hzz : k = .saveAndClose
    · subst hzz
      exact settle hc (Workspace.run_ne_editor _ _)
        (Workspace.Every.run Editor.Explained.ofText (fun e t _ => .replaceText e t)
          (h.editors.mono fun _ he => he.append _) _)
    · have hw : (c.workspace.updateEditor (k.change count ·)).Every
          (Editor.Explained (ps ++ [⟨k, count, e⟩])) := by
        refine h.editors.updateEditor (fun e' he' h' => ?_) fun e' h' => h'.append _
        rw [he, Option.some.injEq] at he'
        exact he' ▸ h'.change k count
      rw [Key.press_eq_edit hzz, Workspace.edit_of_editor? he]
      cases hk : k.focus with
      | commandLine => exact settle hc (by simp) hw
      | editor =>
        rw [settle_editor (c := { c with buffer := s.rest }) hc rfl]
        exact focusOut hk (by simp [he]) hw

theorem runSequences (h : c.Explained ps) : c.runSequences.Explained (ps ++ c.presses) := by
  fun_induction CommandLine.runSequences c generalizing ps with
  | case1 c _ hs =>
    rw [presses_of_none hs, List.append_nil]
    exact h
  | case2 c hc s hs ih =>
    rw [presses_of_some hc hs, ← List.append_assoc]
    exact ih (h.runSequence hc s)
  | case3 c hc =>
    have hf : c.focus = .editor := by
      cases hf : c.focus with
      | commandLine => exact absurd hf hc
      | editor => rfl
    rw [presses_of_editor hf, List.append_nil]
    exact h

theorem refreshIfFocused (h : c.Explained ps) : c.refreshIfFocused.Explained ps := by
  rw [CommandLine.refreshIfFocused]
  split
  · rename_i hc
    exact .of_commandLine hc (h.editors.update fun _ he => he.showCursor c.style)
  · exact h

theorem textChanged (h : c.Explained ps) (t : Text) :
    (c.textChanged t).Explained (ps ++ presses { c with buffer := t }) :=
  (runSequences (c := { c with buffer := t }) ⟨h.editors, h.inserting⟩).refreshIfFocused

theorem typeText (h : c.Explained ps) (t : Text) :
    (c.typeText t).Explained (ps ++ c.typedPresses t) := by
  induction t generalizing c ps with
  | nil =>
    rw [typedPresses, List.append_nil]
    exact h
  | cons k ks ih =>
    rw [typedPresses, ← List.append_assoc]
    exact ih (h.textChanged (c.buffer ++ [k]))

theorem enter (h : c.Explained ps) (hc : c.focus = .commandLine) : c.enter.Explained ps := by
  rw [CommandLine.enter]
  split
  · exact h
  · refine refreshIfFocused ?_
    simp only [runLine]
    split
    · exact settle hc (Workspace.dispatchCommand_ne_editor _ _)
        (.dispatchCommand Editor.Explained.ofText (fun e t _ => .replaceText e t)
          (fun _ n he => he.goToLine n) h.editors _)
    all_goals exact .of_commandLine hc h.editors

theorem focusIn (h : c.Explained ps) : c.focusIn.Explained ps :=
  .of_commandLine rfl
    ((h.editors.update fun _ he => he.dropFocus).update fun _ he => he.showCursor c.style)

theorem insertText (h : c.Explained ps) (hc : c.focus = .editor) (s : Text) :
    (Session.insertText c s).Explained ps where
  editors := h.editors.update fun _ he => he.insert s
  inserting _ := by
    obtain ⟨e, he, -⟩ := h.inserting hc
    refine ⟨e.insert s, by simp [Session.insertText, updateWorkspace, he], fun hs => ?_⟩
    rw [Editor.hasSelection_insert] at hs
    cases hs

theorem typeLine (h : c.Explained ps) (line : Text) :
    (Session.typeLine c line).Explained (ps ++ c.typedPresses line) := by
  induction line generalizing c ps with
  | nil =>
    rw [Session.typeLine, typedPresses, List.append_nil]
    split
    · rename_i hc
      exact h.enter hc
    · exact h
  | cons k ks ih =>
    rw [Session.typeLine]
    cases hc : c.focus with
    | commandLine =>
      rw [if_pos rfl, typedPresses, ← List.append_assoc]
      exact ih (h.textChanged (c.buffer ++ [k]))
    | editor =>
      rw [if_neg (by simp), typedPresses_of_editor hc, List.append_nil]
      exact h.insertText hc _

end Explained

end CommandLine

end ModalEditor
