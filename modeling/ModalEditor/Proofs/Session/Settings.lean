import ModalEditor.Proofs.Session.InsertMode
import ModalEditor.Proofs.Workspace.Bare

/-! Settings change the look of a session and nothing else. Two sessions with the same documents and
the same input, whatever their settings, go side by side through states that are alike. -/

namespace ModalEditor

open KeySequence

namespace CommandLine

structure Alike (c d : CommandLine) : Prop where
  workspace : c.workspace.bare = d.workspace.bare
  buffer : c.buffer = d.buffer
  focus : c.focus = d.focus
  reports : c.reports = d.reports

namespace Alike

variable {c d : CommandLine}

theorem ofSettings (w : Workspace) (s t : Settings) :
    Alike (.ofSettings w s) (.ofSettings w t) where
  workspace := rfl
  buffer := rfl
  focus := rfl
  reports := rfl

theorem withBuffer (h : Alike c d) (t : Text) :
    Alike { c with buffer := t } { d with buffer := t } where
  workspace := h.workspace
  buffer := rfl
  focus := h.focus
  reports := h.reports

theorem updateEditor (h : Alike c d) {f : Editor → Editor} (hf : Editor.IgnoresCursor f) :
    Alike (c.updateWorkspace (·.updateEditor f)) (d.updateWorkspace (·.updateEditor f)) where
  workspace := by
    have hbare (w : Workspace) := w.bare_updateEditor fun e => (hf e).symm
    simp only [updateWorkspace, hbare, h.workspace]
  buffer := h.buffer
  focus := h.focus
  reports := h.reports

theorem report (h : Alike c d) (e : DispatchError) : Alike (c.report e) (d.report e) where
  workspace := h.workspace
  buffer := h.buffer
  focus := h.focus
  reports := congrArg (· ++ [e]) h.reports

theorem bare_refresh (c : CommandLine) : c.refresh.workspace.bare = c.workspace.bare :=
  c.workspace.bare_updateEditor_of_highlight fun e => e.clearHighlight_showCursor c.style

theorem refresh (h : Alike c d) : Alike c.refresh d.refresh where
  workspace := by rw [bare_refresh, bare_refresh, h.workspace]
  buffer := h.buffer
  focus := h.focus
  reports := h.reports

theorem refreshIfFocused (h : Alike c d) : Alike c.refreshIfFocused d.refreshIfFocused := by
  rw [CommandLine.refreshIfFocused, CommandLine.refreshIfFocused, h.focus]
  split
  · exact h.refresh
  · exact h

theorem focusIn (h : Alike c d) : Alike c.focusIn d.focusIn := by
  have hdrop := h.updateEditor (f := Editor.dropFocus) fun _ => rfl
  exact refresh ⟨hdrop.workspace, rfl, rfl, h.reports⟩

theorem bare_focusOut (c : CommandLine) : c.focusOut.workspace.bare = c.workspace.bare :=
  c.workspace.bare_updateEditor_of_highlight fun e => e.clearHighlight_clearHighlight cursorOwner

theorem focusOut (h : Alike c d) : Alike c.focusOut d.focusOut where
  workspace := by rw [bare_focusOut, bare_focusOut, h.workspace]
  buffer := h.buffer
  focus := rfl
  reports := h.reports

theorem follow (h : Alike c d) (f : Focus) : Alike (c.follow f) (d.follow f) := by
  rw [CommandLine.follow, CommandLine.follow, h.focus]
  split
  · exact h.focusOut
  · exact h

theorem settle (h : Alike c d) (i : Input) :
    Alike (c.settle (c.workspace.dispatch i)) (d.settle (d.workspace.dispatch i)) := by
  have hbare : Dispatch.bare (c.workspace.dispatch i) = Dispatch.bare (d.workspace.dispatch i) := by
    rw [← Workspace.dispatch_bare, ← Workspace.dispatch_bare, h.workspace]
  obtain ⟨hresult, hworkspace⟩ := Prod.mk.inj hbare
  have hmoved : Alike { c with workspace := (c.workspace.dispatch i).2 }
      { d with workspace := (d.workspace.dispatch i).2 } :=
    ⟨hworkspace, h.buffer, h.focus, h.reports⟩
  simp only [CommandLine.settle, hresult]
  split
  · exact hmoved.follow _
  · exact hmoved.report _

theorem runSequence (h : Alike c d) (s : KeySequence) :
    Alike (c.runSequence s) (d.runSequence s) :=
  (h.withBuffer s.rest).settle (.key s.token s.count)

theorem runSequences (h : Alike c d) : Alike c.runSequences d.runSequences := by
  fun_induction CommandLine.runSequences c generalizing d with
  | case1 c _ hs =>
    rw [h.buffer] at hs
    rwa [runSequences_of_none hs]
  | case2 c hc s hs ih =>
    rw [h.focus] at hc
    rw [h.buffer] at hs
    rw [runSequences_of_some hc hs]
    exact ih (h.runSequence s)
  | case3 c hc =>
    rw [h.focus] at hc
    rwa [runSequences_of_editor (Focus.eq_editor hc)]

theorem textChanged (h : Alike c d) (t : Text) : Alike (c.textChanged t) (d.textChanged t) :=
  (h.withBuffer t).runSequences.refreshIfFocused

theorem typeChar (h : Alike c d) (k : Char) : Alike (c.typeChar k) (d.typeChar k) := by
  rw [CommandLine.typeChar, CommandLine.typeChar, h.buffer]
  exact h.textChanged _

theorem runLine (h : Alike c d) (line : Text) : Alike (c.runLine line) (d.runLine line) := by
  simp only [CommandLine.runLine]
  split
  · exact h.settle (.command _)
  · exact h.report _
  · exact h.report _
  · exact h.report _
  · exact h

theorem enter (h : Alike c d) : Alike c.enter d.enter := by
  rw [CommandLine.enter, CommandLine.enter, h.buffer]
  split
  · exact h
  · exact ((h.withBuffer []).runLine d.buffer).refreshIfFocused

end Alike

end CommandLine

namespace Session

open CommandLine (Alike cursorOwner)

variable {c d : CommandLine} {p q : Plugin}

theorem alike_insertText (h : Alike c d) (t : Text) : Alike (insertText c t) (insertText d t) :=
  h.updateEditor fun _ => rfl

theorem alike_typeLine (h : Alike c d) (line : Text) :
    Alike (typeLine c line) (typeLine d line) := by
  induction line generalizing c d with
  | nil =>
    rw [typeLine, typeLine, h.focus]
    split
    · exact h.enter
    · exact h
  | cons k ks ih =>
    rw [typeLine, typeLine, h.focus]
    split
    · exact ih (h.typeChar k)
    · exact alike_insertText h _

theorem alike_feed (h : Alike p.commandLine q.commandLine) (line : Text) :
    Alike (feed p line).commandLine (feed q line).commandLine := by
  rw [commandLine_feed, commandLine_feed, h.focus]
  split
  · exact h.focusIn
  · split
    · exact alike_insertText h _
    · exact alike_typeLine h line

theorem row_eq_of_alike (h : Alike p.commandLine q.commandLine) : row p = row q := by
  have heditors : p.commandLine.workspace.bare.editor? = q.commandLine.workspace.bare.editor? :=
    congrArg Workspace.editor? h.workspace
  rw [Workspace.editor?_bare, Workspace.editor?_bare] at heditors
  rw [row, row, h.focus]
  cases hp : p.commandLine.workspace.editor? with
  | none =>
    rw [hp, Option.map_none, eq_comm, Option.map_eq_none_iff] at heditors
    rw [heditors]
  | some e =>
    rw [hp, Option.map_some, eq_comm, Option.map_eq_some_iff] at heditors
    obtain ⟨e', hq, heq⟩ := heditors
    have hname : e'.name = e.name :=
      show (e'.clearHighlight cursorOwner).name = (e.clearHighlight cursorOwner).name by rw [heq]
    have hlineColumn : e'.lineColumn = e.lineColumn :=
      show (e'.clearHighlight cursorOwner).lineColumn = (e.clearHighlight cursorOwner).lineColumn by
        rw [heq]
    simp only [hq, hname, hlineColumn]

theorem isOver_eq_of_alike (h : Alike p.commandLine q.commandLine) : isOver p = isOver q := by
  have hdocuments := congrArg (·.documents.isEmpty) h.workspace
  simpa [isOver, Workspace.bare] using hdocuments

structure Result.Alike (r s : Result) : Prop where
  rows : r.rows = s.rows
  ending : r.ending = s.ending
  commandLine : r.plugin.commandLine.Alike s.plugin.commandLine

theorem Result.Alike.cons {r s : Result} (h : r.Alike s) {x y : Row} (hrow : x = y) :
    Alike { r with rows := x :: r.rows } { s with rows := y :: s.rows } where
  rows := by rw [hrow, h.rows]
  ending := h.ending
  commandLine := h.commandLine

theorem alike_feedAll (h : Alike p.commandLine q.commandLine) (lines : List (Option Text)) :
    (feedAll p lines).Alike (feedAll q lines) := by
  induction lines generalizing p q with
  | nil => exact ⟨rfl, rfl, h⟩
  | cons line lines ih =>
    cases line with
    | none => exact ⟨rfl, rfl, h⟩
    | some line =>
      have hnext := alike_feed h line
      rw [feedAll, feedAll, isOver_eq_of_alike hnext, row_eq_of_alike hnext]
      split
      · exact ⟨rfl, rfl, hnext⟩
      · exact (ih hnext).cons rfl

/-- Whatever their settings, sessions on one workspace and one input tell the same rows, end the
same way and leave the same state behind: files, actions, documents with their texts, cursors,
histories, clipboards and focus, the current one, the buffer and the errors. -/
theorem settings_cosmetic (w : Workspace) (s t : Settings) (lines : List (Option Text)) :
    (run (.ofSettings w s) lines).Alike (run (.ofSettings w t) lines) := by
  have hstart := (Alike.ofSettings w s t).focusIn
  exact (alike_feedAll (p := (Plugin.ofSettings w s).update .focusIn)
    (q := (Plugin.ofSettings w t).update .focusIn) hstart lines).cons (row_eq_of_alike hstart)

end Session

end ModalEditor
