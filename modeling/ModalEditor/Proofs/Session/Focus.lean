import ModalEditor.Proofs.CommandLine.Event
import ModalEditor.Proofs.Session.InsertMode
import ModalEditor.Proofs.Workspace.OnlyCurrent

/-! In a session the command line and the editors agree on who has the focus. A key that hands it
over puts it into the current editor, nothing else happens to the documents until it comes back, and
then it is taken from that same editor. -/

namespace ModalEditor

namespace Editor

variable (e : Editor)

@[simp] theorem focused_cut : e.cut.focused = e.focused := by
  simp only [cut]
  split <;> rfl

@[simp] theorem focused_undo : e.undo.focused = e.focused := by
  simp only [undo]
  split <;> rfl

@[simp] theorem focused_undoTimes (count : Nat) : (e.undoTimes count).focused = e.focused :=
  undoTimes_of_undo (P := (·.focused = e.focused)) (fun e' h => e'.focused_undo.trans h) rfl count

@[simp] theorem focused_showCursor (style : CursorStyle) :
    (CommandLine.showCursor style e).focused = e.focused := by
  rw [CommandLine.showCursor]
  split <;> rfl

end Editor

theorem Key.focused_change (e : Editor) (count : Nat) (k : Key) :
    (k.change count e).focused = (k.focus == .editor || e.focused) := by
  cases k with
  | undo => exact e.focused_undoTimes count
  | deleteLine | deleteToLineEnd | deleteWord => exact Editor.focused_cut _
  | _ => rfl

namespace CommandLine

structure FocusAgrees (c : CommandLine) : Prop where
  onlyCurrent : c.workspace.OnlyCurrent (·.focused)
  focus_iff : c.focus = .editor ↔ ∃ e, c.workspace.editor? = some e ∧ e.focused

namespace FocusAgrees

variable {c : CommandLine}

theorem of_every (hc : c.focus = .commandLine) (h : c.workspace.Every (¬ ·.focused)) :
    c.FocusAgrees where
  onlyCurrent := h.onlyCurrent
  focus_iff := by
    rw [hc]
    exact iff_of_false nofun fun ⟨e, he, hf⟩ => h.editor he hf

theorem every (h : c.FocusAgrees) (hc : c.focus = .commandLine) :
    c.workspace.Every (¬ ·.focused) := by
  refine h.onlyCurrent.every fun e he hf => ?_
  have heditor := h.focus_iff.2 ⟨e, he, hf⟩
  rw [hc] at heditor
  cases heditor

theorem updateEditor (h : c.FocusAgrees) {f : Editor → Editor}
    (hf : ∀ e, (f e).focused = e.focused) :
    FocusAgrees { c with workspace := c.workspace.updateEditor f } where
  onlyCurrent := Workspace.onlyCurrent_updateEditor.2 h.onlyCurrent
  focus_iff := by
    rw [h.focus_iff]
    simp [hf]

theorem focusOut {e : Editor} (h : c.workspace.OnlyCurrent (·.focused))
    (he : c.workspace.editor? = some e) (hf : e.focused) : c.focusOut.FocusAgrees where
  onlyCurrent := Workspace.onlyCurrent_updateEditor.2 h
  focus_iff := iff_of_true rfl
    ⟨e.clearHighlight cursorOwner, by simp [CommandLine.focusOut, he], hf⟩

theorem settle {o : Dispatch} (hc : c.focus = .commandLine) (ho : o.1 ≠ .ok .editor)
    (h : o.2.Every (¬ ·.focused)) : (c.settle o).FocusAgrees := by
  obtain ⟨reports, hsettle⟩ := settle_of_ne_editor (c := c) ho
  rw [hsettle]
  exact of_every hc h

theorem runSequence (h : c.FocusAgrees) (hc : c.focus = .commandLine) (s : KeySequence) :
    (c.runSequence s).FocusAgrees := by
  have hevery := h.every hc
  rcases c.workspace.dispatchKey_cases s.token s.count with ⟨e, hd⟩ | ⟨k, e, he, hd⟩ | hd
  all_goals rw [CommandLine.runSequence, hd]
  · exact settle hc (by simp) hevery
  · cases hk : k.focus with
    | commandLine =>
      refine settle hc (by simp) (hevery.update fun e he => ?_)
      rw [Key.focused_change, hk]
      exact he
    | editor =>
      rw [settle_editor (c := { c with buffer := s.rest }) hc rfl]
      refine focusOut (e := k.change s.count e) ?_ (by simp [he]) ?_
      · exact Workspace.onlyCurrent_updateEditor.2 h.onlyCurrent
      · rw [Key.focused_change, hk]
        rfl
  · exact settle hc (Workspace.run_ne_editor _ _)
      (Workspace.Every.run (fun _ _ => Bool.false_ne_true) (fun _ _ he => he) hevery _)

theorem refreshIfFocused (h : c.FocusAgrees) : c.refreshIfFocused.FocusAgrees := by
  rw [CommandLine.refreshIfFocused]
  split
  · exact h.updateEditor fun e => e.focused_showCursor c.style
  · exact h

theorem textChanged (h : c.FocusAgrees) (t : Text) : (c.textChanged t).FocusAgrees :=
  refreshIfFocused (runSequences_of_runSequence (P := FocusAgrees)
    (fun _ s hc h => h.runSequence hc s) ⟨h.onlyCurrent, h.focus_iff⟩)

theorem enter (h : c.FocusAgrees) (hc : c.focus = .commandLine) : c.enter.FocusAgrees := by
  rcases c.enter_cases with ⟨line, reports, -, he⟩ | ⟨reports, -, he⟩ | ⟨-, he⟩
  all_goals rw [he]
  · refine refreshIfFocused (of_every hc ?_)
    exact Workspace.Every.dispatchCommand (fun _ _ => Bool.false_ne_true) (fun _ _ he => he)
      (fun _ _ he => he) (h.every hc) line
  · exact refreshIfFocused ⟨h.onlyCurrent, h.focus_iff⟩
  · exact h

theorem focusIn (h : c.workspace.OnlyCurrent (·.focused)) : c.focusIn.FocusAgrees := by
  refine of_every rfl (Workspace.Every.update ?_ fun e he => ?_)
  · exact h.every_updateEditor fun _ => Bool.false_ne_true
  · rwa [e.focused_showCursor c.style]

theorem insertText (h : c.FocusAgrees) (s : Text) : (Session.insertText c s).FocusAgrees :=
  h.updateEditor fun _ => rfl

theorem typeLine (h : c.FocusAgrees) (line : Text) : (Session.typeLine c line).FocusAgrees := by
  fun_induction Session.typeLine c line with
  | case1 c hc => exact h.enter hc
  | case2 => exact h
  | case3 c k _ _ ih => exact ih (h.textChanged (c.buffer ++ [k]))
  | case4 c k ks => exact h.insertText (k :: ks)

end FocusAgrees

end CommandLine

namespace Session

variable {p : Plugin} {w : Workspace} {settings : Settings}

theorem commandLine_feed_escapeLine (p : Plugin) :
    (feed p escapeLine).commandLine = p.commandLine.focusIn := by
  rw [commandLine_feed, if_pos rfl]

theorem focusAgrees_feed (h : p.commandLine.FocusAgrees) (line : Text) :
    (feed p line).commandLine.FocusAgrees := by
  rw [commandLine_feed]
  split
  · exact .focusIn h.onlyCurrent
  · split
    · exact h.insertText _
    · exact h.typeLine line

theorem focusAgrees_after (h : p.commandLine.FocusAgrees) (lines : List Text) :
    (after p lines).commandLine.FocusAgrees :=
  after_of_feed (P := (·.commandLine.FocusAgrees)) (fun _ line hp => focusAgrees_feed hp line) h lines

theorem focusAgrees_start (hw : ∀ d ∈ w.documents, d.editor.focused = false)
    (settings : Settings) : (start w settings).commandLine.FocusAgrees := by
  have hevery : w.Every (¬ ·.focused) := fun d hd => Bool.eq_false_iff.1 (hw d hd)
  exact .focusIn hevery.onlyCurrent

/-- Between the lines of a session the editor has the focus just when an open document has taken it.
That is the current one then and no other one, so the status is told with a document; and leaving
insert mode takes the focus from all. -/
theorem focus_agrees (hw : ∀ d ∈ w.documents, d.editor.focused = false) (lines : List Text) :
    let p := after (start w settings) lines
    let c := p.commandLine
    (c.focus = .editor ↔ ∃ d ∈ c.workspace.documents, d.editor.focused) ∧
      (c.focus = .editor → ∃ i d, c.workspace.current = some i ∧
        c.workspace.documents[i]? = some d ∧ d.editor.focused ∧
          ∀ j d', c.workspace.documents[j]? = some d' → d'.editor.focused → j = i) ∧
      (c.focus = .editor → ∃ name line column, row p = .cursor name line column .editor) ∧
      ∀ d ∈ (feed p escapeLine).commandLine.workspace.documents, d.editor.focused = false := by
  intro p c
  have h : c.FocusAgrees := focusAgrees_after (focusAgrees_start hw settings) lines
  have hcurrent : c.focus = .editor → ∃ i d, c.workspace.current = some i ∧
      c.workspace.documents[i]? = some d ∧ d.editor.focused := by
    intro hc
    obtain ⟨e, he, hf⟩ := h.focus_iff.1 hc
    obtain ⟨d, hd, rfl⟩ := Option.map_eq_some_iff.1 he
    obtain ⟨i, hi, hdi⟩ := Option.bind_eq_some_iff.1 hd
    exact ⟨i, d, hi, hdi, hf⟩
  refine ⟨⟨fun hc => ?_, fun ⟨d, hd, hf⟩ => ?_⟩, fun hc => ?_, fun hc => ?_, fun d hd => ?_⟩
  · obtain ⟨i, d, -, hdi, hf⟩ := hcurrent hc
    exact ⟨d, List.mem_of_getElem? hdi, hf⟩
  · cases hc : c.focus with
    | commandLine => exact absurd hf (h.every hc d hd)
    | editor => rfl
  · obtain ⟨i, d, hi, hdi, hf⟩ := hcurrent hc
    refine ⟨i, d, hi, hdi, hf, fun j d' hd' hf' => ?_⟩
    exact Option.some.inj ((h.onlyCurrent j d' hd' hf').symm.trans hi)
  · obtain ⟨e, he, -⟩ := h.focus_iff.1 hc
    have hrow : row p = .cursor e.name (e.lineColumn.1 + 1) (e.lineColumn.2 + 1) c.focus := by
      simp only [row, show p.commandLine.workspace.editor? = some e from he]
      rfl
    exact ⟨_, _, _, hc ▸ hrow⟩
  · rw [commandLine_feed_escapeLine] at hd
    have hin := CommandLine.FocusAgrees.focusIn h.onlyCurrent
    exact Bool.eq_false_iff.2 (hin.every rfl d hd)

theorem focus_agrees_insert :
    let w := Workspace.withDocument (.ofFiles (.empty [])) "notes" ['a', 'b']
    let c := (after (start w .standard) [[':', 'n'], ['i', 'x']]).commandLine
    (∀ d ∈ w.documents, d.editor.focused = false) ∧ c.focus = .editor ∧
      ∃ i d, c.workspace.current = some i ∧ c.workspace.documents[i]? = some d ∧
        d.editor.focused ∧
          ∀ j d', c.workspace.documents[j]? = some d' → d'.editor.focused → j = i := by
  intro w c
  have hw : ∀ d ∈ w.documents, d.editor.focused = false := by decide
  have hc : c.focus = .editor := by decide +kernel
  exact ⟨hw, hc, (focus_agrees hw [[':', 'n'], ['i', 'x']]).2.1 hc⟩

end Session

end ModalEditor
