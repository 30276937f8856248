import ModalEditor.Proofs.CommandLine.Chain
import ModalEditor.Proofs.Workspace.Plan

namespace ModalEditor.CommandLine

inductive Event
  | textChanged (t : Text)
  | enter
  | focusIn
  | focusOut
  | escape
  | setLabel (label : String)
  | setStyle (style : CursorStyle)
  deriving DecidableEq, Repr

def handle (c : CommandLine) : Event → CommandLine
  | .textChanged t => c.textChanged t
  | .enter => c.enter
  | .focusIn => c.focusIn
  | .focusOut => c.focusOut
  | .escape => c.escape
  | .setLabel label => c.setLabel label
  | .setStyle style => c.setStyle style

variable {c : CommandLine}

theorem runSequences_of_runSequence {P : CommandLine → Prop}
    (hstep : ∀ c s, c.focus = .commandLine → P c → P (c.runSequence s)) (h : P c) :
    P c.runSequences := by
  fun_induction runSequences c with
  | case1 => exact h
  | case2 c hc s _ ih => exact ih (hstep c s hc h)
  | case3 => exact h

theorem settle_of_ne_editor {o : Dispatch} (ho : o.1 ≠ .ok .editor) :
    ∃ reports, c.settle o = { c with workspace := o.2, reports } := by
  cases hr : o.1 with
  | error e => exact ⟨_, settle_error hr⟩
  | ok f =>
    cases f with
    | commandLine => exact ⟨_, settle_commandLine hr⟩
    | editor => exact absurd hr ho

theorem enter_cases (c : CommandLine) :
    (∃ line reports, c.buffer = ':' :: line ∧ c.enter = refreshIfFocused { c with
      buffer := []
      workspace := (c.workspace.dispatchCommand line).2
      reports }) ∨
    (∃ reports, c.buffer.head? ≠ some ':' ∧
      c.enter = refreshIfFocused { c with buffer := [], reports }) ∨
    c.buffer = [] ∧ c.enter = c := by
  rw [enter]
  cases hb : c.buffer with
  | nil => exact .inr (.inr ⟨rfl, rfl⟩)
  | cons k line =>
    rw [List.isEmpty_cons, if_neg Bool.false_ne_true]
    by_cases hk : k = ':'
    · subst hk
      obtain ⟨reports, hsettle⟩ := settle_of_ne_editor (c := { c with buffer := [] })
        (c.workspace.dispatchCommand_ne_editor line)
      exact .inl ⟨line, reports, rfl, congrArg refreshIfFocused hsettle⟩
    · simp only [runLine]
      split
      · rename_i heq
        exact absurd (List.cons.inj heq).1 hk
      all_goals exact .inr (.inl ⟨_, by simpa using hk, rfl⟩)

@[simp] theorem focus_refreshIfFocused (c : CommandLine) : c.refreshIfFocused.focus = c.focus := by
  rw [refreshIfFocused]
  split <;> rfl

theorem focus_enter (c : CommandLine) : c.enter.focus = c.focus := by
  rcases c.enter_cases with ⟨line, reports, -, he⟩ | ⟨reports, -, he⟩ | ⟨-, he⟩
  all_goals rw [he]
  all_goals exact focus_refreshIfFocused _

theorem exists_updateEditor_showCursor (w : Workspace) (style : CursorStyle) :
    ∃ x : EditorOperation, w.updateEditor (showCursor style) = w.updateEditor (·.apply x) := by
  cases he : w.editor? with
  | none =>
    exact ⟨.undo, by rw [Workspace.updateEditor_of_none he, Workspace.updateEditor_of_none he]⟩
  | some e =>
    cases hblock : style.block with
    | false =>
      refine ⟨.clearHighlight cursorOwner, Workspace.updateEditor_congr fun e' _ => ?_⟩
      rw [showCursor, hblock]
      rfl
    | true =>
      refine ⟨.highlight cursorOwner [blockCursor style e], Workspace.updateEditor_congr ?_⟩
      intro e' he'
      obtain rfl := Option.some.inj (he.symm.trans he')
      rw [showCursor, hblock]
      rfl

section Workspace

variable {P : Workspace → Prop} (hdispatch : ∀ w i, P w → P (w.dispatch i).2)
  (hedit : ∀ w (x : EditorOperation), P w → P (w.updateEditor (·.apply x)))

include hedit in
theorem workspace_settle {o : Dispatch} (h : P o.2) : P (c.settle o).workspace := by
  simp only [settle, follow]
  split
  · split
    · exact hedit _ (.clearHighlight cursorOwner) h
    · exact h
  · exact h

include hedit in
theorem workspace_refresh (h : P c.workspace) : P c.refresh.workspace := by
  obtain ⟨x, hx⟩ := exists_updateEditor_showCursor c.workspace c.style
  rw [refresh, hx]
  exact hedit _ x h

include hedit in
theorem workspace_refreshIfFocused (h : P c.workspace) : P c.refreshIfFocused.workspace := by
  rw [refreshIfFocused]
  split
  · exact workspace_refresh hedit h
  · exact h

include hedit in
theorem workspace_focusIn (h : P c.workspace) : P c.focusIn.workspace :=
  workspace_refresh hedit (hedit _ .dropFocus h)

include hdispatch hedit

theorem workspace_textChanged (h : P c.workspace) (t : Text) : P (c.textChanged t).workspace := by
  refine workspace_refreshIfFocused hedit ?_
  refine runSequences_of_runSequence (P := (P ·.workspace)) (fun c s _ hc => ?_) h
  exact workspace_settle hedit (hdispatch c.workspace (.key s.token s.count) hc)

theorem workspace_enter (h : P c.workspace) : P c.enter.workspace := by
  rcases c.enter_cases with ⟨line, reports, -, he⟩ | ⟨reports, -, he⟩ | ⟨-, he⟩
  all_goals rw [he]
  · exact workspace_refreshIfFocused hedit (hdispatch c.workspace (.command line) h)
  · exact workspace_refreshIfFocused hedit h
  · exact h

theorem workspace_handle (h : P c.workspace) (x : Event) : P (c.handle x).workspace := by
  cases x with
  | textChanged t => exact workspace_textChanged hdispatch hedit h t
  | enter => exact workspace_enter hdispatch hedit h
  | focusIn | escape => exact workspace_focusIn hedit h
  | focusOut => exact hedit _ (.clearHighlight cursorOwner) h
  | setLabel => exact h
  | setStyle => exact workspace_refreshIfFocused hedit h

end Workspace

def Event.style? : Event → Option CursorStyle
  | .setStyle style => some style
  | _ => none

@[simp] theorem style_refreshIfFocused (c : CommandLine) : c.refreshIfFocused.style = c.style := by
  rw [refreshIfFocused]
  split <;> rfl

theorem style_enter (c : CommandLine) : c.enter.style = c.style := by
  rcases c.enter_cases with ⟨line, reports, -, he⟩ | ⟨reports, -, he⟩ | ⟨-, he⟩
  all_goals rw [he]
  all_goals exact style_refreshIfFocused _

theorem style_handle (c : CommandLine) (x : Event) :
    (c.handle x).style = x.style?.getD c.style := by
  cases x with
  | textChanged t =>
    rw [handle, textChanged, style_refreshIfFocused, style_runSequences]
    rfl
  | enter => exact c.style_enter
  | setStyle style => exact style_refreshIfFocused _
  | focusIn | focusOut | escape | setLabel => rfl

end ModalEditor.CommandLine
