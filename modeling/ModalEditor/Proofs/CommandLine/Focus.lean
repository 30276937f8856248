import ModalEditor.Proofs.CommandLine.Event

namespace ModalEditor

def Dispatch.focus (o : Dispatch) : Focus :=
  match o.1 with
  | .ok f => f
  | .error _ => .commandLine

namespace CommandLine

open KeySequence

variable {c : CommandLine}

def dispatched (c : CommandLine) : List Dispatch :=
  if c.focus = .commandLine then
    match _h : parse? c.buffer with
    | none => []
    | some s => c.workspace.dispatchKey s.token s.count :: (c.runSequence s).dispatched
  else []
termination_by c.buffer.length
decreasing_by
  rw [buffer_runSequence]
  exact length_rest_lt _h

theorem dispatched_of_editor (h : c.focus = .editor) : c.dispatched = [] := by
  rw [dispatched]
  simp [h]

theorem dispatched_of_none (h : parse? c.buffer = none) : c.dispatched = [] := by
  rw [dispatched]
  split
  · split
    · rfl
    · rename_i hs
      rw [h] at hs
      cases hs
  · rfl

theorem dispatched_of_some {s : KeySequence} (hc : c.focus = .commandLine)
    (h : parse? c.buffer = some s) :
    c.dispatched = c.workspace.dispatchKey s.token s.count :: (c.runSequence s).dispatched := by
  rw [dispatched, if_pos hc]
  split
  · rename_i hs
    rw [h] at hs
    cases hs
  · rename_i s' hs
    rw [h, Option.some.injEq] at hs
    rw [hs]

def dispatches (c : CommandLine) : Event → List Dispatch
  | .textChanged t => dispatched { c with buffer := t }
  | .enter =>
    match c.buffer with
    | ':' :: line => [c.workspace.dispatchCommand line]
    | _ => []
  | _ => []

theorem focus_settle (hc : c.focus = .commandLine) (o : Dispatch) :
    (c.settle o).focus = o.focus := by
  cases ho : o.1 with
  | error e => rw [settle_error ho, Dispatch.focus, ho, report, hc]
  | ok f =>
    cases f with
    | commandLine => rw [settle_commandLine ho, Dispatch.focus, ho, hc]
    | editor => rw [settle_editor hc ho, Dispatch.focus, ho, focusOut]

theorem focus_runSequences (c : CommandLine) :
    c.runSequences.focus = (c.dispatched.map Dispatch.focus).getLastD c.focus := by
  fun_induction runSequences c with
  | case1 c _ hs => rw [dispatched_of_none hs, List.map_nil, List.getLastD_nil]
  | case2 c hc s hs ih =>
    have hfocus : (c.runSequence s).focus = _ :=
      focus_settle (c := { c with buffer := s.rest }) hc (c.workspace.dispatchKey s.token s.count)
    rw [ih, dispatched_of_some hc hs, List.map_cons, List.getLastD_cons, hfocus]
  | case3 c hc =>
    rw [dispatched_of_editor (Focus.eq_editor hc), List.map_nil, List.getLastD_nil]

theorem focus_textChanged (c : CommandLine) (t : Text) :
    (c.textChanged t).focus =
      ((c.dispatches (.textChanged t)).map Dispatch.focus).getLastD c.focus := by
  rw [textChanged, focus_refreshIfFocused, focus_runSequences]
  rfl

/-- The last dispatch of an event has succeeded. The focus is where it says just when the command
line had the focus as the event came. Without the focus a changed text is not dispatched at all, and
a command leaves the focus in the editor, although it belongs to the command line then. -/
theorem focus_handle_iff {x : Event} {f : Focus} {w : Workspace}
    (h : (c.dispatches x).getLast? = some (.ok f, w)) :
    (c.handle x).focus = f ↔ c.focus = .commandLine := by
  cases x with
  | textChanged t =>
    have hc : c.focus = .commandLine := by
      by_contra hc
      rw [dispatches, dispatched_of_editor (c := { c with buffer := t }) (Focus.eq_editor hc)] at h
      cases h
    refine iff_of_true ?_ hc
    rw [handle, focus_textChanged, List.getLastD_eq_getLast?, List.getLast?_map, h]
    rfl
  | enter =>
    rw [handle, focus_enter]
    simp only [dispatches] at h
    split at h
    · rename_i line _
      have hne := c.workspace.dispatchCommand_ne_editor line
      rw [List.getLast?_singleton, Option.some.injEq] at h
      rw [h] at hne
      cases f with
      | commandLine => rfl
      | editor => exact absurd rfl hne
    · cases h
  | _ => cases h

theorem focus_handle_iff_insert :
    let w := Workspace.withDocument (.ofFiles (.empty [])) "notes" ['x']
    let c := focusIn (.ofSettings w .standard)
    (∃ w', (c.dispatches (.textChanged ['x', 'i'])).getLast? = some (.ok .editor, w')) ∧
      c.focus = .commandLine ∧ (c.handle (.textChanged ['x', 'i'])).focus = .editor := by
  intro w c
  have hlast :
      (c.dispatches (.textChanged ['x', 'i'])).getLast?.map (·.1) = some (.ok .editor) := by
    decide +kernel
  obtain ⟨⟨_, w'⟩, ho, rfl⟩ := Option.map_eq_some_iff.1 hlast
  exact ⟨⟨w', ho⟩, rfl, (focus_handle_iff ho).2 rfl⟩

theorem exists_focus_ne_dispatch :
    let w := Workspace.withDocument (.ofFiles (.empty [])) "notes" ['x']
    let c := handle (.ofSettings w .standard) (.textChanged [':', '1'])
    (∃ w', (c.dispatches .enter).getLast? = some (.ok .commandLine, w')) ∧
      (c.handle .enter).focus = .editor := by
  intro w c
  have hlast : (c.dispatches .enter).getLast?.map (·.1) = some (.ok .commandLine) := by
    decide +kernel
  obtain ⟨⟨_, w'⟩, ho, rfl⟩ := Option.map_eq_some_iff.1 hlast
  exact ⟨⟨w', ho⟩, by decide +kernel⟩

end CommandLine

end ModalEditor
