import ModalEditor.Proofs.Workspace.Action
import ModalEditor.Proofs.Workspace.Plan

namespace ModalEditor.Workspace

variable {w w' : Workspace} {a : Action} {as : List Action} {cause : ActionError}
  {e : DispatchError}

structure Untouched (w w' : Workspace) : Prop where
  documents : w'.documents = w.documents
  current : w'.current = w.current
  files : w'.files = w.files

/-- An action fails. It is on record, and a path that it was to open is no longer in the queue. -/
structure Fails (w : Workspace) (a : Action) (cause : ActionError) (w' : Workspace) : Prop where
  perform : w.perform a = (.error cause, w')
  actions : w'.actions = w.actions ++ [a]
  openQueue : w'.openQueue = if a = .openQueued then w.openQueue.tail else w.openQueue
  untouched : w.Untouched w'

theorem fails_of_perform (h : w.perform a = (.error cause, w')) : w.Fails a cause w' := by
  obtain rfl := effect_eq_error (w := w.request a) h
  exact ⟨h, rfl, rfl, ⟨rfl, rfl, rfl⟩⟩

theorem fails_of_run_single (h : w.run [a] = (.error e, w')) :
    ∃ cause, e = .action cause ∧ w.Fails a cause w' := by
  obtain ⟨cause, rfl, hall⟩ := ofPerformed_eq_error h
  rcases performAll_cons_eq_error hall with ha | ⟨next, -, hnil⟩
  · exact ⟨cause, rfl, fails_of_perform ha⟩
  · cases hnil

theorem fails_of_run_saveAndClose (h : w.run [.save, .close] = (.error e, w')) :
    ∃ cause, e = .action cause ∧ w.Fails .save cause w' := by
  obtain ⟨cause, rfl, hall⟩ := ofPerformed_eq_error h
  rcases performAll_cons_eq_error hall with hsave | ⟨saved, hsave, hall⟩
  · exact ⟨cause, rfl, fails_of_perform hsave⟩
  · obtain ⟨closed, hclose⟩ := perform_close_of_save hsave
    simp [performAll, hclose] at hall

theorem edit_eq_error {focus : Focus} {f : Editor → Editor} (h : w.edit focus f = (.error e, w')) :
    e = .noEditor ∧ w' = w := by
  simp only [edit] at h
  split at h
  · obtain ⟨he, hw⟩ := Prod.mk.inj h
    exact ⟨(Except.error.inj he).symm, hw.symm⟩
  · cases h

theorem carryOut_eq_error {p : Plan} (h : p.carryOut w = (.error e, w')) :
    e.isRefusal ∧ w' = w ∨
      ∃ cause a later, e = .action cause ∧ p.carryOut w = w.run (a :: later) ∧
        w.Fails a cause w' := by
  cases p with
  | refuse e refusal =>
    cases h
    exact .inl ⟨refusal, rfl⟩
  | ignore => cases h
  | edit focus f =>
    obtain ⟨rfl, rfl⟩ := edit_eq_error h
    exact .inl ⟨rfl, rfl⟩
  | action a =>
    obtain ⟨cause, rfl, hfails⟩ := fails_of_run_single h
    exact .inr ⟨cause, a, [], rfl, rfl, hfails⟩
  | saveAndClose =>
    obtain ⟨cause, rfl, hfails⟩ := fails_of_run_saveAndClose h
    exact .inr ⟨cause, .save, [.close], rfl, rfl, hfails⟩

theorem untouched_of_dispatch_error {i : Input} (h : w.dispatch i = (.error e, w')) :
    w.Untouched w' := by
  rcases carryOut_eq_error h with ⟨-, rfl⟩ | ⟨_, _, _, -, -, hfails⟩
  · exact ⟨rfl, rfl, rfl⟩
  · exact hfails.untouched

/-- What is dispatched in vain leaves the documents and the files as they were. What is refused
leaves all as it was, as does a line that means nothing; and when an action fails, that is the first
one of those to be done, and no other one has been asked for. -/
theorem dispatch_all_or_nothing (w : Workspace) (i : Input) :
    (∀ e w', w.dispatch i = (.error e, w') →
      w.Untouched w' ∧ (e.isRefusal → w' = w) ∧
        ∀ cause, e = .action cause →
          ∃ a later, w.dispatch i = w.run (a :: later) ∧ w.Fails a cause w') ∧
      ∀ line, i = .command line → Command.parse line = .ignored →
        w.dispatch i = (.ok .commandLine, w) := by
  refine ⟨fun e w' h => ⟨untouched_of_dispatch_error h, ?_, ?_⟩, ?_⟩
  · intro hrefused
    rcases carryOut_eq_error h with ⟨-, hw⟩ | ⟨cause, _, _, rfl, -⟩
    · exact hw
    · cases hrefused
  · rintro cause rfl
    rcases carryOut_eq_error h with ⟨hrefused, -⟩ | ⟨_, a, later, he, hrun, hfails⟩
    · cases hrefused
    · rw [DispatchError.action.inj he]
      exact ⟨a, later, hrun, hfails⟩
  · rintro line rfl hline
    simp only [dispatch, Input.plan, hline, Plan.carryOut]

end ModalEditor.Workspace
