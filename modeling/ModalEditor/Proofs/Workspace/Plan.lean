import ModalEditor.Proofs.Key.Change

namespace ModalEditor

open Workspace (edit_of_editor? edit_of_none)

theorem Input.plan_command_eq_edit {line : Text} {focus : Focus} {f : Editor → Editor}
    (h : (command line).plan = .edit focus f) :
    ∃ number, focus = .commandLine ∧ f = (·.goToLine number) := by
  simp only [plan] at h
  split at h
  · cases h
  · cases h
    exact ⟨_, rfl, rfl⟩
  · split at h
    · rename_i c _
      cases c with
      | edit =>
        simp only [FileCommand.plan] at h
        split at h
        · cases h
        · split at h <;> cases h
      | _ => cases h
    · cases h

theorem Input.plan_eq_edit {i : Input} {focus : Focus} {f : Editor → Editor}
    (h : i.plan = .edit focus f) :
    (∃ k : Key, ∃ count, focus = k.focus ∧ f = (k.change count ·)) ∨
      ∃ number, focus = .commandLine ∧ f = (·.goToLine number) := by
  cases i with
  | command line => exact .inr (plan_command_eq_edit h)
  | key token count =>
    simp only [plan] at h
    split at h
    · cases h
    · split at h
      · rename_i k _
        left
        by_cases hk : k = .saveAndClose
        · subst hk
          cases h
        · rw [Key.plan_eq_edit hk] at h
          cases h
          exact ⟨k, count, rfl, rfl⟩
      · cases h

namespace Workspace

theorem dispatchKey_cases (w : Workspace) (token : Text) (count : Nat) :
    (∃ e, w.dispatchKey token count = (.error e, w)) ∨
      (∃ (k : Key) (e : Editor), w.editor? = some e ∧
        w.dispatchKey token count = (.ok k.focus, w.updateEditor (k.change count ·))) ∨
      w.dispatchKey token count = w.run [.save, .close] := by
  rcases w.dispatchKey_eq count token with hfailed | ⟨k, -, hd⟩
  · exact .inl hfailed
  · rw [hd]
    by_cases hk : k = .saveAndClose
    · subst hk
      exact .inr (.inr rfl)
    · rw [Key.press_eq_edit hk]
      cases he : w.editor? with
      | none => exact .inl ⟨_, edit_of_none he _ _⟩
      | some e => exact .inr (.inl ⟨k, e, rfl, edit_of_editor? he _ _⟩)

theorem run_ne_editor (w : Workspace) (as : List Action) : (w.run as).1 ≠ .ok .editor := by
  simp only [run, Dispatch.ofPerformed]
  split <;> simp

theorem carryOut_ne_editor (w : Workspace) {p : Plan} (h : ∀ f, p ≠ .edit .editor f) :
    (p.carryOut w).1 ≠ .ok .editor := by
  cases p with
  | refuse | ignore => exact nofun
  | edit focus f =>
    cases focus with
    | editor => exact absurd rfl (h f)
    | commandLine =>
      simp only [Plan.carryOut, edit]
      split <;> simp
  | action a => exact w.run_ne_editor [a]
  | saveAndClose => exact w.run_ne_editor [.save, .close]

theorem dispatchCommand_ne_editor (w : Workspace) (line : Text) :
    (w.dispatchCommand line).1 ≠ .ok .editor := by
  refine w.carryOut_ne_editor fun f h => ?_
  obtain ⟨_, hfocus, -⟩ := Input.plan_command_eq_edit h
  cases hfocus

theorem Every.dispatchCommand {P : Editor → Prop} (hnew : ∀ name text, P (.ofText name text))
    (hreload : ∀ e text, P e → P (e.replaceText text))
    (hline : ∀ e number, P e → P (e.goToLine number))
    {w : Workspace} (h : w.Every P) (line : Text) : (w.dispatchCommand line).2.Every P := by
  refine carryOut hnew hreload h fun _ _ hplan e he => ?_
  obtain ⟨number, -, rfl⟩ := Input.plan_command_eq_edit hplan
  exact hline e number he

end Workspace

end ModalEditor
