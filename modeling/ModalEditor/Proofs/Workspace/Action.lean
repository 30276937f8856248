import ModalEditor.Dispatch

namespace ModalEditor.Workspace

variable {w w' : Workspace} {a : Action} {as : List Action} {cause : ActionError}

theorem save_cases (w : Workspace) :
    (∃ cause, w.save = (.error cause, w)) ∨
      ∃ d path files, w.document? = some d ∧ d.path = some path ∧
        w.files.writeText path d.editor.text = .ok files ∧ w.save = (.ok (), { w with files }) := by
  rw [save]
  cases hd : w.document? with
  | none => exact .inl ⟨_, rfl⟩
  | some d =>
    cases hpath : d.path with
    | none => exact .inl ⟨.noFileName d.editor.name, by simp only [hpath]⟩
    | some path =>
      cases hfiles : w.files.writeText path d.editor.text with
      | error e => exact .inl ⟨.writing path e, by simp only [hpath, hfiles]⟩
      | ok files => exact .inr ⟨d, path, files, rfl, hpath, hfiles, by simp only [hpath, hfiles]⟩

theorem save_eq_ok (h : w.save = (.ok (), w')) :
    ∃ d path files, w.document? = some d ∧ d.path = some path ∧
      w.files.writeText path d.editor.text = .ok files ∧ w' = { w with files } := by
  rcases w.save_cases with ⟨_, hs⟩ | ⟨d, path, files, hd, hpath, hfiles, hs⟩
  all_goals cases hs.symm.trans h
  exact ⟨d, path, files, hd, hpath, hfiles, rfl⟩

theorem close_cases (w : Workspace) :
    w.current = none ∧ w.close = (.error .noDocument, w) ∨
      ∃ i w', w.current = some i ∧ w.close = (.ok (), w') ∧
        w'.documents = w.documents.eraseIdx i ∧
        w'.current =
          (if w'.documents.isEmpty then none else some (min i (w'.documents.length - 1))) ∧
        w'.files = w.files := by
  rw [close]
  cases w.current with
  | none => exact .inl ⟨rfl, rfl⟩
  | some i => exact .inr ⟨i, _, rfl, rfl, rfl, rfl, rfl⟩

theorem close_eq_ok (h : w.close = (.ok (), w')) :
    ∃ i, w.current = some i ∧ w'.documents = w.documents.eraseIdx i ∧
      w'.current = (if w'.documents.isEmpty then none else some (min i (w'.documents.length - 1))) ∧
      w'.files = w.files := by
  rcases w.close_cases with ⟨-, hs⟩ | ⟨i, _, hi, hs, herased⟩
  all_goals cases hs.symm.trans h
  exact ⟨i, hi, herased⟩

theorem openFile_cases (w : Workspace) (path : String) :
    (∃ cause, w.openFile path = (.error cause, w)) ∨
      ∃ text, w.files.readText path = .ok text ∧
        w.openFile path = (.ok (), w.add ⟨some path, .ofText (FileTree.fileName path) text⟩) := by
  rw [openFile]
  cases w.files.readText path with
  | error e => exact .inl ⟨_, rfl⟩
  | ok text => exact .inr ⟨text, rfl, rfl⟩

theorem reload_cases (w : Workspace) :
    (∃ cause, w.reload = (.error cause, w)) ∨
      ∃ text, w.reload = (.ok (), w.updateEditor (·.replaceText text)) := by
  rw [reload]
  cases w.document? with
  | none => exact .inl ⟨_, rfl⟩
  | some d =>
    cases hpath : d.path with
    | none => exact .inl ⟨.neverSaved d.editor.name, by simp only [hpath]⟩
    | some path =>
      cases hread : w.files.readText path with
      | error e => exact .inl ⟨.reloading path e, by simp only [hpath, hread]⟩
      | ok text => exact .inr ⟨text, by simp only [hpath, hread]⟩

theorem openPath_eq_ok_iff {path : String} :
    w.openPath path = .ok w' ↔ w.openFile path = (.ok (), w') := by
  rcases w.openFile_cases path with ⟨cause, h⟩ | ⟨text, -, h⟩
  all_goals simp [openPath, h, Except.map]

def afterFailure (w : Workspace) (a : Action) : Workspace :=
  { w with openQueue := if a = .openQueued then w.openQueue.tail else w.openQueue }

theorem effect_eq_error (h : w.effect a = (.error cause, w')) : w' = w.afterFailure a := by
  cases a with
  | save =>
    rcases w.save_cases with ⟨_, hs⟩ | ⟨_, _, _, -, -, -, hs⟩ <;> cases hs.symm.trans h
    rfl
  | close =>
    rcases w.close_cases with ⟨-, hs⟩ | ⟨_, _, -, hs, -⟩ <;> cases hs.symm.trans h
    rfl
  | new => cases h
  | openQueued =>
    simp only [effect, openQueued] at h
    split at h
    · cases h
    · rename_i path paths hqueue
      rcases openFile_cases { w with openQueue := paths } path with ⟨_, hs⟩ | ⟨_, -, hs⟩
      all_goals cases hs.symm.trans h
      simp [afterFailure, hqueue]
  | reload =>
    rcases w.reload_cases with ⟨_, hs⟩ | ⟨_, hs⟩ <;> cases hs.symm.trans h
    rfl

theorem perform_close_of_current {i : Nat} (h : w.current = some i) :
    ∃ w', w.perform .close = (.ok (), w') := by
  rcases (w.request .close).close_cases with ⟨hnone, -⟩ | ⟨_, w', -, hclose, -⟩
  · cases h.symm.trans hnone
  · exact ⟨w', hclose⟩

theorem perform_close_of_save {saved : Workspace} (h : w.perform .save = (.ok (), saved)) :
    ∃ w', saved.perform .close = (.ok (), w') := by
  obtain ⟨_, _, _, hd, -, -, rfl⟩ := save_eq_ok h
  obtain ⟨i, hi, -⟩ := Option.bind_eq_some_iff.1 hd
  exact perform_close_of_current hi

theorem performAll_cons_eq_ok (h : w.performAll (a :: as) = (.ok (), w')) :
    ∃ next, w.perform a = (.ok (), next) ∧ next.performAll as = (.ok (), w') := by
  rw [performAll] at h
  split at h
  · rename_i next ha
    exact ⟨next, ha, h⟩
  · cases h

theorem performAll_cons_eq_error (h : w.performAll (a :: as) = (.error cause, w')) :
    w.perform a = (.error cause, w') ∨
      ∃ next, w.perform a = (.ok (), next) ∧ next.performAll as = (.error cause, w') := by
  rw [performAll] at h
  split at h
  · rename_i next ha
    exact .inr ⟨next, ha, h⟩
  · rename_i ha
    exact .inl (ha.trans h)

theorem ofPerformed_eq_ok {o : Performed} {focus : Focus}
    (h : Dispatch.ofPerformed o = (.ok focus, w')) : o = (.ok (), w') ∧ focus = .commandLine := by
  rcases o with ⟨_ | _, _⟩ <;> cases h
  exact ⟨rfl, rfl⟩

theorem ofPerformed_eq_error {o : Performed} {e : DispatchError}
    (h : Dispatch.ofPerformed o = (.error e, w')) :
    ∃ cause, e = .action cause ∧ o = (.error cause, w') := by
  rcases o with ⟨_ | _, _⟩ <;> cases h
  exact ⟨_, rfl, rfl⟩

theorem run_single_eq_ok {focus : Focus} (h : w.run [a] = (.ok focus, w')) :
    w.perform a = (.ok (), w') := by
  obtain ⟨next, ha, hnext⟩ := performAll_cons_eq_ok (ofPerformed_eq_ok h).1
  cases hnext
  exact ha

theorem run_saveAndClose_eq_ok {focus : Focus} (h : w.run [.save, .close] = (.ok focus, w')) :
    ∃ saved, w.perform .save = (.ok (), saved) ∧ saved.perform .close = (.ok (), w') := by
  obtain ⟨saved, hsave, hall⟩ := performAll_cons_eq_ok (ofPerformed_eq_ok h).1
  obtain ⟨closed, hclose, hclosed⟩ := performAll_cons_eq_ok hall
  cases hclosed
  exact ⟨saved, hsave, hclose⟩

end ModalEditor.Workspace
