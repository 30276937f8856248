import ModalEditor.Proofs.Workspace.Action

namespace ModalEditor.Workspace

variable {P Q : Editor → Prop} {w : Workspace}

def Every (P : Editor → Prop) (w : Workspace) : Prop :=
  ∀ d ∈ w.documents, P d.editor

theorem document?_mem {d : Document} (h : w.document? = some d) : d ∈ w.documents := by
  obtain ⟨i, -, hi⟩ := Option.bind_eq_some_iff.1 h
  exact List.mem_of_getElem? hi

theorem edit_of_editor? {e : Editor} (h : w.editor? = some e) (focus : Focus)
    (f : Editor → Editor) : w.edit focus f = (.ok focus, w.updateEditor f) := by
  simp [edit, h]

theorem edit_of_none (h : w.editor? = none) (focus : Focus) (f : Editor → Editor) :
    w.edit focus f = (.error .noEditor, w) := by
  simp [edit, h]

theorem updateEditor_congr {f g : Editor → Editor} (h : ∀ e, w.editor? = some e → f e = g e) :
    w.updateEditor f = w.updateEditor g := by
  cases hi : w.current with
  | none => simp only [updateEditor, hi]
  | some i =>
    simp only [updateEditor, hi]
    congr 1
    refine List.ext_getElem? fun j => ?_
    rw [List.getElem?_modify, List.getElem?_modify]
    refine Option.map_congr fun d hd => ?_
    split
    · rename_i hij
      rw [h d.editor (by simp [editor?, document?, hi, hij, hd])]
    · rfl

theorem edit_eq_const {e : Editor} (h : w.editor? = some e) (focus : Focus) (f : Editor → Editor) :
    w.edit focus f = (.ok focus, w.updateEditor fun _ => f e) := by
  rw [edit_of_editor? h, updateEditor_congr fun e' he' => ?_]
  rw [Option.some.inj (he'.symm.trans h)]

theorem updateEditor_id (w : Workspace) : w.updateEditor id = w := by
  simp only [updateEditor]
  split
  · rfl
  · rw [show (fun d : Document => { d with editor := id d.editor }) = id from rfl, List.modify_id]

theorem updateEditor_of_none (h : w.editor? = none) (f : Editor → Editor) :
    w.updateEditor f = w := by
  refine (updateEditor_congr fun e he => ?_).trans w.updateEditor_id
  rw [h] at he
  cases he

theorem snd_edit (w : Workspace) (focus : Focus) (f : Editor → Editor) :
    (w.edit focus f).2 = w.updateEditor f := by
  cases he : w.editor? with
  | none => rw [edit_of_none he, updateEditor_of_none he]
  | some e => rw [edit_of_editor? he]

namespace Every

theorem editor {e : Editor} (h : w.Every P) (he : w.editor? = some e) : P e := by
  obtain ⟨d, hd, rfl⟩ := Option.map_eq_some_iff.1 he
  exact h d (document?_mem hd)

theorem mono (hPQ : ∀ e, P e → Q e) (h : w.Every P) : w.Every Q :=
  fun d hd => hPQ d.editor (h d hd)

theorem updateEditor {f : Editor → Editor} (h : w.Every P)
    (hf : ∀ e, w.editor? = some e → P e → Q (f e)) (hPQ : ∀ e, P e → Q e) :
    (w.updateEditor f).Every Q := by
  cases hi : w.current with
  | none =>
    simp only [Workspace.updateEditor, hi]
    exact h.mono hPQ
  | some i =>
    intro d hd
    simp only [Workspace.updateEditor, hi] at hd
    obtain ⟨j, hj⟩ := List.mem_iff_getElem?.1 hd
    rw [List.getElem?_modify] at hj
    obtain ⟨d', hd', rfl⟩ := Option.map_eq_some_iff.1 hj
    have hP : P d'.editor := h d' (List.mem_of_getElem? hd')
    split
    · rename_i hij
      exact hf _ (by simp [editor?, document?, hi, hij, hd']) hP
    · exact hPQ _ hP

theorem update {f : Editor → Editor} (h : w.Every P) (hf : ∀ e, P e → P (f e)) :
    (w.updateEditor f).Every P :=
  h.updateEditor (fun e _ => hf e) fun _ he => he

theorem edit {f : Editor → Editor} (h : w.Every P) (hf : ∀ e, P e → P (f e)) (focus : Focus) :
    (w.edit focus f).2.Every P := by
  cases he : w.editor? with
  | none =>
    rw [edit_of_none he]
    exact h
  | some e =>
    rw [edit_of_editor? he]
    exact h.update hf

theorem add {d : Document} (h : w.Every P) (hd : P d.editor) : (w.add d).Every P := by
  intro d' hd'
  cases List.mem_append.1 hd' with
  | inl hd' => exact h d' hd'
  | inr hd' => rwa [List.mem_singleton.1 hd']

section Actions

variable (hnew : ∀ name text, P (.ofText name text))
  (hreload : ∀ e text, P e → P (e.replaceText text))

include hnew
theorem openFile (h : w.Every P) (path : String) : (w.openFile path).2.Every P := by
  rcases w.openFile_cases path with ⟨_, hs⟩ | ⟨text, -, hs⟩
  all_goals rw [hs]
  · exact h
  · exact h.add (hnew _ text)

include hreload

theorem effect (h : w.Every P) (a : Action) : (w.effect a).2.Every P := by
  cases a with
  | save =>
    rcases w.save_cases with ⟨_, hs⟩ | ⟨_, _, _, -, -, -, hs⟩
    all_goals rw [Workspace.effect, hs]
    all_goals exact h
  | close =>
    rcases w.close_cases with ⟨-, hs⟩ | ⟨i, w', -, hs, hdocuments, -⟩
    all_goals rw [Workspace.effect, hs]
    · exact h
    · intro d hd
      rw [hdocuments] at hd
      exact h d (List.mem_of_mem_eraseIdx hd)
  | new => exact h.add (hnew _ _)
  | openQueued =>
    simp only [Workspace.effect, openQueued]
    split
    · exact h
    · rename_i path openQueue _
      exact openFile hnew (w := { w with openQueue }) h path
  | reload =>
    rcases w.reload_cases with ⟨_, hs⟩ | ⟨text, hs⟩
    all_goals rw [Workspace.effect, hs]
    · exact h
    · exact h.update fun e => hreload e text

theorem perform (h : w.Every P) (a : Action) : (w.perform a).2.Every P :=
  effect hnew hreload (w := w.request a) h a

theorem performAll (h : w.Every P) (as : List Action) : (w.performAll as).2.Every P := by
  fun_induction Workspace.performAll w as with
  | case1 => exact h
  | case2 w a as w' ha ih => exact ih (by simpa [ha] using perform hnew hreload h a)
  | case3 w a as w' e ha => simpa [ha] using perform hnew hreload h a

theorem run (h : w.Every P) (as : List Action) : (w.run as).2.Every P := by
  rw [Workspace.run, Dispatch.snd_ofPerformed]
  exact performAll hnew hreload h as

theorem carryOut (h : w.Every P) {p : Plan}
    (hedit : ∀ focus f, p = .edit focus f → ∀ e, P e → P (f e)) : (p.carryOut w).2.Every P := by
  cases p with
  | refuse | ignore => exact h
  | edit focus f => exact h.edit (hedit focus f rfl) focus
  | action a => exact run hnew hreload h [a]
  | saveAndClose => exact run hnew hreload h [.save, .close]

end Actions

end Every

end ModalEditor.Workspace
