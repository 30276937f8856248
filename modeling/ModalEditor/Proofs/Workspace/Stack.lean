import ModalEditor.Proofs.Workspace.Failure
import ModalEditor.Proofs.Workspace.Operation

namespace ModalEditor

inductive StackEffect
  | keep
  | append
  | close
  deriving DecidableEq, Repr

def Action.stackEffect (queue : List String) : Action → StackEffect
  | close => .close
  | new => .append
  | openQueued => if queue.isEmpty then .keep else .append
  | save | reload => .keep

def Plan.stackEffect (queue : List String) : Plan → StackEffect
  | action a => a.stackEffect queue
  | saveAndClose => .close
  | refuse _ _ | ignore | edit _ _ => .keep

def Operation.stackEffect (queue : List String) : Operation → StackEffect
  | action a => a.stackEffect queue
  | openPath _ => .append
  | input i => i.plan.stackEffect queue
  | queuePath _ | edit _ | replaceFiles _ => .keep

namespace Workspace

variable {w w' : Workspace}

structure Valid (w : Workspace) : Prop where
  none_iff : w.current = none ↔ w.documents = []
  lt_length : ∀ i, w.current = some i → i < w.documents.length

inductive Changed (w w' : Workspace) : StackEffect → Prop
  | keep (f : Editor → Editor) : w'.documents = (w.updateEditor f).documents →
      w'.current = w.current → Changed w w' .keep
  | append (d : Document) : w'.documents = w.documents ++ [d] →
      w'.current = some w.documents.length → Changed w w' .append
  | close (i : Nat) : w.current = some i → w'.documents = w.documents.eraseIdx i →
      w'.current = (if w'.documents.isEmpty then none else some (min i (w'.documents.length - 1))) →
      Changed w w' .close

theorem length_updateEditor (w : Workspace) (f : Editor → Editor) :
    (w.updateEditor f).documents.length = w.documents.length := by
  simp only [updateEditor]
  split
  · rfl
  · exact List.length_modify ..

theorem getElem?_updateEditor_of_ne (f : Editor → Editor) {j : Nat} (h : w.current ≠ some j) :
    (w.updateEditor f).documents[j]? = w.documents[j]? := by
  simp only [updateEditor]
  split
  · rfl
  · rename_i i hi
    have hij : i ≠ j := fun hij => h (hij ▸ hi)
    exact List.getElem?_modify_ne _ _ hij

theorem documents_updateEditor_congr {v : Workspace} (hd : v.documents = w.documents)
    (hc : v.current = w.current) (f : Editor → Editor) :
    (v.updateEditor f).documents = (w.updateEditor f).documents := by
  simp only [updateEditor, hc]
  split
  · exact hd
  · exact congrArg (List.modify · _ _) hd

namespace Changed

variable {x : StackEffect}

theorem of_same (hd : w'.documents = w.documents) (hc : w'.current = w.current) :
    w.Changed w' .keep :=
  .keep id (hd.trans (congrArg documents w.updateEditor_id.symm)) hc

theorem congr {v : Workspace} (h : v.Changed w' x) (hd : v.documents = w.documents)
    (hc : v.current = w.current) : w.Changed w' x := by
  cases h with
  | keep f hdocuments hcurrent =>
    exact .keep f (hdocuments.trans (documents_updateEditor_congr hd hc f)) (hcurrent.trans hc)
  | append d hdocuments hcurrent =>
    rw [hd] at hdocuments hcurrent
    exact .append d hdocuments hcurrent
  | close i hi hdocuments hcurrent =>
    rw [hd] at hdocuments
    exact .close i (hc.symm.trans hi) hdocuments hcurrent

theorem openFile {path : String} (h : w.openFile path = (.ok (), w')) : w.Changed w' .append := by
  rcases w.openFile_cases path with ⟨_, hs⟩ | ⟨text, -, hs⟩
  all_goals cases hs.symm.trans h
  exact .append _ rfl rfl

theorem effect {a : Action} (h : w.effect a = (.ok (), w')) :
    w.Changed w' (a.stackEffect w.openQueue) := by
  cases a with
  | save =>
    obtain ⟨_, _, files, -, -, -, rfl⟩ := save_eq_ok h
    exact of_same rfl rfl
  | close =>
    obtain ⟨i, hi, hdocuments, hcurrent, -⟩ := close_eq_ok h
    exact .close i hi hdocuments hcurrent
  | new =>
    cases h
    exact .append _ rfl rfl
  | openQueued =>
    simp only [Workspace.effect, openQueued] at h
    rw [Action.stackEffect]
    split at h
    · rename_i hqueue
      cases h
      rw [hqueue]
      exact of_same rfl rfl
    · rename_i hqueue
      rw [hqueue]
      exact (openFile h).congr rfl rfl
  | reload =>
    rcases w.reload_cases with ⟨_, hs⟩ | ⟨text, hs⟩
    all_goals cases hs.symm.trans h
    exact .keep (·.replaceText text) rfl (current_updateEditor _ _)

theorem perform {a : Action} (h : w.perform a = (.ok (), w')) :
    w.Changed w' (a.stackEffect w.openQueue) :=
  (effect (w := w.request a) h).congr rfl rfl

theorem run_single {a : Action} {focus : Focus} (h : w.run [a] = (.ok focus, w')) :
    w.Changed w' (a.stackEffect w.openQueue) :=
  perform (run_single_eq_ok h)

theorem run_saveAndClose {focus : Focus} (h : w.run [.save, .close] = (.ok focus, w')) :
    w.Changed w' .close := by
  obtain ⟨saved, hsave, hclose⟩ := run_saveAndClose_eq_ok h
  obtain ⟨_, _, files, -, -, -, rfl⟩ := save_eq_ok (w := w.request .save) hsave
  exact (perform hclose).congr rfl rfl

theorem edit {focus focus' : Focus} {f : Editor → Editor}
    (h : w.edit focus f = (.ok focus', w')) : w.Changed w' .keep := by
  simp only [Workspace.edit] at h
  split at h
  · cases h
  · obtain rfl := (Prod.mk.inj h).2
    exact .keep f rfl (w.current_updateEditor f)

theorem carryOut {p : Plan} {focus : Focus} (h : p.carryOut w = (.ok focus, w')) :
    w.Changed w' (p.stackEffect w.openQueue) := by
  cases p with
  | refuse => cases h
  | ignore =>
    cases h
    exact of_same rfl rfl
  | edit => exact edit h
  | action => exact run_single h
  | saveAndClose => exact run_saveAndClose h

theorem apply {o : Operation} {focus : Focus} (h : w.apply o = (.ok focus, w')) :
    w.Changed w' (o.stackEffect w.openQueue) := by
  cases o with
  | action => exact run_single h
  | openPath path =>
    obtain ⟨hopen, -⟩ := ofPerformed_eq_ok h
    exact openFile hopen
  | edit => exact edit h
  | input i =>
    exact carryOut h
  | queuePath | replaceFiles =>
    cases h
    exact of_same rfl rfl

theorem valid (h : w.Changed w' x) (hw : w.Valid) : w'.Valid := by
  cases h with
  | keep f hdocuments hcurrent =>
    have hlength : w'.documents.length = w.documents.length := by
      rw [hdocuments, length_updateEditor]
    constructor
    · rw [hcurrent, hw.none_iff, ← List.length_eq_zero_iff, ← List.length_eq_zero_iff, hlength]
    · rw [hcurrent, hlength]
      exact hw.lt_length
  | append d hdocuments hcurrent =>
    constructor
    · simp [hdocuments, hcurrent]
    · intro i hi
      rw [hcurrent, Option.some.injEq] at hi
      rw [hdocuments, List.length_append, ← hi]
      exact Nat.lt_succ_self _
  | close i hi hdocuments hcurrent =>
    constructor
    · simp [hcurrent]
    · intro j hj
      rw [hcurrent] at hj
      split at hj
      · cases hj
      · rename_i hne
        have hpos := List.length_pos_iff.2 (mt List.isEmpty_iff.2 hne)
        rw [Option.some.injEq] at hj
        omega

theorem getElem? (h : w.Changed w' x) {j : Nat} {d : Document} (hj : w.current ≠ some j)
    (hd : w.documents[j]? = some d) :
    w'.documents[j]? = some d ∨
      x = .close ∧ (∃ i < j, w.current = some i) ∧ w'.documents[j - 1]? = some d := by
  cases h with
  | keep f hdocuments _ =>
    left
    rw [hdocuments, getElem?_updateEditor_of_ne f hj, hd]
  | append _ hdocuments _ =>
    left
    rw [hdocuments, List.getElem?_append_left (List.getElem?_eq_some_iff.1 hd).1, hd]
  | close i hi hdocuments _ =>
    rw [hdocuments]
    have hij : i ≠ j := fun hij => hj (hij ▸ hi)
    rcases Nat.lt_or_gt_of_ne hij with hlt | hgt
    · right
      refine ⟨rfl, ⟨i, hlt, hi⟩, ?_⟩
      rw [List.getElem?_eraseIdx_of_ge (Nat.le_sub_one_of_lt hlt), Nat.sub_add_cancel (by omega), hd]
    · left
      rw [List.getElem?_eraseIdx_of_lt hgt, hd]

theorem document?_of_close (h : w.Changed w' .close) :
    ∃ i, w.current = some i ∧
      w'.document? = (w.documents[i + 1]?).or w'.documents.getLast? := by
  cases h with
  | close i hi hdocuments hcurrent =>
    refine ⟨i, hi, ?_⟩
    have hlength := List.length_eraseIdx (l := w.documents) (i := i)
    rw [← hdocuments] at hlength
    rw [document?, hcurrent]
    by_cases hbehind : i + 1 < w.documents.length
    · rw [if_pos (by omega)] at hlength
      have hmin : min i (w'.documents.length - 1) = i := by omega
      have hne : ¬ w'.documents.isEmpty := by
        rw [List.isEmpty_iff_length_eq_zero]
        omega
      rw [if_neg hne, hmin, Option.bind_some, hdocuments,
        List.getElem?_eraseIdx_of_ge (Nat.le_refl i), List.getElem?_eq_getElem hbehind, Option.some_or]
    · rw [List.getElem?_eq_none (Nat.le_of_not_lt hbehind), Option.none_or,
        List.getLast?_eq_getElem?]
      split
      · rename_i hempty
        rw [List.isEmpty_iff.1 hempty]
        rfl
      · have hmin : min i (w'.documents.length - 1) = w'.documents.length - 1 := by
          split at hlength <;> omega
        rw [hmin, Option.bind_some]

end Changed

theorem untouched_of_apply_error {o : Operation} {e : DispatchError}
    (h : w.apply o = (.error e, w')) : w.Untouched w' := by
  cases o with
  | action =>
    obtain ⟨_, -, hfails⟩ := fails_of_run_single h
    exact hfails.untouched
  | openPath path =>
    obtain ⟨_, -, hopen⟩ := ofPerformed_eq_error h
    rcases w.openFile_cases path with ⟨_, hs⟩ | ⟨_, -, hs⟩
    all_goals cases hs.symm.trans hopen
    exact ⟨rfl, rfl, rfl⟩
  | edit =>
    obtain ⟨-, rfl⟩ := edit_eq_error h
    exact ⟨rfl, rfl, rfl⟩
  | input => exact untouched_of_dispatch_error h
  | queuePath | replaceFiles => cases h

theorem Valid.apply (h : w.Valid) (o : Operation) : (w.apply o).2.Valid := by
  rcases ho : w.apply o with ⟨e | focus, w'⟩
  · have hsame := untouched_of_apply_error ho
    exact (Changed.of_same hsame.documents hsame.current).valid h
  · exact (Changed.apply ho).valid h

theorem Valid.updateEditor (h : w.Valid) (f : Editor → Editor) : (w.updateEditor f).Valid :=
  (Changed.keep f rfl (w.current_updateEditor f)).valid h

theorem Valid.exists_editor (h : w.Valid) (hopen : w.documents ≠ []) : ∃ e, w.editor? = some e := by
  cases hi : w.current with
  | none => exact absurd (h.none_iff.1 hi) hopen
  | some i =>
    have hlt := h.lt_length i hi
    exact ⟨w.documents[i].editor, by simp [editor?, document?, hi, hlt]⟩

theorem valid_ofFiles (files : FileTree) : (ofFiles files).Valid where
  none_iff := ⟨fun _ => rfl, fun _ => rfl⟩
  lt_length := nofun

theorem Reachable.valid (h : w.Reachable) : w.Valid := by
  induction h with
  | ofFiles files => exact valid_ofFiles files
  | withDocument files name text => exact (Changed.append _ rfl rfl).valid (valid_ofFiles files)
  | apply _ o ih => exact ih.apply o

/-- In every run of operations the current document is one of those that are open. An operation
that fails keeps all documents and the current one. One that succeeds does to them what its kind of
effect says: a new or opened document comes last and is current, closing removes the current one and
goes on to the next or else the last, all others change at most the current editor. No other
document is ever touched. -/
theorem reachable_stack (h : w.Reachable) :
    w.Valid ∧
      (∀ o e w', w.apply o = (.error e, w') →
        w'.documents = w.documents ∧ w'.current = w.current) ∧
      (∀ o focus w', w.apply o = (.ok focus, w') →
        w.Changed w' (o.stackEffect w.openQueue) ∧
          (o.stackEffect w.openQueue = .close → ∃ i, w.current = some i ∧
            w'.document? = (w.documents[i + 1]?).or w'.documents.getLast?) ∧
          ∀ j d, w.current ≠ some j → w.documents[j]? = some d →
            w'.documents[j]? = some d ∨
              o.stackEffect w.openQueue = .close ∧ (∃ i < j, w.current = some i) ∧
                w'.documents[j - 1]? = some d) ∧
      (∀ i, w.current = some i → ∃ w', w.apply (.action .close) = (.ok .commandLine, w')) ∧
      ∃ w', w.apply (.action .new) = (.ok .commandLine, w') := by
  refine ⟨h.valid, fun o e w' ho => ?_, fun o focus w' ho => ?_, fun i hi => ?_, ?_⟩
  · have hsame := untouched_of_apply_error ho
    exact ⟨hsame.documents, hsame.current⟩
  · have hchanged := Changed.apply ho
    refine ⟨hchanged, fun hclose => ?_, fun j d hj hd => hchanged.getElem? hj hd⟩
    rw [hclose] at hchanged
    exact hchanged.document?_of_close
  · obtain ⟨closed, hclose⟩ := perform_close_of_current hi
    exact ⟨closed, by simp [apply, run, performAll, hclose, Dispatch.ofPerformed]⟩
  · exact ⟨_, rfl⟩

theorem reachable_stack_quit :
    let opened := (ofFiles (.empty [])).withDocument "a" ['x']
    let w := (opened.apply (.action .new)).2
    w.Reachable ∧ ∃ w', w.apply (.input (.command ['q'])) = (.ok .commandLine, w') ∧
      w'.current = some 0 ∧ w'.documents[0]? = some ⟨none, .ofText "a" ['x']⟩ := by
  intro opened w
  have hw : w.Reachable := .apply (.withDocument _ _ _) _
  obtain ⟨w', hquit⟩ : ∃ w', w.apply (.input (.command ['q'])) = (.ok .commandLine, w') := ⟨_, rfl⟩
  obtain ⟨-, -, hothers⟩ := (reachable_stack hw).2.2.1 _ _ w' hquit
  rcases hothers 0 ⟨none, .ofText "a" ['x']⟩ (by decide) rfl with hkept | ⟨-, ⟨i, hi, -⟩, -⟩
  · have hcurrent : (w.apply (.input (.command ['q']))).2.current = some 0 := rfl
    rw [hquit] at hcurrent
    exact ⟨hw, w', hquit, hcurrent, hkept⟩
  · exact absurd hi (Nat.not_lt_zero i)

end Workspace

end ModalEditor
