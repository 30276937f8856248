import ModalEditor.Proofs.Workspace.Stack

namespace ModalEditor.Workspace

variable {Q : Editor → Prop} {w w' : Workspace} {x : StackEffect}

def OnlyCurrent (Q : Editor → Prop) (w : Workspace) : Prop :=
  ∀ i d, w.documents[i]? = some d → Q d.editor → w.current = some i

theorem Every.onlyCurrent (h : w.Every (¬ Q ·)) : w.OnlyCurrent Q :=
  fun _ d hd hq => absurd hq (h d (List.mem_of_getElem? hd))

theorem onlyCurrent_updateEditor {f : Editor → Editor} :
    (w.updateEditor f).OnlyCurrent Q ↔ w.OnlyCurrent Q := by
  rw [OnlyCurrent, OnlyCurrent, current_updateEditor]
  refine forall_congr' fun i => ?_
  by_cases hi : w.current = some i
  · simp [hi]
  · rw [getElem?_updateEditor_of_ne f hi]

namespace OnlyCurrent

theorem every (h : w.OnlyCurrent Q) (hcurrent : ∀ e, w.editor? = some e → ¬ Q e) :
    w.Every (¬ Q ·) := by
  intro d hd hq
  obtain ⟨i, hi⟩ := List.mem_iff_getElem?.1 hd
  exact hcurrent d.editor (by simp [editor?, document?, h i d hi hq, hi]) hq

theorem every_updateEditor (h : w.OnlyCurrent Q) {f : Editor → Editor} (hf : ∀ e, ¬ Q (f e)) :
    (w.updateEditor f).Every (¬ Q ·) := by
  refine (onlyCurrent_updateEditor.2 h).every fun e he => ?_
  rw [editor?_updateEditor] at he
  obtain ⟨e, -, rfl⟩ := Option.map_eq_some_iff.1 he
  exact hf e

theorem changed (h : w.OnlyCurrent Q) (hx : w.Changed w' x)
    (happend : x = .append → w.Every (¬ Q ·)) : w'.OnlyCurrent Q := by
  intro j d hd hq
  cases hx with
  | keep f hdocuments hcurrent =>
    rw [hdocuments] at hd
    have hj : (w.updateEditor f).current = some j := onlyCurrent_updateEditor.2 h j d hd hq
    rwa [hcurrent, ← w.current_updateEditor f]
  | append d' hdocuments hcurrent =>
    rw [hdocuments, List.getElem?_append] at hd
    split at hd
    · exact absurd hq (happend rfl d (List.mem_of_getElem? hd))
    · rename_i hj
      have hlast : j - w.documents.length < [d'].length := (List.getElem?_eq_some_iff.1 hd).1
      rw [hcurrent, Option.some.injEq]
      rw [List.length_singleton] at hlast
      omega
  | close i hi hdocuments hcurrent =>
    -- whoever is left was not the current one before
    rw [hdocuments, List.getElem?_eraseIdx] at hd
    split at hd
    · have hj := Option.some.inj (hi.symm.trans (h j d hd hq))
      omega
    · have hj := Option.some.inj (hi.symm.trans (h (j + 1) d hd hq))
      omega

end OnlyCurrent

theorem Changed.length_lt (h : w.Changed w' .append) :
    w.documents.length < w'.documents.length := by
  cases h with
  | append d hdocuments _ =>
    rw [hdocuments, List.length_append]
    exact Nat.lt_succ_self _

theorem Changed.eq_append (h : w.Changed w' x)
    (hlt : w.documents.length < w'.documents.length) : x = .append := by
  cases h with
  | keep f hdocuments _ =>
    rw [hdocuments, length_updateEditor] at hlt
    exact absurd hlt (Nat.lt_irrefl _)
  | append => rfl
  | close i _ hdocuments _ =>
    rw [hdocuments] at hlt
    exact absurd hlt (Nat.not_lt_of_le (List.length_eraseIdx_le ..))

theorem Changed.not_onlyCurrent (h : w.Changed w' .append) {e : Editor} (he : w.editor? = some e)
    (hq : Q e) : ¬ w'.OnlyCurrent Q := by
  intro honly
  obtain ⟨d, hd, rfl⟩ := Option.map_eq_some_iff.1 he
  obtain ⟨j, -, hj⟩ := Option.bind_eq_some_iff.1 hd
  have hlt : j < w.documents.length := (List.getElem?_eq_some_iff.1 hj).1
  cases h with
  | append d' hdocuments hcurrent =>
    have hleft : w'.documents[j]? = some d := by
      rw [hdocuments, List.getElem?_append_left hlt, hj]
    have hlast := Option.some.inj (hcurrent.symm.trans (honly j d hleft hq))
    omega

theorem changed_dispatchKey (w : Workspace) (token : Text) (count : Nat) :
    ∃ x, w.Changed (w.dispatchKey token count).2 x ∧ x ≠ .append := by
  rcases w.dispatchKey_cases token count with ⟨e, hd⟩ | ⟨k, e, -, hd⟩ | hd
  all_goals rw [hd]
  · exact ⟨.keep, .of_same rfl rfl, nofun⟩
  · exact ⟨.keep, .keep _ rfl (w.current_updateEditor _), nofun⟩
  · rcases hrun : w.run [.save, .close] with ⟨e | focus, w'⟩
    · obtain ⟨_, -, hfails⟩ := fails_of_run_saveAndClose hrun
      exact ⟨.keep, .of_same hfails.untouched.documents hfails.untouched.current, nofun⟩
    · exact ⟨.close, .run_saveAndClose hrun, nofun⟩

theorem changed_dispatchCommand (w : Workspace) (line : Text) :
    ∃ x, w.Changed (w.dispatchCommand line).2 x := by
  rcases hd : w.dispatch (.command line) with ⟨e | focus, w'⟩
  all_goals rw [show w.dispatchCommand line = _ from hd]
  · have hsame := untouched_of_dispatch_error hd
    exact ⟨.keep, .of_same hsame.documents hsame.current⟩
  · exact ⟨_, .carryOut hd⟩

end ModalEditor.Workspace
