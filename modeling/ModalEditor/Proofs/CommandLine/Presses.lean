import ModalEditor.Proofs.CommandLine.Chain
import ModalEditor.Proofs.Key.Change

namespace ModalEditor

structure Press where
  key : Key
  count : Nat
  editor : Editor

def Press.result (p : Press) : Editor :=
  p.key.change p.count p.editor

namespace Workspace

variable {w : Workspace} {s : KeySequence}

def press? (w : Workspace) (s : KeySequence) : Option Press :=
  if s.token.head? = some '_' then none
  else (Key.ofName? (Key.nameOf s.token)).bind fun k => w.editor?.map (⟨k, s.count, ·⟩)

theorem press?_eq_some {p : Press} (h : w.press? s = some p) :
    w.editor? = some p.editor ∧ w.dispatchKey s.token s.count = w.press p.count p.key := by
  simp only [press?] at h
  split at h
  · cases h
  · rename_i hprivate
    obtain ⟨k, hk, hp⟩ := Option.bind_eq_some_iff.1 h
    obtain ⟨e, he, rfl⟩ := Option.map_eq_some_iff.1 hp
    exact ⟨he, w.dispatchKey_of_key s.count hprivate hk⟩

theorem run_saveAndClose_of_none (h : w.editor? = none) :
    w.run [.save, .close] = (.error (.action .noDocument), w.request .save) := by
  have hd : (w.request .save).document? = none := Option.map_eq_none_iff.1 h
  simp [run, performAll, perform, effect, save, hd, Dispatch.ofPerformed]

theorem press?_eq_none (h : w.press? s = none) :
    ∃ e w', w.dispatchKey s.token s.count = (.error e, w') ∧ w'.documents = w.documents := by
  simp only [press?] at h
  split at h
  · rename_i hprivate
    exact ⟨_, w, w.dispatchKey_of_private s.count hprivate, rfl⟩
  · rename_i hprivate
    cases hk : Key.ofName? (Key.nameOf s.token) with
    | none => exact ⟨_, w, w.dispatchKey_of_unknown s.count hprivate hk, rfl⟩
    | some k =>
      rw [w.dispatchKey_of_key s.count hprivate hk]
      rw [hk] at h
      have he : w.editor? = none := Option.map_eq_none_iff.1 h
      by_cases hzz : k = .saveAndClose
      · subst hzz
        exact ⟨_, _, run_saveAndClose_of_none he, rfl⟩
      · exact ⟨_, _, (Key.press_eq_edit hzz w _).trans (edit_of_none he _ _), rfl⟩

end Workspace

namespace CommandLine

variable {c : CommandLine}

def presses (c : CommandLine) : List Press :=
  if c.focus = .commandLine then
    match _h : KeySequence.parse? c.buffer with
    | none => []
    | some s => (c.workspace.press? s).toList ++ (c.runSequence s).presses
  else []
termination_by c.buffer.length
decreasing_by
  rw [buffer_runSequence]
  exact KeySequence.length_rest_lt _h

theorem presses_of_editor (h : c.focus = .editor) : c.presses = [] := by
  rw [presses]
  simp [h]

theorem presses_of_none (h : KeySequence.parse? c.buffer = none) : c.presses = [] := by
  rw [presses]
  split
  · split
    · rfl
    · rename_i hs
      rw [h] at hs
      cases hs
  · rfl

theorem presses_of_some {s : KeySequence} (hc : c.focus = .commandLine)
    (h : KeySequence.parse? c.buffer = some s) :
    c.presses = (c.workspace.press? s).toList ++ (c.runSequence s).presses := by
  rw [presses, if_pos hc]
  split
  · rename_i hs
    rw [h] at hs
    cases hs
  · rename_i s' hs
    rw [h, Option.some.injEq] at hs
    rw [hs]

def typedPresses (c : CommandLine) : Text → List Press
  | [] => []
  | k :: ks => presses { c with buffer := c.buffer ++ [k] } ++ (c.typeChar k).typedPresses ks

theorem typedPresses_of_editor (h : c.focus = .editor) (t : Text) : c.typedPresses t = [] := by
  induction t generalizing c with
  | nil => rfl
  | cons k ks ih =>
    have htype : (c.typeChar k).focus = .editor := by
      rw [typeChar, textChanged_of_editor h]
      exact h
    rw [typedPresses, ih htype, presses_of_editor (c := { c with buffer := c.buffer ++ [k] }) h]
    rfl

theorem typedPresses_append (c : CommandLine) (s t : Text) :
    c.typedPresses (s ++ t) = c.typedPresses s ++ (c.typeText s).typedPresses t := by
  induction s generalizing c with
  | nil => rfl
  | cons k ks ih =>
    rw [List.cons_append, typedPresses, typedPresses, ih, List.append_assoc]
    rfl

end CommandLine

end ModalEditor
