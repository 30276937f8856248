import ModalEditor.CommandLine
import ModalEditor.Proofs.Key.Grammar

namespace ModalEditor

open KeySequence

theorem Focus.eq_editor {f : Focus} (h : f ≠ .commandLine) : f = .editor := by
  cases f with
  | commandLine => exact absurd rfl h
  | editor => rfl

namespace CommandLine

variable {c d : CommandLine}

theorem runSequences_of_editor (h : c.focus = .editor) : c.runSequences = c := by
  rw [runSequences]
  simp [h]

theorem runSequences_of_none (h : parse? c.buffer = none) : c.runSequences = c := by
  rw [runSequences]
  split
  · split
    · rfl
    · rename_i hs
      rw [h] at hs
      cases hs
  · rfl

theorem runSequences_of_some {s : KeySequence} (hc : c.focus = .commandLine)
    (h : parse? c.buffer = some s) : c.runSequences = (c.runSequence s).runSequences := by
  rw [runSequences, if_pos hc]
  split
  · rename_i hs
    rw [h] at hs
    cases hs
  · rename_i s' hs
    rw [h, Option.some.injEq] at hs
    rw [hs]

theorem textChanged_of_editor (h : c.focus = .editor) (t : Text) :
    c.textChanged t = { c with buffer := t } := by
  rw [textChanged, runSequences_of_editor (c := { c with buffer := t }) h, refreshIfFocused,
    if_neg (by simp [h])]

theorem settle_commandLine {o : Dispatch} (h : o.1 = .ok .commandLine) :
    c.settle o = { c with workspace := o.2 } := by
  simp [settle, h, follow]

theorem settle_editor {o : Dispatch} (hc : c.focus = .commandLine) (h : o.1 = .ok .editor) :
    c.settle o = focusOut { c with workspace := o.2 } := by
  simp [settle, h, follow, hc]

theorem settle_error {o : Dispatch} {e : DispatchError} (h : o.1 = .error e) :
    c.settle o = report { c with workspace := o.2 } e := by
  simp [settle, h]

@[simp] theorem label_settle (c : CommandLine) (o : Dispatch) : (c.settle o).label = c.label := by
  simp only [settle, follow]
  split
  · split <;> rfl
  · rfl

@[simp] theorem style_settle (c : CommandLine) (o : Dispatch) : (c.settle o).style = c.style := by
  simp only [settle, follow]
  split
  · split <;> rfl
  · rfl

theorem label_runSequences (c : CommandLine) : c.runSequences.label = c.label := by
  fun_induction runSequences c with
  | case1 => rfl
  | case2 c _ s _ ih => rw [ih, runSequence, label_settle]
  | case3 => rfl

theorem style_runSequences (c : CommandLine) : c.runSequences.style = c.style := by
  fun_induction runSequences c with
  | case1 => rfl
  | case2 c _ s _ ih => rw [ih, runSequence, style_settle]
  | case3 => rfl

inductive Chain : CommandLine → List KeySequence → CommandLine → Prop
  | refl (c : CommandLine) : Chain c [] c
  | step {c d : CommandLine} {s : KeySequence} {ss : List KeySequence} :
      c.focus = .commandLine → parse? c.buffer = some s → Chain (c.runSequence s) ss d →
      Chain c (s :: ss) d

theorem Chain.runSequences_eq {ss : List KeySequence} (h : Chain c ss d) :
    c.runSequences = d.runSequences := by
  induction h with
  | refl => rfl
  | step hc hs _ ih => rw [runSequences_of_some hc hs, ih]

@[simp] theorem buffer_runSequence (c : CommandLine) (s : KeySequence) :
    (c.runSequence s).buffer = s.rest := by
  simp [runSequence]

theorem Chain.buffer_suffix {ss : List KeySequence} (h : Chain c ss d) :
    d.buffer <:+ c.buffer := by
  induction h with
  | refl => exact List.suffix_rfl
  | @step c d s _ _ hs _ ih =>
    obtain ⟨digits, -, hbuf, -⟩ := exists_digits_of_parse? hs
    rw [buffer_runSequence] at ih
    exact ih.trans ⟨digits ++ s.token, hbuf.symm⟩

end CommandLine

end ModalEditor
