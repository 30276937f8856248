import ModalEditor.Proofs.CommandLine.Chain
import ModalEditor.Proofs.CommandLine.Cursor
import ModalEditor.Proofs.Key.Extension

/-! Typing a text is pasting it. A complete key sequence stays what it is when more text follows, so
a chain can be left and taken up again anywhere; the cursor's highlight, which is drawn anew after
each character, is the only thing that a state in between has too much. -/

namespace ModalEditor

open KeySequence

namespace CommandLine

variable {c d : CommandLine}

def hideCursor (c : CommandLine) : CommandLine :=
  { c with workspace := c.workspace.hideCursor }

@[simp] theorem hideCursor_hideCursor (c : CommandLine) :
    c.hideCursor.hideCursor = c.hideCursor := by
  simp [hideCursor]

@[simp] theorem focus_hideCursor (c : CommandLine) : c.hideCursor.focus = c.focus := rfl

theorem hideCursor_focusOut (c : CommandLine) : c.focusOut.hideCursor = c.focusOut :=
  congrArg (fun w => { c with focus := .editor, workspace := w })
    (Workspace.hideCursor_hideCursor c.workspace)

theorem focusOut_hideCursor (c : CommandLine) : c.hideCursor.focusOut = c.focusOut :=
  congrArg (fun w => { c with focus := .editor, workspace := w })
    (Workspace.hideCursor_hideCursor c.workspace)

@[simp] theorem hideCursor_refresh (c : CommandLine) : c.refresh.hideCursor = c.hideCursor := by
  have h : (·.clearHighlight cursorOwner) ∘ showCursor c.style = (·.clearHighlight cursorOwner) :=
    funext fun e => e.clearHighlight_showCursor c.style
  simp [hideCursor, refresh, Workspace.hideCursor, Workspace.updateEditor_updateEditor, h]

@[simp] theorem refresh_hideCursor (c : CommandLine) : c.hideCursor.refresh = c.refresh := by
  have h : showCursor c.style ∘ (·.clearHighlight cursorOwner) = showCursor c.style := by
    funext e
    simp only [Function.comp_apply, showCursor]
    split <;> simp [blockCursor, Editor.highlight, Editor.clearHighlight]
  simp [hideCursor, refresh, Workspace.hideCursor, Workspace.updateEditor_updateEditor, h]

theorem follow_hideCursor (c : CommandLine) (f : Focus) :
    (c.hideCursor.follow f).hideCursor = (c.follow f).hideCursor := by
  rw [follow, follow, focus_hideCursor]
  by_cases h : f = .editor ∧ c.focus = .commandLine
  · rw [if_pos h, if_pos h, focusOut_hideCursor]
  · rw [if_neg h, if_neg h, hideCursor_hideCursor]

theorem settle_hideCursor (c : CommandLine) (o : Dispatch) :
    (c.hideCursor.settle o.hideCursor).hideCursor = (c.settle o).hideCursor := by
  obtain ⟨r, w⟩ := o
  cases r with
  | error e => exact hideCursor_hideCursor ({ c with workspace := w }.report e)
  | ok f => exact follow_hideCursor { c with workspace := w } f

theorem runSequence_hideCursor (c : CommandLine) (s : KeySequence) :
    (c.hideCursor.runSequence s).hideCursor = (c.runSequence s).hideCursor := by
  let b : CommandLine := { c with buffer := s.rest }
  calc
    _ = (b.hideCursor.settle (c.workspace.hideCursor.dispatchKey s.token s.count)).hideCursor := rfl
    _ = (b.settle (c.workspace.dispatchKey s.token s.count)).hideCursor := by
      rw [← settle_hideCursor, hideCursor_hideCursor, Workspace.dispatchKey_hideCursor,
        settle_hideCursor]

theorem runSequence_congr (h : c.hideCursor = d.hideCursor) (s : KeySequence) :
    (c.runSequence s).hideCursor = (d.runSequence s).hideCursor := by
  rw [← runSequence_hideCursor c, h, runSequence_hideCursor]

theorem hideCursor_runSequence_of_editor {s : KeySequence} (hc : c.focus = .commandLine)
    (h : (c.runSequence s).focus = .editor) :
    (c.runSequence s).hideCursor = c.runSequence s := by
  cases ho : (c.workspace.dispatchKey s.token s.count).1 with
  | error e =>
    rw [runSequence, settle_error ho, report, hc] at h
    cases h
  | ok f =>
    cases f with
    | commandLine =>
      rw [runSequence, settle_commandLine ho, hc] at h
      cases h
    | editor =>
      rw [runSequence, settle_editor (c := { c with buffer := s.rest }) hc ho,
        hideCursor_focusOut]

theorem focus_congr (h : c.hideCursor = d.hideCursor) : d.focus = c.focus :=
  (congrArg focus h).symm

theorem buffer_congr (h : c.hideCursor = d.hideCursor) : d.buffer = c.buffer :=
  (congrArg buffer h).symm

theorem runSequences_congr (hc : c.focus = .commandLine) (h : c.hideCursor = d.hideCursor) :
    c.runSequences.refreshIfFocused = d.runSequences.refreshIfFocused := by
  fun_induction runSequences c generalizing d with
  | case1 c _ hs =>
    have hd : d.focus = .commandLine := (focus_congr h).trans hc
    have hds : parse? d.buffer = none := by rw [buffer_congr h, hs]
    rw [runSequences_of_none hds, refreshIfFocused, refreshIfFocused, if_pos hc, if_pos hd,
      ← refresh_hideCursor, h, refresh_hideCursor]
  | case2 c _ s hs ih =>
    have hd : d.focus = .commandLine := (focus_congr h).trans hc
    have hds : parse? d.buffer = some s := by rw [buffer_congr h, hs]
    have hrun := runSequence_congr h s
    rw [runSequences_of_some hd hds]
    cases hf : (c.runSequence s).focus with
    | commandLine => exact ih hf hrun
    | editor =>
      -- both sides have lost their highlight at the hand-over and are the same from here
      have hg : (d.runSequence s).focus = .editor := (focus_congr hrun).trans hf
      rw [hideCursor_runSequence_of_editor hc hf, hideCursor_runSequence_of_editor hd hg] at hrun
      rw [hrun]
  | case3 c hc' => exact absurd hc hc'

theorem textChanged_congr (hc : c.focus = .commandLine) (h : c.hideCursor = d.hideCursor)
    (t : Text) : c.textChanged t = d.textChanged t :=
  runSequences_congr (c := { c with buffer := t }) hc
    (congrArg (fun c => { c with buffer := t }) h)

def extend (c : CommandLine) (u : Text) : CommandLine :=
  { c with buffer := c.buffer ++ u }

/-- No text that a chain comes to starts with a count that has zeros at its front. -/
def NoPaddedCount (c : CommandLine) : Prop :=
  ∀ ss d, Chain c ss d → d.focus = .commandLine → ¬ PaddedCount d.buffer

theorem NoPaddedCount.of_not_mem (h : '0' ∉ c.buffer) : c.NoPaddedCount :=
  fun _ _ hch _ hpad => h (hch.buffer_suffix.mem hpad.zero_mem)

theorem NoPaddedCount.runSequence {s : KeySequence} (hp : c.NoPaddedCount)
    (hc : c.focus = .commandLine) (hs : parse? c.buffer = some s) :
    (c.runSequence s).NoPaddedCount :=
  fun _ _ hch => hp _ _ (.step hc hs hch)

theorem runSequence_extend (c : CommandLine) (s : KeySequence) (u : Text) :
    (c.extend u).runSequence { s with rest := s.rest ++ u } = (c.runSequence s).extend u := by
  simp only [runSequence, settle, extend]
  split
  · simp only [follow]
    split <;> rfl
  · rfl

theorem Chain.extend {ss : List KeySequence} {u : Text} (h : Chain c ss d)
    (hp : (c.extend u).NoPaddedCount) :
    ∃ ts, Chain (c.extend u) ts (d.extend u) := by
  induction h with
  | refl c => exact ⟨[], .refl _⟩
  | @step c d s ss hc hs _ ih =>
    have hsu := parse?_append hs (hp _ _ (.refl _) hc)
    have hstep := runSequence_extend c s u
    obtain ⟨ts, hts⟩ := ih (hstep ▸ hp.runSequence hc hsu)
    exact ⟨_, .step hc hsu (hstep ▸ hts)⟩

theorem NoPaddedCount.of_extend {u : Text} (hp : (c.extend u).NoPaddedCount) : c.NoPaddedCount := by
  intro ss d hch hd hpad
  obtain ⟨ts, hts⟩ := hch.extend hp
  exact hp ts _ hts hd (hpad.append u)

theorem exists_chain_runSequences (c : CommandLine) : ∃ ss, Chain c ss c.runSequences := by
  fun_induction runSequences c with
  | case1 => exact ⟨[], .refl _⟩
  | case2 c hc s hs ih =>
    obtain ⟨ss, hss⟩ := ih
    exact ⟨s :: ss, .step hc hs hss⟩
  | case3 => exact ⟨[], .refl _⟩

theorem runSequences_extend {u : Text} (hp : (c.extend u).NoPaddedCount) :
    (c.runSequences.extend u).runSequences = (c.extend u).runSequences := by
  obtain ⟨ss, hss⟩ := exists_chain_runSequences c
  obtain ⟨ts, hts⟩ := hss.extend hp
  exact hts.runSequences_eq.symm

theorem textChanged_append {s u : Text}
    (hp : NoPaddedCount { c with buffer := s ++ u }) :
    (c.textChanged s).textChanged ((c.textChanged s).buffer ++ u) = c.textChanged (s ++ u) := by
  let b : CommandLine := { c with buffer := s }
  have hrun : (b.runSequences.extend u).runSequences = (b.extend u).runSequences :=
    runSequences_extend hp
  cases hf : b.runSequences.focus with
  | editor =>
    have hs : c.textChanged s = b.runSequences := by
      rw [textChanged, refreshIfFocused, if_neg (by simp [b] at hf; simp [hf])]
    rw [hs]
    exact congrArg refreshIfFocused hrun
  | commandLine =>
    have hs : c.textChanged s = b.runSequences.refresh := by
      rw [textChanged, refreshIfFocused, if_pos hf]
    rw [hs]
    calc
      _ = b.runSequences.textChanged (b.runSequences.buffer ++ u) :=
        textChanged_congr (c := b.runSequences.refresh) hf (hideCursor_refresh _) _
      _ = c.textChanged (s ++ u) := congrArg refreshIfFocused hrun

/-- A text typed character by character does what it does when it is pasted. -/
theorem typeText_eq_textChanged {t : Text} (ht : t ≠ [])
    (hp : NoPaddedCount { c with buffer := c.buffer ++ t }) :
    c.typeText t = c.textChanged (c.buffer ++ t) := by
  -- the last character meets what pasting the ones before it has left
  induction t using List.reverseRecOn with
  | nil => exact absurd rfl ht
  | append_singleton s k ih =>
    rw [typeText, List.foldl_append, List.foldl_cons, List.foldl_nil, ← typeText, typeChar]
    rcases eq_or_ne s [] with rfl | hs
    · rfl
    · rw [← List.append_assoc] at hp ⊢
      rw [ih hs (NoPaddedCount.of_extend (c := { c with buffer := c.buffer ++ s }) hp),
        textChanged_append hp]

theorem typeText_unknown_motion_insert :
    let w := Workspace.withDocument (.ofFiles (.empty [])) "notes" "one two".toList
    let c := focusIn (.ofSettings w .standard)
    let t := "x2liab".toList
    c.focus = .commandLine ∧ t ≠ [] ∧ NoPaddedCount { c with buffer := c.buffer ++ t } ∧
      c.typeText t = c.textChanged (c.buffer ++ t) := by
  intro w c t
  have ht : t ≠ [] := by decide
  have hp : NoPaddedCount { c with buffer := c.buffer ++ t } := .of_not_mem (by decide)
  exact ⟨rfl, ht, hp, typeText_eq_textChanged ht hp⟩

end CommandLine

end ModalEditor
