import ModalEditor.Proofs.CommandLine.Chain

namespace ModalEditor

open KeySequence

structure Stroke where
  digits : Text
  token : Text
  count : Nat

namespace Stroke

def text (k : Stroke) : Text := k.digits ++ k.token

structure Cut (t : Text) (ks : List Stroke) (rest : Text) : Prop where
  text : t = ks.flatMap text ++ rest
  digits : ∀ k ∈ ks, ∀ c ∈ k.digits, Text.isDigit c
  parsed : ∀ {front back : List Stroke} {k : Stroke}, ks = front ++ k :: back →
    parse? ((k :: back).flatMap Stroke.text ++ rest) =
      some ⟨k.count, k.token, back.flatMap Stroke.text ++ rest⟩

namespace Cut

variable {t rest : Text} {ks : List Stroke}

theorem nil (t : Text) : Cut t [] t where
  text := rfl
  digits := by simp
  parsed := by simp

theorem cons {s : KeySequence} {digits : Text} (hs : parse? t = some s)
    (hd : ∀ c ∈ digits, Text.isDigit c) (ht : t = digits ++ s.token ++ s.rest)
    (h : Cut s.rest ks rest) : Cut t (⟨digits, s.token, s.count⟩ :: ks) rest where
  text := by
    rw [List.flatMap_cons, List.append_assoc, ← h.text]
    exact ht
  digits := by simpa using ⟨hd, h.digits⟩
  parsed {front back k} hks := by
    cases front with
    | nil =>
      obtain ⟨rfl, rfl⟩ := List.cons.inj hks
      rw [List.flatMap_cons, List.append_assoc, ← h.text]
      simpa [Stroke.text, ← ht] using hs
    | cons _ front => exact h.parsed (List.cons.inj hks).2

theorem length_le (h : Cut t ks rest) : ks.length ≤ t.length := by
  rw [h.text]
  have hne : ∀ k ∈ ks, k.token ≠ [] := by
    intro k hk
    obtain ⟨front, back, hks⟩ := List.append_of_mem hk
    obtain ⟨-, -, -, hne⟩ := exists_digits_of_parse? (h.parsed hks)
    exact hne
  clear h
  induction ks with
  | nil => simp
  | cons k ks ih =>
    have hk : 0 < k.token.length := List.length_pos_iff.2 (hne k (by simp))
    have hks := ih fun k hk => hne k (List.mem_cons_of_mem _ hk)
    simp only [List.length_cons, List.flatMap_cons, Stroke.text, List.length_append] at hks ⊢
    omega

end Cut

end Stroke

def Dispatch.error? (o : Dispatch) : Option DispatchError :=
  match o.1 with
  | .error e => some e
  | .ok _ => none

namespace Workspace

def dispatchAll (w : Workspace) : List Stroke → List Dispatch
  | [] => []
  | k :: ks =>
    let o := w.dispatchKey k.token k.count
    o :: o.2.dispatchAll ks

def afterAll (w : Workspace) (ks : List Stroke) : Workspace :=
  ks.foldl (fun w k => (w.dispatchKey k.token k.count).2) w

end Workspace

namespace CommandLine

/-- From one state to another by strokes: all of the text is accounted for, all errors are reported
once, no stroke but the last one hands over the focus, and without such a stroke the rest of the
text holds no further sequence. -/
structure Transcript (c : CommandLine) (t : Text) (ks : List Stroke) (d : CommandLine) : Prop where
  cut : Stroke.Cut t ks d.buffer
  reports : d.reports = c.reports ++ (c.workspace.dispatchAll ks).filterMap Dispatch.error?
  goesOn : ∀ o ∈ (c.workspace.dispatchAll ks).dropLast, o.1 ≠ .ok .editor
  focus : d.focus = .editor ↔ ∃ w, (c.workspace.dispatchAll ks).getLast? = some (.ok .editor, w)
  stopped : d.focus = .commandLine → parse? d.buffer = none

theorem runSequence_of_ne_editor {c : CommandLine} {s : KeySequence} {o : Dispatch}
    (ho : c.workspace.dispatchKey s.token s.count = o) (h : o.1 ≠ .ok .editor) :
    c.runSequence s =
      { c with
        buffer := s.rest
        workspace := o.2
        reports := c.reports ++ (Dispatch.error? o).toList } := by
  rw [runSequence, ho]
  cases hr : o.1 with
  | error e => simp [settle_error hr, Dispatch.error?, hr, report]
  | ok f =>
    cases f with
    | editor => exact absurd hr h
    | commandLine => simp [settle_commandLine hr, Dispatch.error?, hr]

theorem runSequence_of_editor {c : CommandLine} {s : KeySequence} {o : Dispatch}
    (hc : c.focus = .commandLine) (ho : c.workspace.dispatchKey s.token s.count = o)
    (h : o.1 = .ok .editor) :
    c.runSequence s = focusOut { c with buffer := s.rest, workspace := o.2 } := by
  rw [runSequence, ho]
  exact settle_editor (c := { c with buffer := s.rest }) hc h

namespace Transcript

variable {c d : CommandLine} {t : Text} {ks : List Stroke}

theorem nil (hc : c.focus = .commandLine) (hs : parse? c.buffer = none) :
    Transcript c c.buffer [] c where
  cut := .nil _
  reports := by simp [Workspace.dispatchAll]
  goesOn := by simp [Workspace.dispatchAll]
  focus := by simp [Workspace.dispatchAll, hc]
  stopped _ := hs

theorem cons {k : Stroke} (hcut : Stroke.Cut t (k :: ks) d.buffer) {c' : CommandLine}
    (ho : (c.workspace.dispatchKey k.token k.count).1 ≠ .ok .editor)
    (hw : c'.workspace = (c.workspace.dispatchKey k.token k.count).2)
    (hr : c'.reports =
      c.reports ++ (Dispatch.error? (c.workspace.dispatchKey k.token k.count)).toList)
    {t' : Text} (h : Transcript c' t' ks d) : Transcript c t (k :: ks) d where
  cut := hcut
  reports := by
    rw [h.reports, hw, hr, Workspace.dispatchAll, List.filterMap_cons]
    cases Dispatch.error? (c.workspace.dispatchKey k.token k.count) <;> simp
  goesOn := by
    have hgo := h.goesOn
    rw [hw] at hgo
    rw [Workspace.dispatchAll]
    cases hks : (c.workspace.dispatchKey k.token k.count).2.dispatchAll ks with
    | nil => simp
    | cons p ps =>
      rw [hks] at hgo
      simpa [ho] using hgo
  focus := by
    rw [h.focus, hw, Workspace.dispatchAll]
    cases hks : (c.workspace.dispatchKey k.token k.count).2.dispatchAll ks with
    | nil =>
      simp only [List.getLast?_nil, List.getLast?_singleton]
      constructor
      · simp
      · rintro ⟨w, hw⟩
        exact absurd (congrArg Prod.fst (Option.some.inj hw)) ho
    | cons p ps => simp
  stopped := h.stopped

theorem last {k : Stroke} (hcut : Stroke.Cut t [k] d.buffer) (hd : d.focus = .editor)
    (ho : (c.workspace.dispatchKey k.token k.count).1 = .ok .editor)
    (hr : d.reports = c.reports) : Transcript c t [k] d where
  cut := hcut
  reports := by simp [Workspace.dispatchAll, Dispatch.error?, ho, hr]
  goesOn := by simp [Workspace.dispatchAll]
  focus := by
    simp only [hd, Workspace.dispatchAll, List.getLast?_singleton, true_iff]
    exact ⟨_, by rw [← ho]⟩
  stopped h := by rw [hd] at h; cases h

end Transcript

theorem exists_transcript_runSequences {c : CommandLine} (hc : c.focus = .commandLine) :
    ∃ ks, Transcript c c.buffer ks c.runSequences ∧
      c.runSequences.workspace =
        if c.runSequences.focus = .editor then
          (c.workspace.afterAll ks).updateEditor (·.clearHighlight cursorOwner)
        else c.workspace.afterAll ks := by
  fun_induction runSequences c with
  | case1 c _ hs => exact ⟨[], .nil hc hs, by simp [hc, Workspace.afterAll]⟩
  | case2 c _ s hs ih =>
    obtain ⟨digits, hd, ht, -⟩ := exists_digits_of_parse? hs
    by_cases ho : (c.workspace.dispatchKey s.token s.count).1 = .ok .editor
    · have hrun := runSequence_of_editor hc rfl ho
      have hfocus : (c.runSequence s).focus = .editor := by rw [hrun]; rfl
      rw [runSequences_of_editor hfocus]
      refine ⟨[⟨digits, s.token, s.count⟩], .last ?_ hfocus ho (by rw [hrun]; rfl), ?_⟩
      · rw [buffer_runSequence]
        exact .cons hs hd ht (.nil _)
      · rw [if_pos hfocus, hrun]
        rfl
    · have hrun := runSequence_of_ne_editor rfl ho
      obtain ⟨ks, htr, hw⟩ := ih (by rw [hrun]; exact hc)
      rw [buffer_runSequence] at htr
      refine ⟨⟨digits, s.token, s.count⟩ :: ks, htr.cons (.cons hs hd ht htr.cut) ho ?_ ?_, ?_⟩
      · rw [hrun]
      · rw [hrun]
      · rw [hw, hrun]
        rfl
  | case3 c h => exact absurd hc h

/-- No character is lost or run twice: with the focus, a change of the text dispatches the strokes
that it starts with, one after the other, until the focus is handed over or the rest holds no
sequence; the highlight then follows the cursor or goes away. Without the focus the text is only
stored. -/
theorem textChanged_transcript (c : CommandLine) (t : Text) :
    (c.focus = .editor → c.textChanged t = { c with buffer := t }) ∧
      (c.focus = .commandLine → ∃ ks,
        Transcript c t ks (c.textChanged t) ∧ ks.length ≤ t.length ∧
          (c.textChanged t).workspace = (c.workspace.afterAll ks).updateEditor
            (if (c.textChanged t).focus = .editor then (·.clearHighlight cursorOwner)
              else showCursor c.style) ∧
          (c.textChanged t).label = c.label ∧ (c.textChanged t).style = c.style) := by
  constructor
  · intro hc
    exact textChanged_of_editor hc t
  · intro hc
    obtain ⟨ks, htr, hw⟩ := exists_transcript_runSequences (c := { c with buffer := t }) hc
    have hlabel := label_runSequences { c with buffer := t }
    have hstyle := style_runSequences { c with buffer := t }
    rw [textChanged]
    generalize runSequences { c with buffer := t } = d at *
    cases hd : d.focus with
    | commandLine =>
      rw [refreshIfFocused, if_pos hd]
      exact ⟨ks, { htr with }, htr.cut.length_le, by simp [refresh, hw, hd, hstyle], hlabel, hstyle⟩
    | editor =>
      rw [refreshIfFocused, if_neg (by simp [hd])]
      exact ⟨ks, { htr with }, htr.cut.length_le, by simp [hw, hd], hlabel, hstyle⟩

end CommandLine

end ModalEditor
