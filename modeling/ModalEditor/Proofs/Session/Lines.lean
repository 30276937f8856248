import ModalEditor.Proofs.CommandLine.Focus
import ModalEditor.Proofs.Key.Extension
import ModalEditor.Proofs.Session.InsertMode

namespace ModalEditor

open KeySequence

theorem Dispatch.eq_ok_of_focus {o : Dispatch} (h : o.focus = .editor) : o.1 = .ok .editor := by
  rw [Dispatch.focus] at h
  cases ho : o.1 with
  | ok f =>
    rw [ho] at h
    exact congrArg Except.ok h
  | error e =>
    rw [ho] at h
    cases h

namespace CommandLine

variable {c : CommandLine} {k : Char}

/-- Between two characters no key sequence is complete; behind a hand-over the buffer is empty. -/
structure Idle (c : CommandLine) : Prop where
  incomplete : c.focus = .commandLine → parse? c.buffer = none
  empty : c.focus = .editor → c.buffer = []

theorem Idle.of_buffer (h : c.buffer = []) : c.Idle where
  incomplete _ := by rw [h]; rfl
  empty _ := h

@[simp] theorem buffer_refreshIfFocused (c : CommandLine) :
    c.refreshIfFocused.buffer = c.buffer := by
  rw [refreshIfFocused]
  split <;> rfl

theorem typeChar_cases (hb : parse? c.buffer = none) (hc : c.focus = .commandLine) (k : Char) :
    (parse? (c.buffer ++ [k]) = none ∧
      c.typeChar k = refreshIfFocused { c with buffer := c.buffer ++ [k] }) ∨
    ∃ s, parse? (c.buffer ++ [k]) = some s ∧ s.rest = [] ∧
      c.typeChar k = (c.runSequence s).refreshIfFocused := by
  rw [typeChar, textChanged]
  cases hs : parse? (c.buffer ++ [k]) with
  | none => exact .inl ⟨rfl, by rw [runSequences_of_none hs]⟩
  | some s =>
    have hrest := rest_eq_nil_of_parse?_append hb hs
    have hempty : parse? (c.runSequence s).buffer = none := by rw [buffer_runSequence, hrest]; rfl
    refine .inr ⟨s, rfl, hrest, ?_⟩
    rw [runSequences_of_some (c := { c with buffer := c.buffer ++ [k] }) hc hs]
    exact congrArg refreshIfFocused (runSequences_of_none hempty)

theorem Idle.typeChar (h : c.Idle) (hc : c.focus = .commandLine) (k : Char) :
    (c.typeChar k).Idle := by
  rcases typeChar_cases (h.incomplete hc) hc k with ⟨hnone, hk⟩ | ⟨s, -, hrest, hk⟩
  all_goals rw [hk]
  · refine ⟨fun _ => ?_, fun hf => ?_⟩
    · rwa [buffer_refreshIfFocused]
    · rw [focus_refreshIfFocused, hc] at hf
      cases hf
  · exact .of_buffer (by rw [buffer_refreshIfFocused, buffer_runSequence, hrest])

theorem buffer_enter (c : CommandLine) : c.enter.buffer = [] := by
  rcases c.enter_cases with ⟨line, reports, -, he⟩ | ⟨reports, -, he⟩ | ⟨hempty, he⟩
  all_goals rw [he]
  · exact buffer_refreshIfFocused _
  · exact buffer_refreshIfFocused _
  · exact hempty

def HandsOver (c : CommandLine) (k : Char) : Prop :=
  parse? c.buffer = none ∧ ∃ s, parse? (c.buffer ++ [k]) = some s ∧ s.rest = [] ∧
    (c.workspace.dispatchKey s.token s.count).1 = .ok .editor ∧ c.typeChar k = c.runSequence s

theorem Idle.handsOver (h : c.Idle) (hc : c.focus = .commandLine)
    (hk : (c.typeChar k).focus = .editor) : c.HandsOver k := by
  rcases typeChar_cases (h.incomplete hc) hc k with ⟨-, htype⟩ | ⟨s, hs, hrest, htype⟩
  all_goals
    rw [htype, focus_refreshIfFocused] at hk
  · rw [hc] at hk
    cases hk
  · have hrun : c.typeChar k = c.runSequence s := by
      rw [htype, refreshIfFocused, if_neg (by simp [hk])]
    rw [runSequence, focus_settle (c := { c with buffer := s.rest }) hc] at hk
    exact ⟨h.incomplete hc, s, hs, hrest, Dispatch.eq_ok_of_focus hk, hrun⟩

theorem HandsOver.exists_editor (h : c.HandsOver k) (hc : c.focus = .commandLine) :
    ∃ e, (c.typeChar k).workspace.editor? = some e := by
  obtain ⟨-, s, -, -, ho, htype⟩ := h
  rw [htype, runSequence, settle_editor (c := { c with buffer := s.rest }) hc ho]
  rcases c.workspace.dispatchKey_cases s.token s.count with ⟨e, hd⟩ | ⟨key, e, he, hd⟩ | hd
  · rw [hd] at ho
    cases ho
  · refine ⟨(key.change s.count e).clearHighlight cursorOwner, ?_⟩
    simp [focusOut, hd, he]
  · rw [hd] at ho
    exact absurd ho (c.workspace.run_ne_editor _)

end CommandLine

namespace Session

variable {p : Plugin} {c d : CommandLine} {typed rest : Text}

/-- One edit puts a text at the cursor of the current editor, in the place of the selection if there
is one. -/
structure InsertsOnce (c : CommandLine) (s : Text) (d : CommandLine) : Prop where
  eq_insertText : d = insertText c s
  exists_editor : ∃ e, c.workspace.editor? = some e ∧ d.workspace.editor? = some (e.insert s) ∧
    (e.insert s).text = e.text.take e.cursor.first ++ s ++ e.text.drop e.cursor.last ∧
    (e.insert s).cursor = .caret (e.cursor.first + s.length) ∧
    (e.cursor.hasSelection = false → e.InsertsAt s (e.insert s))

theorem insertsOnce {e : Editor} (he : c.workspace.editor? = some e) (s : Text) :
    InsertsOnce c s (insertText c s) where
  eq_insertText := rfl
  exists_editor := by
    refine ⟨e, he, ?_, e.text_insert s, rfl, (Editor.insertsAt_insert · s)⟩
    simp [insertText, CommandLine.updateWorkspace, he]

/-- How a line is fed to the command line. Each character of `typed` is typed while it has the
focus, and `rest` is what is left of the line when a key has handed the focus over. -/
structure Splits (c : CommandLine) (typed rest : Text) (d : CommandLine) : Prop where
  meets_focus : ∀ front k, front ++ [k] <+: typed → (c.typeText front).focus = .commandLine
  enters : (c.typeText typed).focus = .commandLine → rest = [] ∧ d = (c.typeText typed).enter
  hands_over : (c.typeText typed).focus = .editor →
    ∃ front k, typed = front ++ [k] ∧ (c.typeText front).HandsOver k
  leaves : (c.typeText typed).focus = .editor → rest = [] → d = c.typeText typed
  inserts : (c.typeText typed).focus = .editor → rest ≠ [] →
    InsertsOnce (c.typeText typed) rest d

namespace Splits

variable {k : Char}

theorem enter (hc : c.focus = .commandLine) : Splits c [] [] c.enter where
  meets_focus front k h := by simp at h
  enters _ := ⟨rfl, rfl⟩
  hands_over hf := nomatch hc.symm.trans hf
  leaves hf := nomatch hc.symm.trans hf
  inserts hf := nomatch hc.symm.trans hf

theorem handOver (hc : c.focus = .commandLine) (hk : (c.typeChar k).focus = .editor)
    (h : c.HandsOver k) (rest : Text) : Splits c [k] rest (typeLine (c.typeChar k) rest) where
  meets_focus front l hfront := by
    cases front with
    | nil => exact hc
    | cons first front => simp at hfront
  enters hf := nomatch hf.symm.trans hk
  hands_over _ := ⟨[], k, rfl, h⟩
  leaves _ hrest := by
    rw [hrest, typeLine, if_neg (by simp [hk])]
    rfl
  inserts _ hrest := by
    obtain ⟨e, he⟩ := h.exists_editor hc
    obtain ⟨r, rs, rfl⟩ := List.exists_cons_of_ne_nil hrest
    rw [typeLine, if_neg (by simp [hk])]
    exact insertsOnce he (r :: rs)

theorem cons (hc : c.focus = .commandLine) (h : Splits (c.typeChar k) typed rest d) :
    Splits c (k :: typed) rest d where
  meets_focus front l hfront := by
    cases front with
    | nil => exact hc
    | cons first front =>
      obtain ⟨rfl, htyped⟩ := List.cons_prefix_cons.1 hfront
      exact h.meets_focus front l htyped
  enters := h.enters
  hands_over hf := by
    obtain ⟨front, l, rfl, hl⟩ := h.hands_over hf
    exact ⟨k :: front, l, rfl, hl⟩
  leaves := h.leaves
  inserts := h.inserts

end Splits

theorem exists_splits (h : c.Idle) (hc : c.focus = .commandLine) (line : Text) :
    ∃ typed rest, line = typed ++ rest ∧ Splits c typed rest (typeLine c line) := by
  induction line generalizing c with
  | nil =>
    rw [typeLine, if_pos hc]
    exact ⟨[], [], rfl, .enter hc⟩
  | cons k ks ih =>
    rw [typeLine, if_pos hc]
    cases hk : (c.typeChar k).focus with
    | commandLine =>
      obtain ⟨typed, rest, rfl, hsplits⟩ := ih (h.typeChar hc k) hk
      exact ⟨k :: typed, rest, rfl, hsplits.cons hc⟩
    | editor => exact ⟨[k], ks, rfl, .handOver hc hk (h.handsOver hc hk) ks⟩

theorem buffer_typeLine (h : c.Idle) (line : Text) : (typeLine c line).buffer = [] := by
  fun_induction typeLine c line with
  | case1 c => exact c.buffer_enter
  | case2 c hc => exact h.empty (Focus.eq_editor hc)
  | case3 c k ks hc ih => exact ih (h.typeChar hc k)
  | case4 c k ks hc => exact h.empty (Focus.eq_editor hc)

theorem buffer_feed (h : p.commandLine.buffer = []) (line : Text) :
    (feed p line).commandLine.buffer = [] := by
  rw [commandLine_feed]
  split
  · rfl
  · split
    · exact h
    · exact buffer_typeLine (.of_buffer h) line

theorem buffer_after (h : p.commandLine.buffer = []) (lines : List Text) :
    (after p lines).commandLine.buffer = [] :=
  after_of_feed (P := (·.commandLine.buffer = [])) (fun _ line hp => buffer_feed hp line) h lines

/-- After every line of a session the buffer is empty. So the next line, when it meets the command
line, is typed from its first character on, up to the one that completes a key for inserting or
appending; what is behind that one goes to the editor in one edit. Return is pressed just when there
is no such key. -/
theorem lines_apart (w : Workspace) (settings : Settings) (lines : List Text) :
    let p := after (start w settings) lines
    p.commandLine.buffer = [] ∧
      ∀ line, line ≠ escapeLine → p.commandLine.focus = .commandLine →
        ∃ typed rest, line = typed ++ rest ∧
          Splits p.commandLine typed rest (feed p line).commandLine := by
  intro p
  have hbuffer : p.commandLine.buffer = [] := buffer_after rfl lines
  refine ⟨hbuffer, fun line hline hc => ?_⟩
  rw [commandLine_feed, if_neg hline, if_neg (by simp [hc])]
  exact exists_splits (.of_buffer hbuffer) hc line

theorem lines_apart_insert :
    let w := Workspace.withDocument (.ofFiles (.empty [])) "notes" "abcd".toList
    let p := after (start w .standard) ["dx".toList]
    let line := "2lixy".toList
    line ≠ escapeLine ∧ p.commandLine.focus = .commandLine ∧
      (feed p line).commandLine.workspace.editor?.map (·.text) = some "abxycd".toList ∧
      ∃ typed rest, line = typed ++ rest ∧
        Splits p.commandLine typed rest (feed p line).commandLine := by
  intro w p line
  have hline : line ≠ escapeLine := by decide
  have hc : p.commandLine.focus = .commandLine := by decide +kernel
  exact ⟨hline, hc, by decide +kernel,
    (lines_apart w .standard ["dx".toList]).2 line hline hc⟩

/-- Where undo has left a line selected, the rest of a line does not go in at the cursor, however
the line is split: it takes the place of what is selected. -/
theorem exists_line_not_insertsAt :
    let w := Workspace.withDocument (.ofFiles (.empty [])) "notes" ['\n']
    let p := after (start w .standard) ["dd".toList, "u".toList]
    let line := ['i', 'X']
    let d := (feed p line).commandLine
    line ≠ escapeLine ∧ p.commandLine.focus = .commandLine ∧
      ¬ ∃ typed rest, line = typed ++ rest ∧
        let c := p.commandLine.typeText typed
        (c.focus = .commandLine → rest = [] ∧ d = c.enter) ∧
        (c.focus = .editor → rest = [] → d = c) ∧
        (c.focus = .editor → rest ≠ [] → ∃ e e', c.workspace.editor? = some e ∧
          d.workspace.editor? = some e' ∧ e.InsertsAt rest e') := by
  intro w p line d
  have hc : p.commandLine.focus = .commandLine := by decide +kernel
  have hi : (p.commandLine.typeText ['i']).focus = .editor := by decide +kernel
  have hiX : (p.commandLine.typeText ['i', 'X']).focus = .editor := by decide +kernel
  have hbefore :
      (p.commandLine.typeText ['i']).workspace.editor?.map (fun e => (e.text, e.cursor)) =
        some (['\n'], ⟨1, 0⟩) := by decide +kernel
  have htyped : (p.commandLine.typeText ['i', 'X']).workspace.editor?.map (·.text) =
      some ['\n'] := by decide +kernel
  have hafter : d.workspace.editor?.map (·.text) = some ['X'] := by decide +kernel
  refine ⟨by decide, hc, fun ⟨typed, rest, hline, henters, hleaves, hinserts⟩ => ?_⟩
  change ['i', 'X'] = typed ++ rest at hline
  rcases typed with _ | ⟨k, _ | ⟨l, more⟩⟩
  · obtain ⟨rfl, -⟩ := henters hc
    cases hline
  · cases hline
    obtain ⟨e, e', he, he', hlaw, -⟩ := hinserts hi (List.cons_ne_nil _ _)
    rw [he] at hbefore
    obtain ⟨htext, hcursor⟩ := Prod.mk.inj (Option.some.inj hbefore)
    rw [he'] at hafter
    have htext' : e'.text = ['X'] := Option.some.inj hafter
    rw [htext', htext, hcursor] at hlaw
    cases hlaw
  · simp only [List.cons_append, List.cons.injEq, List.nil_eq_append_iff] at hline
    obtain ⟨rfl, rfl, rfl, rfl⟩ := hline
    rw [hleaves hiX rfl, htyped] at hafter
    cases hafter

end Session

end ModalEditor
