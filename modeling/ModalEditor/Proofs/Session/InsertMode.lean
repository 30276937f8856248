import ModalEditor.Proofs.Session.Selection

namespace ModalEditor

def Editor.InsertsAt (e : Editor) (s : Text) (e' : Editor) : Prop :=
  e'.text = e.text.take e.cursor.position ++ s ++ e.text.drop e.cursor.position ∧
    e'.cursor = .caret (e.cursor.position + s.length)

theorem Editor.insertsAt_insert {e : Editor} (h : e.cursor.hasSelection = false) (s : Text) :
    e.InsertsAt s (e.insert s) := by
  have hc := Cursor.eq_caret_of_hasSelection h
  generalize hp : e.cursor.position = p at hc
  rw [InsertsAt, text_insert, hp, hc, Cursor.first_caret, Cursor.last_caret]
  exact ⟨rfl, by rw [insert, hc, Cursor.first_caret]⟩

namespace CommandLine

variable {c : CommandLine}

theorem focus_typeText_of_editor (h : c.focus = .editor) (t : Text) :
    (c.typeText t).focus = .editor := by
  induction t generalizing c with
  | nil => exact h
  | cons k ks ih =>
    refine ih ?_
    rw [typeChar, textChanged_of_editor h]
    exact h

theorem focus_of_typeText {t : Text} (h : (c.typeText t).focus = .commandLine) :
    c.focus = .commandLine := by
  cases hc : c.focus with
  | commandLine => rfl
  | editor =>
    rw [focus_typeText_of_editor hc] at h
    cases h

end CommandLine

namespace Session

variable {p : Plugin} {c : CommandLine} {line s : Text} {ps : List Press}

def start (w : Workspace) (settings : Settings) : Plugin :=
  (Plugin.ofSettings w settings).update .focusIn

def after (p : Plugin) (lines : List Text) : Plugin :=
  lines.foldl feed p

theorem after_of_feed {P : Plugin → Prop} (hfeed : ∀ p line, P p → P (feed p line)) (h : P p)
    (lines : List Text) : P (after p lines) := by
  induction lines generalizing p with
  | nil => exact h
  | cons line lines ih => exact ih (hfeed p line h)

theorem commandLine_feed (p : Plugin) (line : Text) :
    (feed p line).commandLine =
      if line = escapeLine then p.commandLine.focusIn
      else if p.commandLine.focus = .editor then insertText p.commandLine (line ++ ['\n'])
      else typeLine p.commandLine line := by
  rw [feed]
  split
  · rw [Plugin.shortcut, if_pos rfl]
    rfl
  · split <;> rfl

def linePresses (p : Plugin) (line : Text) : List Press :=
  if line = escapeLine then [] else p.commandLine.typedPresses line

def presses (p : Plugin) : List Text → List Press
  | [] => []
  | line :: lines => linePresses p line ++ presses (feed p line) lines

theorem presses_append (p : Plugin) (lines more : List Text) :
    presses p (lines ++ more) = presses p lines ++ presses (after p lines) more := by
  induction lines generalizing p with
  | nil => rfl
  | cons line lines ih =>
    rw [List.cons_append, presses, presses, ih, List.append_assoc]
    rfl

inductive Inserts (p : Plugin) (line : Text) : CommandLine → Text → Prop
  | whole : line ≠ escapeLine → p.commandLine.focus = .editor →
      Inserts p line p.commandLine (line ++ ['\n'])
  | rest {init rest : Text} {k : Char} : line ≠ escapeLine → line = init ++ k :: rest →
      rest ≠ [] → (p.commandLine.typeText init).focus = .commandLine →
      ((p.commandLine.typeText init).typeChar k).focus = .editor →
      Inserts p line ((p.commandLine.typeText init).typeChar k) rest

theorem typeLine_append {init : Text} (h : (c.typeText init).focus = .commandLine) (t : Text) :
    typeLine c (init ++ t) = typeLine (c.typeText init) t := by
  induction init generalizing c with
  | nil => rfl
  | cons k ks ih =>
    rw [List.cons_append, typeLine, if_pos (CommandLine.focus_of_typeText h)]
    exact ih h

namespace Inserts

theorem focus (h : Inserts p line c s) : c.focus = .editor := by
  cases h with
  | whole _ hf => exact hf
  | rest _ _ _ _ hf => exact hf

theorem feed_eq (h : Inserts p line c s) : (feed p line).commandLine = insertText c s := by
  cases h with
  | whole hline hf => rw [feed, if_neg hline, if_pos hf, Plugin.update]
  | @rest init _ k hline ht hback hc hf =>
    have hp : p.commandLine.focus ≠ .editor := by simp [CommandLine.focus_of_typeText hc]
    obtain ⟨r, rs, rfl⟩ := List.exists_cons_of_ne_nil hback
    rw [feed, if_neg hline, if_neg hp, Plugin.update, ht, typeLine_append hc, typeLine, if_pos hc,
      typeLine, if_neg (by simp [hf])]

theorem explained (h : Inserts p line c s) (hps : p.commandLine.Explained ps) :
    c.Explained (ps ++ linePresses p line) := by
  cases h with
  | whole hline hf =>
    rw [linePresses, if_neg hline, CommandLine.typedPresses_of_editor hf, List.append_nil]
    exact hps
  | @rest init _ k hline ht hback hc hf =>
    have htype := hps.typeText (init ++ [k])
    have hline' : line = (init ++ [k]) ++ s := by simpa using ht
    have hstate : p.commandLine.typeText (init ++ [k]) =
        (p.commandLine.typeText init).typeChar k := by
      simp [CommandLine.typeText]
    rw [hstate] at htype
    rw [linePresses, if_neg hline, hline', CommandLine.typedPresses_append, hstate,
      CommandLine.typedPresses_of_editor hf, List.append_nil]
    exact htype

end Inserts

theorem explained_feed (h : p.commandLine.Explained ps) (line : Text) :
    (feed p line).commandLine.Explained (ps ++ linePresses p line) := by
  rw [commandLine_feed, linePresses]
  by_cases hline : line = escapeLine
  · rw [if_pos hline, if_pos hline, List.append_nil]
    exact h.focusIn
  · rw [if_neg hline, if_neg hline]
    split
    · rename_i hf
      rw [CommandLine.typedPresses_of_editor hf, List.append_nil]
      exact h.insertText hf _
    · exact h.typeLine line

theorem explained_after (h : p.commandLine.Explained ps) (lines : List Text) :
    (after p lines).commandLine.Explained (ps ++ presses p lines) := by
  induction lines generalizing p ps with
  | nil =>
    rw [presses, List.append_nil]
    exact h
  | cons line lines ih =>
    rw [presses, ← List.append_assoc]
    exact ih (explained_feed h line)

theorem explained_start {w : Workspace}
    (hw : ∀ d ∈ w.documents, ∃ name text, d.editor = .ofText name text) (settings : Settings) :
    (start w settings).commandLine.Explained [] := by
  have h : w.Every (Editor.Explained []) := by
    intro d hd
    obtain ⟨name, text, he⟩ := hw d hd
    rw [he]
    exact .ofText name text
  refine .of_commandLine rfl ?_
  exact (h.update fun _ he => he.dropFocus).update fun _ he => he.showCursor settings.cursor

/-- In every session from documents as they are opened, what reaches the editor replaces the
selection, which is the cursor's place alone but for one case: undo has brought a selection back,
and the key for inserting was pressed on it. -/
theorem insertMode_inserts {w : Workspace} {settings : Settings} {lines : List Text}
    (hw : ∀ d ∈ w.documents, ∃ name text, d.editor = .ofText name text)
    (h : Inserts (after (start w settings) lines) line c s) :
    ∃ e e', c.workspace.editor? = some e ∧
      (feed (after (start w settings) lines) line).commandLine.workspace.editor? = some e' ∧
      e.cursor.Within e.text ∧
      e'.text = e.text.take e.cursor.first ++ s ++ e.text.drop e.cursor.last ∧
      e'.cursor = .caret (e.cursor.first + s.length) ∧
      (e.cursor.hasSelection = false → e.InsertsAt s e') ∧
      (e.cursor.hasSelection →
        EndsInInsert (presses (start w settings) (lines ++ [line])) e.text e.cursor ∧
          Restored (presses (start w settings) (lines ++ [line])) e.text e.cursor) := by
  have hlines := explained_after (explained_start hw settings) lines
  have hc := h.explained hlines
  have hps : presses (start w settings) (lines ++ [line]) =
      [] ++ presses (start w settings) lines ++ linePresses (after (start w settings) lines) line := by
    simp [presses_append, presses]
  obtain ⟨e, he, hinsert⟩ := hc.inserting h.focus
  have hexp : e.Explained _ := hc.editors.editor he
  rw [hps]
  refine ⟨e, e.insert s, he, ?_, hexp.within.cursor, e.text_insert s, rfl,
    (Editor.insertsAt_insert · s), fun hs => ⟨hinsert hs, hexp.restored hs⟩⟩
  rw [h.feed_eq]
  simp [insertText, CommandLine.updateWorkspace, he]

theorem insertMode_inserts_rest :
    let p := start (Workspace.withDocument (.ofFiles (.empty [])) "notes" "ab".toList) .standard
    let c := (after p ["l".toList]).commandLine.typeChar 'i'
    Inserts (after p ["l".toList]) "ixy".toList c "xy".toList ∧
      ∃ e e', c.workspace.editor? = some e ∧
        (feed (after p ["l".toList]) "ixy".toList).commandLine.workspace.editor? = some e' ∧
        e.InsertsAt "xy".toList e' := by
  intro p c
  have hw : ∀ d ∈ (Workspace.withDocument (.ofFiles (.empty [])) "notes" "ab".toList).documents,
      ∃ name text, d.editor = .ofText name text := by
    intro d hd
    rw [List.mem_singleton.1 hd]
    exact ⟨_, _, rfl⟩
  have h : Inserts (after p ["l".toList]) "ixy".toList c "xy".toList :=
    @Inserts.rest _ _ [] _ _ (by decide) rfl (by decide) (by decide +kernel) (by decide +kernel)
  have hcaret : c.workspace.editor?.map (·.cursor.hasSelection) = some false := by decide +kernel
  obtain ⟨e, e', he, he', -, -, -, hinsert, -⟩ := insertMode_inserts hw h
  rw [he, Option.map_some, Option.some.injEq] at hcaret
  exact ⟨h, e, e', he, he', hinsert hcaret⟩

/-- Deleting a line, undoing that and pressing the key for inserting leaves the line selected: the
next line does not go in at the cursor, it takes the place of the selected one. -/
theorem exists_inserts_not_insertsAt :
    let p := start (Workspace.withDocument (.ofFiles (.empty [])) "notes" ['\n']) .standard
    let q := after p ["dd".toList, "u".toList, "i".toList]
    Inserts q ['X'] q.commandLine ['X', '\n'] ∧
      ∃ e e', q.commandLine.workspace.editor? = some e ∧
        (feed q ['X']).commandLine.workspace.editor? = some e' ∧
        e.text = ['\n'] ∧ e.cursor = ⟨1, 0⟩ ∧ e'.text = ['X', '\n'] ∧
        ¬ e.InsertsAt ['X', '\n'] e' := by
  intro p q
  have h : Inserts q ['X'] q.commandLine ['X', '\n'] := .whole (by decide) (by decide +kernel)
  have hbefore : q.commandLine.workspace.editor?.map (fun e => (e.text, e.cursor)) =
      some (['\n'], ⟨1, 0⟩) := by decide +kernel
  have hafter : (feed q ['X']).commandLine.workspace.editor?.map (·.text) =
      some ['X', '\n'] := by decide +kernel
  obtain ⟨e, he, hcursor⟩ := Option.map_eq_some_iff.1 hbefore
  obtain ⟨e', he', htext'⟩ := Option.map_eq_some_iff.1 hafter
  obtain ⟨htext, hcursor⟩ := Prod.mk.inj hcursor
  refine ⟨h, e, e', he, he', htext, hcursor, htext', fun hlaw => ?_⟩
  have hlaw := hlaw.1
  rw [htext', htext, hcursor] at hlaw
  cases hlaw

end Session

end ModalEditor
