import Mathlib.Data.List.Infix
import ModalEditor.Proofs.CommandLine.Event
import ModalEditor.Proofs.Editor.WellFormed
import ModalEditor.Proofs.Session.InsertMode
import ModalEditor.Proofs.Workspace.Stack

namespace ModalEditor.Session

variable {p : Plugin} {c : CommandLine}

section Workspace

variable {P : Workspace → Prop} (hdispatch : ∀ w i, P w → P (w.dispatch i).2)
  (hedit : ∀ w (x : EditorOperation), P w → P (w.updateEditor (·.apply x)))
include hdispatch hedit

theorem workspace_typeLine (h : P c.workspace) (line : Text) : P (typeLine c line).workspace := by
  fun_induction typeLine c line with
  | case1 c => exact CommandLine.workspace_enter hdispatch hedit h
  | case2 => exact h
  | case3 c k ks _ ih => exact ih (CommandLine.workspace_textChanged hdispatch hedit h _)
  | case4 c k ks => exact hedit _ (.insert (k :: ks)) h

theorem workspace_feed (h : P p.commandLine.workspace) (line : Text) :
    P (feed p line).commandLine.workspace := by
  rw [commandLine_feed]
  split
  · exact CommandLine.workspace_focusIn hedit h
  · split
    · exact hedit _ (.insert (line ++ ['\n'])) h
    · exact workspace_typeLine hdispatch hedit h line

theorem workspace_after (h : P p.commandLine.workspace) (lines : List Text) :
    P (after p lines).commandLine.workspace :=
  after_of_feed (P := fun p => P p.commandLine.workspace)
    (fun _ line hp => workspace_feed hdispatch hedit hp line) h lines

end Workspace

/-- A printed row that fits the state: the name of the current document, the line and the column at
which the offset of its cursor lies, both counted from one, and the mode; or the lack of
documents. -/
inductive Tells (c : CommandLine) : String → Prop
  | cursor {d : Document} {line column : Nat} : c.workspace.document? = some d →
      1 ≤ line → line ≤ d.editor.text.lineCount → 1 ≤ column →
      d.editor.text.lineStart (line - 1) + (column - 1) = d.editor.cursor.position →
      column - 1 ≤ (d.editor.text.content (line - 1)).length →
      Tells c (d.editor.name ++ " " ++ toString line ++ ":" ++ toString column ++
        if c.focus = .editor then " [INSERT]\n" else " [COMMAND]\n")
  | noDocument : c.workspace.documents = [] → Tells c "[no document]\n"

theorem text_cursor (name : String) (line column : Nat) (f : Focus) :
    (Row.cursor name line column f).text ++ "\n" =
      name ++ " " ++ toString line ++ ":" ++ toString column ++
        if f = .editor then " [INSERT]\n" else " [COMMAND]\n" := by
  rw [Row.text, String.append_assoc, String.append_assoc, String.append_assoc]
  cases f <;> rfl

theorem tells_row (h : p.commandLine.workspace.Reachable) :
    Tells p.commandLine ((row p).text ++ "\n") := by
  rw [row, Workspace.editor?]
  cases hd : p.commandLine.workspace.document? with
  | none =>
    refine .noDocument (by_contra fun hopen => ?_)
    obtain ⟨e, he⟩ := h.valid.exists_editor hopen
    rw [Workspace.editor?, hd] at he
    cases he
  | some d =>
    have hposition := (h.within.editor (Option.map_eq_some_iff.2 ⟨d, hd, rfl⟩)).cursor.position
    simp only [Option.map_some, Editor.lineColumn_eq_locate hposition, text_cursor]
    exact .cursor hd (Nat.le_add_left 1 _) (Text.locate_lt_length d.editor.text.lines_ne_nil _)
      (Nat.le_add_left 1 _) (Text.length_take_locate _ _) (Text.locate_le_content hposition)

theorem Tells.ne_noDocument {s : String} (h : Tells c s) (hopen : c.workspace.documents ≠ []) :
    s ≠ "[no document]\n" := by
  cases h with
  | noDocument hnone => exact absurd hnone hopen
  | cursor =>
    intro heq
    have hlast := congrArg (fun s => s.toList.reverse.take 3) heq
    cases hf : c.focus <;> simp [hf] at hlast

inductive Stop (p : Plugin) : List (Option Text) → End → Prop
  | closed (more : List (Option Text)) : isOver p → Stop p more .ended
  | endOfInput : isOver p = false → Stop p [] .ended
  | unreadable (more : List (Option Text)) : isOver p = false → Stop p (none :: more) .unreadable

structure Course (p : Plugin) (lines : List (Option Text)) (front : List Text) (r : Result) :
    Prop where
  lines_eq : ∃ more, lines = front.map some ++ more ∧ Stop r.plugin more r.ending
  plugin_eq : r.plugin = after p front
  rows_eq : r.rows = front.inits.map fun read => row (after p read)
  goes_on : ∀ read line, read ++ [line] <+: front → isOver (after p read) = false

namespace Course

variable {lines : List (Option Text)} {front : List Text} {r : Result}

theorem nil (hstop : Stop p lines r.ending) (hplugin : r.plugin = p) (hrows : r.rows = [row p]) :
    Course p lines [] r where
  lines_eq := ⟨lines, rfl, hplugin ▸ hstop⟩
  plugin_eq := hplugin
  rows_eq := hrows
  goes_on read line h := by simp at h

theorem cons {line : Text} (hp : isOver p = false) (h : Course (feed p line) lines front r) :
    Course p (some line :: lines) (line :: front) { r with rows := row p :: r.rows } where
  lines_eq := by
    obtain ⟨more, hmore, hstop⟩ := h.lines_eq
    exact ⟨more, congrArg (some line :: ·) hmore, hstop⟩
  plugin_eq := h.plugin_eq
  rows_eq := by
    simp only [h.rows_eq, List.inits_cons, List.map_cons, List.map_map]
    rfl
  goes_on read next hnext := by
    cases read with
    | nil => exact hp
    | cons first read =>
      obtain ⟨rfl, hread⟩ := List.cons_prefix_cons.1 hnext
      exact h.goes_on read next hread

end Course

theorem exists_course_feedAll (hp : isOver p = false) (lines : List (Option Text)) :
    ∃ front, Course p lines front
      { feedAll p lines with rows := row p :: (feedAll p lines).rows } := by
  fun_induction feedAll p lines with
  | case1 p => exact ⟨[], .nil (.endOfInput hp) rfl rfl⟩
  | case2 p lines => exact ⟨[], .nil (.unreadable lines hp) rfl rfl⟩
  | case3 p line lines next hover =>
    exact ⟨[line], .cons (r := ⟨[row next], next, .ended⟩) hp (.nil (.closed lines hover) rfl rfl)⟩
  | case4 p line lines next hnext r ih =>
    obtain ⟨front, hfront⟩ := ih (Bool.eq_false_iff.2 hnext)
    exact ⟨line :: front, hfront.cons hp⟩

theorem isOver_update_focusIn (p : Plugin) : isOver (p.update .focusIn) = isOver p := by
  have hlength : (p.update .focusIn).commandLine.workspace.documents.length =
      p.commandLine.workspace.documents.length :=
    (Workspace.length_updateEditor _ _).trans (Workspace.length_updateEditor _ _)
  rw [isOver, isOver, Bool.eq_iff_iff, List.isEmpty_iff_length_eq_zero,
    List.isEmpty_iff_length_eq_zero, hlength]

end ModalEditor.Session
