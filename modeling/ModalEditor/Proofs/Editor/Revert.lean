import ModalEditor.Proofs.Editor.WellFormed

/-! What an undo right after an edit brings back: the text that the edit found, and the cursor too,
unless insertions before it have left the text as it was. The history keeps a text that it is
offered twice in a row only once, with the cursor that came first. -/

namespace ModalEditor

namespace History

def recorded? : History → Text → Option Cursor
  | [], _ => none
  | s :: _, t => if s.text = t then some s.cursor else none

theorem head?_push (h : History) (s : Snapshot) :
    (h.push s).head? = some ⟨s.text, (h.recorded? s.text).getD s.cursor⟩ := by
  fun_cases push h s with
  | case1 => rfl
  | case2 newest rest htext => simp [recorded?, ← htext]
  | case3 newest rest htext => simp [recorded?, htext, capacity]

theorem recorded?_push (h : History) (s : Snapshot) (t : Text) :
    (h.push s).recorded? t =
      if s.text = t then some ((h.recorded? s.text).getD s.cursor) else none := by
  obtain ⟨rest, hrest⟩ := List.head?_eq_some_iff.1 (h.head?_push s)
  rw [hrest, recorded?]

theorem Compact.recorded?_tail {s : Snapshot} {rest : History} (h : Compact (s :: rest)) :
    recorded? rest s.text = none := by
  cases rest with
  | nil => rfl
  | cons next rest =>
    have hne : s.text ≠ next.text := (List.isChain_cons_cons.1 h.distinct).1
    rw [recorded?, if_neg hne.symm]

end History

namespace Editor

variable {e e' : Editor} {cs : List Cursor} {x : EditorOperation}

def edits (e : Editor) : EditorOperation → Bool
  | .insert _ => true
  | .cut => e.cursor.hasSelection
  | _ => false

/-- The cursors that insertions have found which left the text as it was, from the last time on that
anything else set the text; with one more operation. -/
def idleAfter (e : Editor) (cs : List Cursor) : EditorOperation → List Cursor
  | .insert s => if e.text = (e.insert s).text then cs ++ [e.cursor] else []
  | .cut => if e.cursor.hasSelection then [] else cs
  | .undo | .replaceText _ => []
  | _ => cs

/-- The editors that operations lead to, in any order and with any arguments, with the cursors that
idle insertions have found. -/
inductive Operated : Editor → List Cursor → Prop
  | ofText (name : String) (text : Text) : Operated (.ofText name text) []
  | apply {e : Editor} {cs : List Cursor} : Operated e cs → ∀ x,
      Operated (e.apply x) (e.idleAfter cs x)

theorem Operated.attained (h : e.Operated cs) : e.Attained := by
  induction h with
  | ofText name text => exact .ofText name text
  | apply _ x ih => exact ih.apply x

theorem history_of_edits (hx : e.edits x) :
    (e.apply x).history = e.history.push e.snapshot := by
  cases x with
  | insert s => rfl
  | cut => simp [apply, cut, show e.cursor.hasSelection = true from hx]
  | _ => cases hx

theorem Within.text_cut_ne (h : e.Within) (hs : e.cursor.hasSelection) : e.text ≠ e.cut.text := by
  intro htext
  have hne : e.cursor.position ≠ e.cursor.anchor := of_decide_eq_true hs
  have hlast := h.cursor.last_le
  have hlength := congrArg List.length htext
  rw [text_cut hs, List.length_append, List.length_take, List.length_drop] at hlength
  simp only [Cursor.first, Cursor.last] at hlast hlength
  omega

theorem snapshot_undo (h : e'.history = e.history.push e.snapshot) :
    e'.undo.snapshot = ⟨e.text, (e.history.recorded? e.text).getD e.cursor⟩ := by
  have hhead := e.history.head?_push e.snapshot
  rw [← h] at hhead
  obtain ⟨rest, hrest⟩ := List.head?_eq_some_iff.1 hhead
  rw [undo, hrest]
  rfl

theorem recorded?_of_edits (hx : e.edits x) : (e.apply x).history.recorded? (e.apply x).text =
    if e.text = (e.apply x).text then some ((e.history.recorded? e.text).getD e.cursor)
    else none := by
  rw [history_of_edits hx, History.recorded?_push]
  rfl

theorem recorded?_apply (h : e.WellFormed) (hcs : e.history.recorded? e.text = cs.head?)
    (x : EditorOperation) :
    (e.apply x).history.recorded? (e.apply x).text = (e.idleAfter cs x).head? := by
  cases x with
  | insert s =>
    rw [recorded?_of_edits rfl, hcs, idleAfter, apply]
    -- The cursor of an idle insertion counts only if none was there before.
    split
    · cases cs <;> rfl
    · rfl
  | cut =>
    rw [idleAfter]
    cases hs : e.cursor.hasSelection with
    | false => simpa [apply, cut, hs] using hcs
    | true =>
      have hcut : e.edits .cut := hs
      rw [recorded?_of_edits hcut, apply, if_neg (h.text_cut_ne hs), if_pos rfl, List.head?_nil]
  | undo =>
    have hcompact := h.compact
    rw [apply, undo, idleAfter, List.head?_nil]
    -- behind the newest state comes none with its text, so the undone text has no record
    split
    · rename_i hempty
      rw [hempty, History.recorded?]
    · rename_i s rest hhistory
      rw [hhistory] at hcompact
      exact hcompact.recorded?_tail
  | replaceText text => rfl
  | _ => exact hcs

theorem Operated.recorded?_eq (h : e.Operated cs) : e.history.recorded? e.text = cs.head? := by
  induction h with
  | ofText name text => rfl
  | apply h x ih => exact recorded?_apply h.attained.wellFormed ih x

/-- An undo right after an edit brings back the text that the edit found. It brings back the cursor
that the first of the idle insertions found; when there have been none, the cursor that the edit
found. -/
theorem undo_reverts_edit (h : e.Operated cs) (hx : e.edits x) :
    (e.apply x).undo.text = e.text ∧ (e.apply x).undo.cursor = cs.headD e.cursor := by
  have hundo := snapshot_undo (history_of_edits hx)
  rw [h.recorded?_eq, ← List.headD_eq_head?_getD] at hundo
  exact ⟨congrArg Snapshot.text hundo, congrArg Snapshot.cursor hundo⟩

theorem undo_reverts_edit_idle :
    let replaced := ((ofText "notes" "abc".toList).apply (.setCursor ⟨1, 2⟩)).apply (.insert ['b'])
    let e := replaced.apply (.setCursor ⟨3, 0⟩)
    e.Operated [⟨1, 2⟩] ∧ e.edits .cut ∧ (e.apply .cut).undo.text = "abc".toList ∧
      (e.apply .cut).undo.cursor = ⟨1, 2⟩ := by
  intro replaced e
  have hreplaced : replaced.Operated [⟨1, 2⟩] :=
    .apply (.apply (.ofText _ _) (.setCursor _)) (.insert _)
  have he : e.Operated [⟨1, 2⟩] := hreplaced.apply (.setCursor _)
  obtain ⟨htext, hcursor⟩ := undo_reverts_edit he (x := .cut) rfl
  exact ⟨he, rfl, htext, hcursor⟩

theorem exists_undo_cursor_ne :
    let e := ((ofText "notes" "ab".toList).apply (.insert [])).apply (.setCursor (.caret 1))
    e.Operated [.caret 0] ∧ e.edits (.insert ['x']) ∧ e.snapshot = ⟨"ab".toList, .caret 1⟩ ∧
      (e.apply (.insert ['x'])).undo.snapshot = ⟨"ab".toList, .caret 0⟩ := by
  intro e
  have hidle : ((ofText "notes" "ab".toList).apply (.insert [])).Operated [.caret 0] :=
    .apply (.ofText _ _) (.insert _)
  exact ⟨hidle.apply (.setCursor _), rfl, by decide, by decide⟩

end Editor

end ModalEditor
