import Mathlib.Data.List.Chain
import ModalEditor.Proofs.Editor.Undo

namespace ModalEditor

namespace History

/-- No text stands twice in a row, and there are no more than the capacity. -/
structure Compact (h : History) : Prop where
  distinct : (h.map Snapshot.text).IsChain (· ≠ ·)
  depth : h.length ≤ capacity

namespace Compact

theorem nil : Compact [] where
  distinct := List.IsChain.nil
  depth := Nat.zero_le _

theorem tail {h : History} (hh : h.Compact) : Compact h.tail where
  distinct := by
    rw [List.map_tail]
    exact hh.distinct.tail
  depth := by
    rw [List.length_tail]
    exact Nat.le_trans (Nat.sub_le _ _) hh.depth

theorem push {h : History} (hh : h.Compact) (s : Snapshot) : (h.push s).Compact where
  distinct := by
    have hdistinct := hh.distinct
    fun_cases History.push h s with
    | case1 => exact List.isChain_singleton s.text
    | case2 => exact hdistinct
    | case3 newest rest hne =>
      have hlong : ((s :: newest :: rest).map Snapshot.text).IsChain (· ≠ ·) :=
        List.isChain_cons_cons.2 ⟨Ne.symm hne, hdistinct⟩
      rw [List.map_take]
      exact hlong.take capacity
  depth := length_push_le s hh.depth

end Compact

end History

namespace Editor

variable {e : Editor}

structure WellFormed (e : Editor) : Prop extends Within e where
  compact : e.history.Compact

theorem history_apply (e : Editor) (x : EditorOperation) :
    (e.apply x).history = e.history ∨ (e.apply x).history = e.history.push e.snapshot ∨
      (e.apply x).history = e.history.tail ∨ (e.apply x).history = [] := by
  cases x with
  | insert s => exact .inr (.inl rfl)
  | cut =>
    cases hs : e.cursor.hasSelection with
    | false => exact .inl (by simp [apply, cut, hs])
    | true => exact .inr (.inl (by simp [apply, cut, hs]))
  | undo => exact .inr (.inr (.inl e.history_undo))
  | replaceText text => exact .inr (.inr (.inr rfl))
  | _ => exact .inl rfl

namespace WellFormed

theorem ofText (name : String) (text : Text) : (ofText name text).WellFormed where
  toWithin := within_ofText name text
  compact := .nil

theorem apply (h : e.WellFormed) (x : EditorOperation) : (e.apply x).WellFormed where
  toWithin := h.toWithin.apply x
  compact := by
    rcases e.history_apply x with hx | hx | hx | hx
    all_goals rw [hx]
    · exact h.compact
    · exact h.compact.push e.snapshot
    · exact h.compact.tail
    · exact .nil

theorem keep_history {e' : Editor} (h : e.WellFormed) (h' : e'.WellFormed) :
    WellFormed { e' with history := e.history } where
  cursor := h'.cursor
  history := h.history
  compact := h.compact

end WellFormed

/-- The editors that operations lead to, in any order and with any arguments. A history that tells
texts apart by digests of them may take a text for its newest one and leave it out. -/
inductive Attained : Editor → Prop
  | ofText (name : String) (text : Text) : Attained (.ofText name text)
  | apply {e : Editor} : Attained e → ∀ x, Attained (e.apply x)
  | leaveOut {e : Editor} {x : EditorOperation} : Attained e → x.isEdit →
      Attained { e.apply x with history := e.history }

theorem Attained.wellFormed (h : e.Attained) : e.WellFormed := by
  induction h with
  | ofText name text => exact .ofText name text
  | apply _ x ih => exact ih.apply x
  | @leaveOut _ x _ _ ih => exact ih.keep_history (ih.apply x)

theorem lineColumn_eq_locate (h : e.cursor.position ≤ e.text.length) :
    e.lineColumn = Text.locate e.text.lines e.cursor.position := by
  have hline := Text.locate_lt_length e.text.lines_ne_nil e.cursor.position
  have hsum : e.text.lineStart (Text.locate e.text.lines e.cursor.position).1 + _ = _ :=
    Text.length_take_locate e.text.lines e.cursor.position
  simp only [lineColumn, Text.positionAt, Nat.min_eq_left h, Text.offsetAt_lineStart hline]
  refine Prod.ext rfl ?_
  rw [← Nat.add_sub_cancel_left (m := (Text.locate e.text.lines e.cursor.position).2), hsum]

theorem offsetAt_lineColumn (h : e.cursor.position ≤ e.text.length) :
    e.text.offsetAt ⟨e.lineColumn.1, 0⟩ + e.lineColumn.2 = e.cursor.position := by
  rw [lineColumn_eq_locate h, Text.offsetAt_lineStart (Text.locate_lt_length e.text.lines_ne_nil _)]
  exact Text.length_take_locate e.text.lines e.cursor.position

theorem Within.first_le_length_remove (h : e.Within) :
    e.cursor.first ≤ (e.text.remove e.cursor.first e.cursor.last).length := by
  have hfirst := h.cursor.first_le
  simp only [Text.remove, List.length_append, List.length_take]
  omega

/-- Whatever operations have led to an editor, it is well formed. The start of the cursor's line and
its column add up to its place, so the column is no cut-off difference; and the places where an edit
removes the selection, and then inserts, lie in the text as it is at that time. -/
theorem attained_wellFormed (h : e.Attained) :
    e.WellFormed ∧ e.text.offsetAt ⟨e.lineColumn.1, 0⟩ + e.lineColumn.2 = e.cursor.position ∧
      e.cursor.last ≤ e.text.length ∧
      e.cursor.first ≤ (e.text.remove e.cursor.first e.cursor.last).length := by
  have hwell := h.wellFormed
  exact ⟨hwell, offsetAt_lineColumn hwell.cursor.position, hwell.cursor.last_le,
    hwell.first_le_length_remove⟩

theorem attained_wellFormed_undo :
    let selected := (ofText "notes" "ab\ncd".toList).apply (.setCursor ⟨9, 1⟩)
    let e := (((selected.apply .cut).apply (.insert "\nx".toList)).apply .undo).apply .undo
    e.Attained ∧ e.WellFormed ∧ e.cursor = ⟨5, 1⟩ ∧ e.lineColumn = (1, 2) ∧
      e.text.offsetAt ⟨1, 0⟩ + 2 = 5 ∧ e.cursor.last ≤ e.text.length := by
  intro selected e
  have hselected : selected.Attained := .apply (.ofText _ _) (.setCursor ⟨9, 1⟩)
  have he : e.Attained := .apply (.apply (.apply (.apply hselected .cut) (.insert _)) .undo) .undo
  have hcursor : e.cursor = ⟨5, 1⟩ := by decide
  have hlineColumn : e.lineColumn = (1, 2) := by decide
  obtain ⟨hwell, hcolumn, hlast, -⟩ := attained_wellFormed he
  rw [hlineColumn, hcursor] at hcolumn
  exact ⟨he, hwell, hcursor, hlineColumn, hcolumn, hlast⟩

end Editor

end ModalEditor
