import ModalEditor.Proofs.Motion.Vertical

namespace ModalEditor

namespace Text

open Cluster

variable [Segmentation] {t : Text} {p q q' : Position} {column : Nat}

theorem LastWithin.eq_of_line_eq (h : LastWithin t column q) (h' : LastWithin t column q')
    (hline : q.line = q'.line) : q = q' := by
  obtain ⟨line, byte⟩ := q
  obtain ⟨line', byte'⟩ := q'
  obtain rfl : line = line' := hline
  rw [Nat.le_antisymm (h'.last byte h.atBoundary h.column_le)
    (h.last byte' h'.atBoundary h'.column_le)]

theorem LastWithin.eq_atColumn (h : LastWithin t column q) : q = t.atColumn q.line column :=
  h.eq_of_line_eq (lastWithin_atColumn h.atBoundary.1 column) rfl

theorem AtBoundary.lastWithin_columnOf (h : AtBoundary t p) : LastWithin t (t.columnOf p) p := by
  refine ⟨h, Nat.le_refl _, fun b hb hcolumn => ?_⟩
  obtain ⟨line, byte⟩ := p
  obtain ⟨-, before, after, hclusters, hbyte⟩ := h
  obtain ⟨-, before', after', hclusters', hbyte'⟩ := hb
  obtain rfl : byte = byteLength before.flatten := hbyte
  obtain rfl : b = byteLength before'.flatten := hbyte'
  rw [columnOf_eq_span hclusters, columnOf_eq_span hclusters'] at hcolumn
  exact byteLength_le_of_span_le (hclusters.symm.trans hclusters')
    (fun g _ => Nat.lt_add_of_pos_right (cells_pos g)) hcolumn

end Text

namespace Vertical

open Text

section

variable [Segmentation] {t : Text} {w : Walker} {p : Position} {column : Nat}

/-- Steps up and down, one after the other; one that is not possible is left out. Each aims at the
column that the steps before it have fixed. -/
def stroll (t : Text) : List Vertical → Walker → Walker
  | [], w => w
  | v :: vs, w => stroll t vs ((v.motion.step? t w).getD w)

structure Follows (t : Text) (column : Nat) (w : Walker) : Prop where
  lastWithin : LastWithin t column w.position
  aims : w.column.getD (t.columnOf w.position) = column

namespace Follows

theorem ofBoundary (h : AtBoundary t p) : Follows t (t.columnOf p) ⟨p, none⟩ where
  lastWithin := h.lastWithin_columnOf
  aims := rfl

theorem line_lt (h : Follows t column w) : w.position.line < t.lineCount :=
  h.lastWithin.atBoundary.1

theorem step (h : Follows t column w) (v : Vertical) :
    Follows t column ((v.motion.step? t w).getD w) ∧
      ((v.motion.step? t w).getD w).position.line = v.target t w.position.line 1 := by
  rw [v.step?_eq w h.line_lt, h.aims]
  by_cases hreaches : v.Reaches t w.position.line 1
  · rw [if_pos hreaches]
    exact ⟨⟨lastWithin_atColumn (target_lt h.line_lt) column, rfl⟩, rfl⟩
  · rw [if_neg hreaches]
    exact ⟨h, (target_of_not_reaches hreaches h.line_lt).symm⟩

theorem stroll (h : Follows t column w) (vs : List Vertical) :
    Follows t column (stroll t vs w) ∧
      (Vertical.stroll t vs w).position.line =
        vs.foldl (fun line v => v.target t line 1) w.position.line := by
  induction vs generalizing w with
  | nil => exact ⟨h, rfl⟩
  | cons v vs ih =>
    obtain ⟨hstep, hline⟩ := h.step v
    rw [List.foldl_cons, ← hline]
    exact ih hstep

end Follows

/-- A walk from a boundary, of any steps up and down, always stands at the last boundary of its line
whose column does not exceed the one it started from, and it aims at no other column. The line is
the one that the steps lead to; when it is the first one again, the walk is where it started. -/
theorem stroll_position (h : AtBoundary t p) (vs : List Vertical) :
    let w := stroll t vs ⟨p, none⟩
    w.position = t.atColumn w.position.line (t.columnOf p) ∧
      LastWithin t (t.columnOf p) w.position ∧
      w.column.getD (t.columnOf p) = t.columnOf p ∧
      w.position.line = vs.foldl (fun line v => v.target t line 1) p.line ∧
      (w.position.line = p.line → w.position = p) := by
  intro w
  obtain ⟨⟨hlast, haims⟩, hline⟩ := (Follows.ofBoundary h).stroll vs
  refine ⟨hlast.eq_atColumn, hlast, ?_, hline, hlast.eq_of_line_eq h.lastWithin_columnOf⟩
  cases hcolumn : w.column with
  | none => rfl
  | some column =>
    rw [hcolumn] at haims
    exact haims

end

theorem stroll_position_back :
    let t : Text := "a\u6f22b\nx\nabcde".toList
    let p : Position := ⟨0, 4⟩
    AtBoundary t p ∧ (stroll t [.up, .down] ⟨p, none⟩).position = ⟨1, 1⟩ ∧
      (stroll t [.up, .down, .down, .down] ⟨p, none⟩).position = ⟨2, 3⟩ ∧
      (stroll t [.up, .down, .down, .down, .up, .up] ⟨p, none⟩).position = p := by
  intro t p
  have hp : AtBoundary t p := ⟨by decide, [['a'], ['\u6f22']], [['b']], by decide +kernel, rfl⟩
  have hcolumn : t.columnOf p = 3 := by decide +kernel
  obtain ⟨hshort, -, -, hfirst, -⟩ := stroll_position hp [.up, .down]
  obtain ⟨hlong, -, -, hsecond, -⟩ := stroll_position hp [.up, .down, .down, .down]
  obtain ⟨-, -, -, hback, hreturn⟩ := stroll_position hp [.up, .down, .down, .down, .up, .up]
  refine ⟨hp, ?_, ?_, hreturn (hback.trans (by decide))⟩
  · rw [hshort, hfirst, hcolumn]
    decide +kernel
  · rw [hlong, hsecond, hcolumn]
    decide +kernel

end Vertical

end ModalEditor
