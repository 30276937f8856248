import ModalEditor.Editor.Basic
import ModalEditor.Proofs.Text.Column

namespace ModalEditor

inductive Vertical
  | up
  | down
  deriving DecidableEq, Repr

namespace Vertical

open Motion

variable {t : Text} {v : Vertical} {line count column : Nat} {p : Position}

def motion : Vertical → Motion
  | up => .up
  | down => .down

def target (t : Text) (line count : Nat) : Vertical → Nat
  | up => line - count
  | down => min (line + count) (t.lineCount - 1)

def Reaches (t : Text) (line count : Nat) : Vertical → Prop
  | up => count ≤ line
  | down => line + count ≤ t.lineCount - 1

instance (t : Text) (line count : Nat) : (v : Vertical) → Decidable (v.Reaches t line count)
  | up => inferInstanceAs (Decidable (_ ≤ _))
  | down => inferInstanceAs (Decidable (_ ≤ _))

theorem target_lt (h : line < t.lineCount) : v.target t line count < t.lineCount := by
  cases v <;> simp only [target] <;> omega

theorem target_zero (h : line < t.lineCount) : v.target t line 0 = line := by
  cases v <;> simp only [target] <;> omega

theorem reaches_zero (h : line < t.lineCount) : v.Reaches t line 0 := by
  cases v <;> simp only [Reaches] <;> omega

theorem target_succ (h : v.Reaches t line 1) :
    v.target t line (count + 1) = v.target t (v.target t line 1) count := by
  cases v <;> simp only [Reaches, target] at * <;> omega

theorem reaches_succ (h : v.Reaches t line 1) :
    v.Reaches t line (count + 1) ↔ v.Reaches t (v.target t line 1) count := by
  cases v <;> simp only [Reaches, target] at * <;> omega

theorem target_succ_ne (h : v.Reaches t line 1) : v.target t line (count + 1) ≠ line := by
  cases v <;> simp only [Reaches, target] at * <;> omega

theorem target_of_not_reaches (h : ¬ v.Reaches t line 1) (hline : line < t.lineCount) :
    v.target t line count = line := by
  cases v <;> simp only [Reaches, target] at * <;> omega

theorem not_reaches_succ (h : ¬ v.Reaches t line 1) : ¬ v.Reaches t line (count + 1) := by
  cases v <;> simp only [Reaches] at * <;> omega

variable [Segmentation]

theorem step?_eq (v : Vertical) (w : Walker) (h : w.position.line < t.lineCount) :
    v.motion.step? t w =
      if v.Reaches t w.position.line 1 then
        let column := w.column.getD (t.columnOf w.position)
        some ⟨t.atColumn (v.target t w.position.line 1) column, some column⟩
      else none := by
  cases v with
  | up =>
    have hreaches : up.Reaches t w.position.line 1 ↔ ¬ w.position.line = 0 := Nat.one_le_iff_ne_zero
    simp only [motion, step?, target, hreaches, ite_not]
  | down =>
    have hreaches : down.Reaches t w.position.line 1 ↔ w.position.line + 1 < t.lineCount := by
      simp only [Reaches]
      omega
    simp only [motion, step?, target, hreaches]
    split
    · rw [Nat.min_eq_left (by omega)]
    · rfl

theorem repeatStep_atColumn (v : Vertical) (column count : Nat) (h : line < t.lineCount) :
    repeatStep (fun w => v.motion.step? t w) count ⟨t.atColumn line column, some column⟩ =
      (⟨t.atColumn (v.target t line count) column, some column⟩,
        decide (v.Reaches t line count)) := by
  induction count generalizing line with
  | zero => rw [repeatStep, target_zero h, decide_eq_true (reaches_zero h)]
  | succ count ih =>
    have hstep : v.motion.step? t ⟨t.atColumn line column, some column⟩ =
        if v.Reaches t line 1 then some ⟨t.atColumn (v.target t line 1) column, some column⟩
        else none := v.step?_eq _ h
    rw [repeatStep, hstep]
    by_cases hreaches : v.Reaches t line 1
    · have hline : v.target t line 1 ≠ line := target_succ_ne hreaches
      have hne : (⟨t.atColumn (v.target t line 1) column, some column⟩ : Walker) ≠
          ⟨t.atColumn line column, some column⟩ := fun heq =>
        hline (congrArg (·.position.line) heq)
      simp only [if_pos hreaches, if_neg hne, ih (target_lt h), ← target_succ hreaches,
        ← reaches_succ hreaches]
    · simp only [if_neg hreaches, target_of_not_reaches hreaches h,
        decide_eq_false (not_reaches_succ hreaches)]

theorem walk_eq (v : Vertical) (count : Nat) (h : p.line < t.lineCount) :
    v.motion.walk t count p =
      (if v.target t p.line count = p.line then p
        else t.atColumn (v.target t p.line count) (t.columnOf p),
        decide (v.Reaches t p.line count)) := by
  cases count with
  | zero =>
    rw [if_pos (target_zero h), decide_eq_true (reaches_zero h)]
    rfl
  | succ count =>
    -- the first step fixes the column that the others aim at, so it is apart from them
    rw [walk, repeatStep, v.step?_eq ⟨p, none⟩ h]
    simp only [Option.getD_none]
    by_cases hreaches : v.Reaches t p.line 1
    · have hne : (⟨t.atColumn (v.target t p.line 1) (t.columnOf p), some (t.columnOf p)⟩ : Walker) ≠
          ⟨p, none⟩ := by simp
      simp only [if_pos hreaches, if_neg hne, repeatStep_atColumn v _ count (target_lt h),
        ← target_succ hreaches, ← reaches_succ hreaches, if_neg (target_succ_ne hreaches)]
    · simp only [if_neg hreaches, if_pos (target_of_not_reaches hreaches h),
        decide_eq_false (not_reaches_succ hreaches)]

end Vertical

def Anchor.cursorAt (c : Cursor) (n : Nat) : Anchor → Cursor
  | move => .caret n
  | keep => ⟨n, c.anchor⟩

namespace Editor

open Text

section

variable [Segmentation]

theorem move_eq_walk (e : Editor) (m : Motion) (a : Anchor) (count : Nat) :
    e.move m a count =
      let r := m.walk e.text count (e.text.positionAt e.cursor.position)
      ({ e with cursor := a.cursorAt e.cursor (e.text.offsetAt r.1) }, r.2) := by
  cases a <;> rfl

/-- A counted move up or down ends where the column of the cursor leads to on the line that many
lines away, or on the first or last line; it completes if and only if there is such a line. The
cursor is then on that line, unless the content of the line has a break that the column goes
beyond: then it is at the start of the line after. -/
theorem move_vertical {e : Editor} (h : e.cursor.position ≤ e.text.length) (v : Vertical)
    (a : Anchor) (count : Nat) :
    let p := e.text.positionAt e.cursor.position
    let line := v.target e.text p.line count
    ∃ n, e.move v.motion a count =
        ({ e with cursor := a.cursorAt e.cursor n }, decide (v.Reaches e.text p.line count)) ∧
      (line = p.line → n = e.cursor.position) ∧
      (line ≠ p.line → ∃ q, q.line = line ∧ e.text.LastWithin (e.text.columnOf p) q ∧
        n = e.text.offsetAt q) ∧
      (e.text.positionAt n).line =
        if line ≠ p.line ∧ e.text.Overshoots (e.text.columnOf p) line then line + 1 else line := by
  intro p line
  have hp : p.line < e.text.lineCount := (e.text.atCharacter_positionAt e.cursor.position).1
  have hline : line < e.text.lineCount := Vertical.target_lt hp
  have hwalk : v.motion.walk e.text count p =
      (if line = p.line then p else e.text.atColumn line (e.text.columnOf p),
        decide (v.Reaches e.text p.line count)) := v.walk_eq count hp
  rw [move_eq_walk, hwalk]
  by_cases hstays : line = p.line
  · have hoffset : e.text.offsetAt p = e.cursor.position := offsetAt_positionAt h
    refine ⟨e.cursor.position, ?_, fun _ => rfl, fun hne => absurd hstays hne, ?_⟩
    · simp only [if_pos hstays, hoffset]
    · rw [if_neg fun hne => hne.1 hstays, hstays]
  · have hlast := lastWithin_atColumn hline (e.text.columnOf p)
    refine ⟨e.text.offsetAt (e.text.atColumn line (e.text.columnOf p)), ?_,
      fun heq => absurd heq hstays, fun _ => ⟨_, rfl, hlast, rfl⟩, ?_⟩
    · simp only [if_neg hstays]
    · rw [hlast.positionAt_offsetAt, apply_ite Position.line, ite_and, if_pos hstays]
      rfl

end

theorem move_vertical_short_line :
    let e : Editor := { ofText "" "abcd\nx\nab\u6f22c".toList with cursor := .caret 3 }
    e.cursor.position ≤ e.text.length ∧ e.move .down .keep 2 =
        ({ e with cursor := ⟨9, 3⟩ }, true) ∧
      (e.text.positionAt 9).line = 2 ∧
      ∃ q, q.line = 2 ∧ e.text.LastWithin 3 q ∧ e.text.offsetAt q = 9 := by
  intro e
  have hle : e.cursor.position ≤ e.text.length := by decide
  have hmoved : e.move .down .keep 2 = ({ e with cursor := ⟨9, 3⟩ }, true) := by decide +kernel
  have hp : e.text.positionAt e.cursor.position = ⟨0, 3⟩ := by decide
  have hcolumn : e.text.columnOf ⟨0, 3⟩ = 3 := by decide +kernel
  obtain ⟨n, hmove, -, hjump, hline⟩ := move_vertical hle .down .keep 2
  obtain rfl : 9 = n :=
    congrArg (fun r : Editor × Bool => r.1.cursor.position) (hmoved.symm.trans hmove)
  rw [hp, hcolumn] at hjump
  obtain ⟨q, hq, hlast, hoffset⟩ := hjump (by decide)
  refine ⟨hle, hmoved, ?_, q, hq, hlast, hoffset.symm⟩
  rw [hline, hp, hcolumn]
  decide +kernel

/-- A lone carriage return is passed over with its line: one line down is two. -/
theorem exists_move_down_beyond :
    let e : Editor := { ofText "" "abc\nx\ry".toList with cursor := .caret 3 }
    e.cursor.position ≤ e.text.length ∧ (e.text.positionAt 3).line = 0 ∧
      Vertical.down.target e.text 0 1 = 1 ∧
      e.move .down .move 1 = ({ e with cursor := .caret 6 }, true) ∧
      (e.text.positionAt 6).line = 2 := by
  decide +kernel

end Editor

end ModalEditor
