import ModalEditor.Text.Basic

namespace ModalEditor

/-- A place in a text and where the selection began; both agree without a selection. -/
structure Cursor where
  position : Nat
  anchor : Nat
  deriving DecidableEq, Repr

namespace Cursor

def caret (position : Nat) : Cursor := ⟨position, position⟩

def hasSelection (c : Cursor) : Bool := c.position ≠ c.anchor

def first (c : Cursor) : Nat := min c.position c.anchor

def last (c : Cursor) : Nat := max c.position c.anchor

theorem first_le_last (c : Cursor) : c.first ≤ c.last := by
  simp only [first, last]
  omega

@[simp] theorem first_caret (n : Nat) : (Cursor.caret n).first = n := Nat.min_self n

@[simp] theorem last_caret (n : Nat) : (Cursor.caret n).last = n := Nat.max_self n

@[simp] theorem hasSelection_caret (n : Nat) : (Cursor.caret n).hasSelection = false := by
  simp [hasSelection, caret]

theorem eq_caret_of_hasSelection {c : Cursor} (h : c.hasSelection = false) :
    c = .caret c.position := by
  obtain ⟨position, anchor⟩ := c
  simp only [hasSelection, decide_eq_false_iff_not, Decidable.not_not] at h
  rw [caret, h]

end Cursor

structure Snapshot where
  text : Text
  cursor : Cursor
  deriving DecidableEq, Repr

abbrev History := List Snapshot

namespace History

def capacity : Nat := 200

/-- Adds a state unless the newest one has its text; drops the oldest beyond the capacity. -/
def push (h : History) (s : Snapshot) : History :=
  match h with
  | [] => [s]
  | newest :: _ => if newest.text = s.text then h else (s :: h).take capacity

theorem length_push_le {h : History} (s : Snapshot) (hh : h.length ≤ capacity) :
    (h.push s).length ≤ capacity := by
  fun_cases push h s with
  | case1 => simp [capacity]
  | case2 => exact hh
  | case3 => exact List.length_take_le _ _

end History

end ModalEditor
