import ModalEditor.Proofs.Command.Parse
import ModalEditor.Proofs.Editor.WholeLines
import ModalEditor.Proofs.Workspace.Stack

namespace ModalEditor

namespace Editor

open Text

theorem goToLine_eq (e : Editor) (number : Nat) :
    e.goToLine number = { e with
      cursor := .caret (e.text.lineStart (min (max number 1) e.text.lineCount - 1)) } := by
  have hpos := e.text.lineCount_pos
  have hclamp : min (number - 1) (e.text.lineCount - 1) =
      min (max number 1) e.text.lineCount - 1 := by omega
  have hlt : min (max number 1) e.text.lineCount - 1 < e.text.lineCount := by omega
  rw [goToLine, hclamp, offsetAt_lineStart hlt]

theorem lineColumn_of_lineStart {e : Editor} {i : Nat} (h : i < e.text.lineCount)
    (hc : e.cursor = .caret (e.text.lineStart i)) : e.lineColumn = (i, 0) := by
  have hposition : e.cursor.position = e.text.lineStart i := congrArg Cursor.position hc
  simp only [lineColumn, hposition, positionAt_lineStart h, offsetAt_lineStart h, Nat.sub_self]

end Editor

namespace Command

theorem parse_digits {indent digits rest : Text} (hindent : ∀ c ∈ indent, isBlank c)
    (hne : digits ≠ []) (hdigits : ∀ c ∈ digits, Text.isDigit c)
    (hrest : ∀ c ∈ rest.head?, isBlank c) :
    parse (indent ++ digits ++ rest) = .goToLine (min digits.decimal maxLineNumber) := by
  have hname : ∀ c ∈ digits, ¬ isBlank c := fun c hc => not_isBlank_of_isDigit (hdigits c hc)
  rw [parse_append hindent hname hne hrest, ofName_of_digits hne hdigits]

theorem clamp_min_maxLineNumber {v count : Nat} :
    min (max (min v maxLineNumber) 1) count = min (max v 1) count ↔
      v ≤ maxLineNumber ∨ count ≤ maxLineNumber := by
  have hpos : 1 ≤ maxLineNumber := by decide
  omega

end Command

namespace Workspace

open Command

/-- A line number of any length puts the cursor at the start of the line of this number, or of the
first or last line if there is none; so it does on every text with no more lines than 64 bits can
count. Nothing is selected then, nothing else of the editor and no other document is changed. -/
theorem dispatchCommand_goesToLine {w : Workspace} {e : Editor} (he : w.editor? = some e)
    {indent digits rest : Text} (hindent : ∀ c ∈ indent, isBlank c) (hne : digits ≠ [])
    (hdigits : ∀ c ∈ digits, Text.isDigit c) (hrest : ∀ c ∈ rest.head?, isBlank c) :
    let number := min (max (min digits.decimal maxLineNumber) 1) e.text.lineCount
    (number = min (max digits.decimal 1) e.text.lineCount ↔
        digits.decimal ≤ maxLineNumber ∨ e.text.lineCount ≤ maxLineNumber) ∧
      ∃ e', w.dispatchCommand (indent ++ digits ++ rest) =
          (.ok .commandLine, w.updateEditor fun _ => e') ∧
        e' = { e with cursor := .caret (e.text.lineStart (number - 1)) } ∧
        e'.lineColumn = (number - 1, 0) ∧
        ∀ j, w.current ≠ some j →
          (w.updateEditor fun _ => e').documents[j]? = w.documents[j]? := by
  intro number
  have hgoto : e.goToLine (min digits.decimal maxLineNumber) =
      { e with cursor := .caret (e.text.lineStart (number - 1)) } := e.goToLine_eq _
  have hline : number - 1 < e.text.lineCount := by
    have hpos := e.text.lineCount_pos
    omega
  refine ⟨clamp_min_maxLineNumber, _, ?_, rfl, Editor.lineColumn_of_lineStart hline rfl,
    fun j => getElem?_updateEditor_of_ne _⟩
  simp only [dispatchCommand, dispatch, Input.plan, parse_digits hindent hne hdigits hrest, ← hgoto]
  exact edit_eq_const he .commandLine _

theorem dispatchCommand_goesToLine_last :
    let w := (Workspace.ofFiles (.empty [])).withDocument "" "a\nb\n".toList
    let digits := "99999999999999999999".toList
    w.editor? = some (.ofText "" "a\nb\n".toList) ∧ (∀ c ∈ digits, Text.isDigit c) ∧
      ∃ e', w.dispatchCommand ("\u2003".toList ++ digits ++ " x".toList) =
          (.ok .commandLine, w.updateEditor fun _ => e') ∧
        e'.cursor = .caret 4 ∧ e'.lineColumn = (2, 0) := by
  intro w digits
  have hdigits : ∀ c ∈ digits, Text.isDigit c := List.all_eq_true.1 (by decide)
  have hindent : ∀ c ∈ "\u2003".toList, isBlank c := List.all_eq_true.1 (by decide)
  have hrest : ∀ c ∈ " x".toList.head?, isBlank c := (Option.all_eq_true _ _).1 (by decide)
  obtain ⟨-, e', hdispatch, rfl, hcolumn, -⟩ :=
    dispatchCommand_goesToLine (w := w) (e := .ofText "" "a\nb\n".toList) rfl hindent (by decide)
      hdigits hrest
  exact ⟨rfl, hdigits, _, hdispatch, by decide, hcolumn⟩

end Workspace

end ModalEditor
