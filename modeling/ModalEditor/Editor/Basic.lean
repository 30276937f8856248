import ModalEditor.Editor.History
import ModalEditor.Motion

namespace ModalEditor

structure Highlight where
  first : Nat
  last : Nat
  foreground : String
  background : String
  deriving DecidableEq, Repr

/-- Highlights by the name of their owner; the first entry of a name counts. -/
abbrev Highlights := List (String × List Highlight)

namespace Highlights

def get (hs : Highlights) (owner : String) : List Highlight :=
  (hs.lookup owner).getD []

def clear (hs : Highlights) (owner : String) : Highlights :=
  hs.filter (·.1 ≠ owner)

def set (hs : Highlights) (owner : String) (items : List Highlight) : Highlights :=
  (owner, items) :: hs.clear owner

@[simp] theorem get_set (hs : Highlights) (owner : String) (items : List Highlight) :
    (hs.set owner items).get owner = items := by
  simp [get, set]

@[simp] theorem get_clear (hs : Highlights) (owner : String) : (hs.clear owner).get owner = [] := by
  induction hs with
  | nil => rfl
  | cons e hs ih =>
    obtain ⟨name, items⟩ := e
    simp only [get, clear, List.filter_cons] at ih ⊢
    split
    · rename_i h
      have h : (owner == name) = false :=
        beq_eq_false_iff_ne.2 fun e => of_decide_eq_true h e.symm
      simpa only [List.lookup_cons, h] using ih
    · exact ih

@[simp] theorem clear_clear (hs : Highlights) (owner : String) :
    (hs.clear owner).clear owner = hs.clear owner := by
  simp [clear]

@[simp] theorem clear_set (hs : Highlights) (owner : String) (items : List Highlight) :
    (hs.set owner items).clear owner = hs.clear owner := by
  simp [clear, set]

@[simp] theorem set_clear (hs : Highlights) (owner : String) (items : List Highlight) :
    (hs.clear owner).set owner items = hs.set owner items := by
  simp [set]

end Highlights

structure Editor where
  name : String
  text : Text
  cursor : Cursor
  history : History
  clipboard : Option Text
  focused : Bool
  highlights : Highlights
  deriving DecidableEq, Repr

inductive Anchor
  | move
  | keep
  deriving DecidableEq, Repr

namespace Editor

def ofText (name : String) (text : Text) : Editor :=
  { name, text, cursor := .caret 0, history := [], clipboard := none, focused := false
    highlights := [] }

def snapshot (e : Editor) : Snapshot := ⟨e.text, e.cursor⟩

def setCursor (e : Editor) (c : Cursor) : Editor :=
  { e with cursor := ⟨min c.position e.text.length, min c.anchor e.text.length⟩ }

def move [Segmentation] (e : Editor) (m : Motion) (a : Anchor) (count : Nat) : Editor × Bool :=
  let (p, completed) := m.walk e.text count (e.text.positionAt e.cursor.position)
  let position := e.text.offsetAt p
  let anchor :=
    match a with
    | .move => position
    | .keep => e.cursor.anchor
  ({ e with cursor := ⟨position, anchor⟩ }, completed)

def insert (e : Editor) (s : Text) : Editor :=
  { e with
    text := (e.text.remove e.cursor.first e.cursor.last).insertAt e.cursor.first s
    cursor := .caret (e.cursor.first + s.length)
    history := e.history.push e.snapshot }

def cut (e : Editor) : Editor :=
  if e.cursor.hasSelection then
    { e with
      text := e.text.remove e.cursor.first e.cursor.last
      clipboard := some (e.text.slice e.cursor.first e.cursor.last)
      cursor := .caret e.cursor.first
      history := e.history.push e.snapshot }
  else e

def undo (e : Editor) : Editor :=
  match e.history with
  | [] => e
  | s :: rest => { e with text := s.text, cursor := s.cursor, history := rest }

def undoTimes (e : Editor) : Nat → Editor
  | 0 => e
  | n + 1 => if e.history.isEmpty then e else e.undo.undoTimes n

def takeFocus (e : Editor) : Editor := { e with focused := true }

@[simp] theorem cursor_takeFocus (e : Editor) : e.takeFocus.cursor = e.cursor := rfl

def dropFocus (e : Editor) : Editor := { e with focused := false }

/-- Puts the cursor at the start of a line counted from one; the nearest line when there is none
of that number. -/
def goToLine (e : Editor) (number : Nat) : Editor :=
  { e with cursor := .caret (e.text.offsetAt ⟨min (number - 1) (e.text.lineCount - 1), 0⟩) }

def replaceText (e : Editor) (text : Text) : Editor :=
  { e with text, history := [], cursor := .caret (min e.cursor.position text.length) }

def highlight (e : Editor) (owner : String) (items : List Highlight) : Editor :=
  { e with highlights := e.highlights.set owner items }

def clearHighlight (e : Editor) (owner : String) : Editor :=
  { e with highlights := e.highlights.clear owner }

def lineColumn (e : Editor) : Nat × Nat :=
  let line := (e.text.positionAt e.cursor.position).line
  (line, e.cursor.position - e.text.offsetAt ⟨line, 0⟩)

end Editor

end ModalEditor
