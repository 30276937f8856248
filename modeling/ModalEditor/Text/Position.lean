import ModalEditor.Text.Line

/-! Places in a text: an offset counts characters from the start, a position names a line and a
byte of its content. Places outside the text stand for the nearest one inside. -/

namespace ModalEditor

structure Position where
  line : Nat
  byte : Nat
  deriving DecidableEq, Repr

namespace Position

def origin : Position := ⟨0, 0⟩

def before (p q : Position) : Prop :=
  p.line < q.line ∨ p.line = q.line ∧ p.byte < q.byte

end Position

namespace Text

def locate : List Text → Nat → Nat × Nat
  | [], n => (0, n)
  | [_], n => (0, n)
  | l :: ls, n =>
    if n < l.length then (0, n)
    else
      let (i, k) := locate ls (n - l.length)
      (i + 1, k)

/-- The position of an offset. An offset inside the break of its line is taken to the end of the
content. -/
def positionAt (t : Text) (offset : Nat) : Position :=
  let (i, k) := locate t.lines (min offset t.length)
  ⟨i, byteLength ((t.content i).take k)⟩

/-- The offset of a position: a byte behind the content means its end, a byte inside a character
the start of that character, a line behind the last one the end of the text. -/
def offsetAt (t : Text) (p : Position) : Nat :=
  if p.line < t.lineCount then t.lineStart p.line + (t.content p.line).charsWithin p.byte
  else t.length

def insertAt (t : Text) (offset : Nat) (s : Text) : Text :=
  t.take offset ++ s ++ t.drop offset

def slice (t : Text) (first last : Nat) : Text :=
  (t.take last).drop first

def remove (t : Text) (first last : Nat) : Text :=
  t.take first ++ t.drop (max first last)

theorem take_slice_drop (t : Text) {first last : Nat} (h : first ≤ last) :
    t.take first ++ t.slice first last ++ t.drop last = t := by
  rw [slice, ← List.take_append_drop last t, List.take_append_drop]
  conv => rhs; rw [← List.take_append_drop last t, ← List.take_append_drop first (t.take last)]
  rw [List.take_take, Nat.min_eq_left h]

end Text

end ModalEditor
