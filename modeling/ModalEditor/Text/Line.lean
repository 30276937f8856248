import ModalEditor.Text.Basic

/-! The lines of a text. A line ends with a line feed, a carriage return, both in this order, a
vertical tab, a form feed, a next-line control, or a line or paragraph separator. Each line keeps
its break, so the lines put together are the text, and the last line has none. -/

namespace ModalEditor

def isLineBreak (c : Char) : Bool :=
  let n := c.toNat
  0x0A ≤ n && n ≤ 0x0D || n == 0x85 || n == 0x2028 || n == 0x2029

namespace Text

def extendFirst (c : Char) : List Text → List Text
  | [] => [[c]]
  | l :: ls => (c :: l) :: ls

def lines : Text → List Text
  | [] => [[]]
  | '\r' :: '\n' :: cs => ['\r', '\n'] :: lines cs
  | c :: cs => if isLineBreak c then [c] :: lines cs else extendFirst c (lines cs)

@[simp] theorem flatten_extendFirst (c : Char) (ls : List Text) :
    (extendFirst c ls).flatten = c :: ls.flatten := by
  cases ls <;> simp [extendFirst]

@[simp] theorem flatten_lines (t : Text) : t.lines.flatten = t := by
  fun_induction lines t with
  | case1 => rfl
  | case2 cs ih => simp [ih]
  | case3 c cs _ _ ih => simp [ih]
  | case4 c cs _ _ ih => simp [ih]

theorem extendFirst_ne_nil (c : Char) (ls : List Text) : extendFirst c ls ≠ [] := by
  cases ls <;> simp [extendFirst]

theorem lines_ne_nil (t : Text) : t.lines ≠ [] := by
  fun_cases lines t with
  | case1 => simp
  | case2 => simp
  | case3 => simp
  | case4 => exact extendFirst_ne_nil _ _

def lineCount (t : Text) : Nat :=
  t.lines.length

theorem lineCount_pos (t : Text) : 0 < t.lineCount :=
  List.length_pos_iff.2 t.lines_ne_nil

def line? (t : Text) (i : Nat) : Option Text :=
  t.lines[i]?

/-- A line without the line feed at its end; any other break is part of the content. -/
def dropLineFeed : Text → Text
  | [] => []
  | ['\n'] => []
  | c :: cs => c :: dropLineFeed cs

def content (t : Text) (i : Nat) : Text :=
  match t.line? i with
  | some l => dropLineFeed l
  | none => []

theorem content_of_lineCount_le {t : Text} {i : Nat} (h : t.lineCount ≤ i) : t.content i = [] := by
  simp [content, line?, List.getElem?_eq_none h]

def lineStart (t : Text) (i : Nat) : Nat :=
  (t.lines.take i).flatten.length

end Text

end ModalEditor
