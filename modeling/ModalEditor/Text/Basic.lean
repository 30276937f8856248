namespace ModalEditor

abbrev Text := List Char

namespace Text

def byteLength : Text → Nat
  | [] => 0
  | c :: cs => c.utf8Size + byteLength cs

@[simp] theorem byteLength_nil : byteLength [] = 0 := rfl

@[simp] theorem byteLength_cons (c : Char) (cs : Text) :
    byteLength (c :: cs) = c.utf8Size + byteLength cs := rfl

@[simp] theorem byteLength_append (s t : Text) :
    byteLength (s ++ t) = byteLength s + byteLength t := by
  induction s with
  | nil => simp
  | cons c cs ih => simp [ih, Nat.add_assoc]

def charsWithin : Text → Nat → Nat
  | [], _ => 0
  | c :: cs, b => if c.utf8Size ≤ b then charsWithin cs (b - c.utf8Size) + 1 else 0

/-- The text from a byte on; a character that the byte falls into is kept. -/
def fromByte (t : Text) (b : Nat) : Text :=
  t.drop (t.charsWithin b)

theorem charsWithin_le_length (t : Text) (b : Nat) : t.charsWithin b ≤ t.length := by
  induction t generalizing b with
  | nil => simp [charsWithin]
  | cons c cs ih =>
    simp only [charsWithin, List.length_cons]
    split
    · exact Nat.succ_le_succ (ih _)
    · exact Nat.zero_le _

end Text

end ModalEditor
