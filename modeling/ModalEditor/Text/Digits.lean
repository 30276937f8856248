import ModalEditor.Text.Basic

namespace ModalEditor.Text

def isDigit (c : Char) : Bool := '0' ≤ c && c ≤ '9'

def digitValue (c : Char) : Nat := c.toNat - 48

def decimal (digits : Text) : Nat :=
  digits.foldl (fun n c => 10 * n + digitValue c) 0

def decimalUpTo? (bound : Nat) (digits : Text) : Option Nat :=
  digits.foldlM (fun n c =>
    let m := 10 * n + digitValue c
    if m ≤ bound then some m else none) 0

def digitRun (t : Text) : Text := t.takeWhile isDigit

def afterDigits (t : Text) : Text := t.dropWhile isDigit

@[simp] theorem digitRun_append_afterDigits (t : Text) : t.digitRun ++ t.afterDigits = t :=
  List.takeWhile_append_dropWhile

end ModalEditor.Text
