import ModalEditor.Text.Basic
import ModalEditor.Unicode.GraphemeExtend
import ModalEditor.Unicode.Unprintable

namespace ModalEditor.Text

open Unicode

def codePointEscape (c : Char) : Text :=
  ['\\', 'u', '{'] ++ Nat.toDigits 16 c.toNat ++ ['}']

def quoteChar (c : Char) : Text :=
  match c with
  | '"' => ['\\', '"']
  | '\\' => ['\\', '\\']
  | '\n' => ['\\', 'n']
  | '\r' => ['\\', 'r']
  | '\t' => ['\\', 't']
  | '\x00' => ['\\', '0']
  | c => if isGraphemeExtend c || isUnprintable c then codePointEscape c else [c]

def quoted (t : Text) : String :=
  .ofList ('"' :: t.flatMap quoteChar ++ ['"'])

end ModalEditor.Text
