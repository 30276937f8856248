import ModalEditor.Text.Basic

namespace ModalEditor.Toml

abbrev Reader (α : Type) := Text → Option (α × Text)

def isSpace (c : Char) : Bool := c = ' ' || c = '\t'

def isVisible (c : Char) : Bool := c = '\t' || 0x20 ≤ c.toNat && c.toNat ≠ 0x7F

def skipSpaces (t : Text) : Text := t.dropWhile isSpace

def newline? : Text → Option Text
  | '\n' :: cs => some cs
  | '\r' :: '\n' :: cs => some cs
  | _ => none

def lineEnd? (t : Text) : Option Text :=
  let t :=
    match skipSpaces t with
    | '#' :: cs => cs.dropWhile isVisible
    | cs => cs
  if t.isEmpty then some [] else newline? t

def skipLayout (inComment : Bool) : Text → Option Text
  | [] => some []
  | '\n' :: cs => skipLayout false cs
  | '\r' :: '\n' :: cs => skipLayout false cs
  | c :: cs =>
    if inComment then if isVisible c then skipLayout true cs else none
    else if isSpace c then skipLayout false cs
    else if c = '#' then skipLayout true cs
    else some (c :: cs)

end ModalEditor.Toml
