import ModalEditor.Text.Basic

namespace ModalEditor

inductive Key
  | left
  | down
  | up
  | right
  | nextWord
  | lineStart
  | lineEnd
  | insert
  | append
  | appendAtLineEnd
  | openBelow
  | openAbove
  | undo
  | deleteLine
  | deleteToLineEnd
  | deleteWord
  | saveAndClose
  deriving DecidableEq, Repr

namespace Key

/-- Symbols and their names, in the order in which they are spelled out. -/
def symbolNames : List (Char × String) :=
  [('!', "EXCLAMATION"), ('?', "QUESTION"), ('<', "LESS"), ('>', "GREATER"), ('|', "PIPE"),
    (' ', "SPACE"), ('@', "AT"), ('$', "DOLLAR"), ('0', "ZERO")]

def spellOut (symbol : Char) (name : String) (t : Text) : Text :=
  t.flatMap fun c => if c = symbol then name.toList else [c]

def nameOf (token : Text) : Text :=
  symbolNames.foldl (fun t (symbol, name) => spellOut symbol name t) token

def bindings : List (String × Key) :=
  [("h", left), ("j", down), ("k", up), ("l", right), ("w", nextWord), ("SPACE", right),
    ("DOLLAR", lineEnd), ("ZERO", lineStart), ("i", insert), ("a", append),
    ("A", appendAtLineEnd), ("o", openBelow), ("O", openAbove), ("u", undo), ("dd", deleteLine),
    ("D", deleteToLineEnd), ("dw", deleteWord), ("ZZ", saveAndClose)]

def ofName? (name : Text) : Option Key :=
  bindings.lookup (.ofList name)

def names : List String :=
  (bindings.map (·.1)).mergeSort (fun a b => decide (a ≤ b))

end Key

end ModalEditor
