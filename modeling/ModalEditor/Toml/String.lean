import ModalEditor.Toml.Layout

namespace ModalEditor.Toml

def hexValue? (c : Char) : Option Nat :=
  if '0' ≤ c ∧ c ≤ '9' then some (c.toNat - 48)
  else if 'a' ≤ c ∧ c ≤ 'f' then some (c.toNat - 87)
  else if 'A' ≤ c ∧ c ≤ 'F' then some (c.toNat - 55)
  else none

def codePoint? (digits : Text) : Option Char := do
  let n ← digits.foldlM (fun n c => (16 * n + ·) <$> hexValue? c) 0
  if h : n.isValidChar then some (.ofNatAux n h) else none

def codePointEscape? (count : Nat) (t : Text) : Option (Text × Text) :=
  if t.length < count then none
  else (codePoint? (t.take count)).map fun c => ([c], t.drop count)

def trimLines : Text → Text
  | '\r' :: '\n' :: cs => trimLines cs
  | c :: cs => if isSpace c || c = '\n' then trimLines cs else c :: cs
  | [] => []

/-- What stands for the escape behind a backslash. In strings of several lines a backslash at the
end of a line takes away all blank text up to the next character. -/
def escape? (severalLines : Bool) : Text → Option (Text × Text)
  | 'b' :: cs => some (['\x08'], cs)
  | 't' :: cs => some (['\t'], cs)
  | 'n' :: cs => some (['\n'], cs)
  | 'f' :: cs => some (['\x0c'], cs)
  | 'r' :: cs => some (['\r'], cs)
  | 'e' :: cs => some (['\x1b'], cs)
  | '"' :: cs => some (['"'], cs)
  | '\\' :: cs => some (['\\'], cs)
  | 'x' :: cs => codePointEscape? 2 cs
  | 'u' :: cs => codePointEscape? 4 cs
  | 'U' :: cs => codePointEscape? 8 cs
  | cs => if severalLines then (newline? (skipSpaces cs)).map fun cs => ([], trimLines cs) else none

def escapedBody : Nat → Reader Text
  | 0, _ => none
  | n + 1, t =>
    match t with
    | [] => none
    | '"' :: cs => some ([], cs)
    | '\\' :: cs => do
      let (s, cs) ← escape? false cs
      let (body, cs) ← escapedBody n cs
      return (s ++ body, cs)
    | c :: cs => do
      if !isVisible c then none
      let (body, cs) ← escapedBody n cs
      return (c :: body, cs)

/-- The rest of a string of several lines between double quotes. Up to two quotes before the closing
three belong to the string. -/
def escapedLines : Nat → Reader Text
  | 0, _ => none
  | n + 1, t =>
    match t with
    | [] => none
    | '"' :: '"' :: '"' :: '"' :: '"' :: cs => some (['"', '"'], cs)
    | '"' :: '"' :: '"' :: '"' :: cs => some (['"'], cs)
    | '"' :: '"' :: '"' :: cs => some ([], cs)
    | '\\' :: cs => do
      let (s, cs) ← escape? true cs
      let (body, cs) ← escapedLines n cs
      return (s ++ body, cs)
    | '\r' :: '\n' :: cs => do
      let (body, cs) ← escapedLines n cs
      return ('\r' :: '\n' :: body, cs)
    | c :: cs => do
      if !isVisible c && c ≠ '\n' then none
      let (body, cs) ← escapedLines n cs
      return (c :: body, cs)

def plainBody : Reader Text
  | [] => none
  | c :: cs =>
    if c = '\x27' then some ([], cs)
    else if isVisible c then (plainBody cs).map fun (body, cs) => (c :: body, cs)
    else none

def plainLines : Reader Text
  | '\x27' :: '\x27' :: '\x27' :: '\x27' :: '\x27' :: cs => some (['\x27', '\x27'], cs)
  | '\x27' :: '\x27' :: '\x27' :: '\x27' :: cs => some (['\x27'], cs)
  | '\x27' :: '\x27' :: '\x27' :: cs => some ([], cs)
  | '\r' :: '\n' :: cs => (plainLines cs).map fun (body, cs) => ('\r' :: '\n' :: body, cs)
  | c :: cs =>
    if isVisible c || c = '\n' then (plainLines cs).map fun (body, cs) => (c :: body, cs)
    else none
  | [] => none

def lineString? : Reader Text
  | '"' :: cs => escapedBody (cs.length + 1) cs
  | '\x27' :: cs => plainBody cs
  | _ => none

def skipFirstNewline (t : Text) : Text := (newline? t).getD t

def string? : Reader Text
  | '"' :: '"' :: '"' :: cs =>
    let cs := skipFirstNewline cs
    escapedLines (cs.length + 1) cs
  | '\x27' :: '\x27' :: '\x27' :: cs => plainLines (skipFirstNewline cs)
  | cs => lineString? cs

end ModalEditor.Toml
