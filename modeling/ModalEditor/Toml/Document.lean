import ModalEditor.Toml.Scalar
import ModalEditor.Toml.Table

namespace ModalEditor.Toml

def isBareKeyChar (c : Char) : Bool := c.isAlphanum || c = '_' || c = '-'

def keyPart? (t : Text) : Option (Text × Text) :=
  match t with
  | '"' :: _ | '\x27' :: _ => lineString? t
  | _ =>
    let name := t.takeWhile isBareKeyChar
    if name.isEmpty then none else some (name, t.dropWhile isBareKeyChar)

def key? : Nat → Reader (List Text)
  | 0, _ => none
  | n + 1, t => do
    let (part, t) ← keyPart? t
    match skipSpaces t with
    | '.' :: t => do
      let (parts, t) ← key? n (skipSpaces t)
      return (part :: parts, t)
    | t => return ([part], t)

def maxDepth : Nat := 80

mutual

/-- A value; `depth` is how many more levels of nesting it may have. -/
def value? : Nat → Nat → Reader Value
  | 0, _, _ => none
  | n + 1, depth, t =>
    match depth, t with
    | 0, '[' :: _ | 0, '{' :: _ => none
    | depth + 1, '[' :: t => (items? n depth t).map fun (vs, t) => (.array false vs, t)
    | depth + 1, '{' :: t => do
      let (as, t) ← assignments? n depth t
      let es ← Entries.assignAll? [] as
      return (.table .inline es, t)
    | _, t => scalar? t

def items? : Nat → Nat → Reader (List Value)
  | 0, _, _ => none
  | n + 1, depth, t => do
    match ← skipLayout false t with
    | ']' :: t => return ([], t)
    | t =>
      let (v, t) ← value? n depth t
      match ← skipLayout false t with
      | ',' :: t =>
        let (vs, t) ← items? n depth t
        return (v :: vs, t)
      | ']' :: t => return ([v], t)
      | _ => none

def assignments? : Nat → Nat → Reader (List Assignment)
  | 0, _, _ => none
  | n + 1, depth, t => do
    match ← skipLayout false t with
    | '}' :: t => return ([], t)
    | t =>
      let (a, t) ← assignment? n depth t
      match ← skipLayout false t with
      | ',' :: t =>
        let (as, t) ← assignments? n depth t
        return (a :: as, t)
      | '}' :: t => return ([a], t)
      | _ => none

def assignment? : Nat → Nat → Reader Assignment
  | 0, _, _ => none
  | n + 1, depth, t => do
    let (path, t) ← key? (n + 1) t
    match t with
    | '=' :: t =>
      let (v, t) ← value? n depth (skipSpaces t)
      return (⟨path, v⟩, t)
    | _ => none

end

inductive Line
  | blank
  | header (isArray : Bool) (path : List Text)
  | assignment (a : Assignment)

def headerPath? (t : Text) : Option (List Text × Text) := do
  let (path, t) ← key? t.length (skipSpaces t)
  return (path, ← skip? ']' t)

def lineStart? (t : Text) : Option (Line × Text) :=
  match t with
  | '[' :: '[' :: t => do
    let (path, t) ← headerPath? t
    return (.header true path, ← skip? ']' t)
  | '[' :: t => (headerPath? t).map fun (path, t) => (.header false path, t)
  | [] | '\n' :: _ | '\r' :: _ | '#' :: _ => some (.blank, t)
  | t => (assignment? (4 * t.length + 4) maxDepth t).map fun (a, t) => (.assignment a, t)

def lines? : Nat → Text → Option (List Line)
  | 0, _ => none
  | n + 1, t =>
    if t.isEmpty then some []
    else do
      let (line, t) ← lineStart? (skipSpaces t)
      let t ← lineEnd? t
      return line :: (← lines? n t)

def divide : List Line → List Assignment × List Section
  | [] => ([], [])
  | .blank :: ls => divide ls
  | .assignment a :: ls =>
    let (as, sections) := divide ls
    (a :: as, sections)
  | .header isArray path :: ls =>
    let (as, sections) := divide ls
    ([], ⟨path, isArray, as⟩ :: sections)

def skipByteOrderMark : Text → Text
  | '\uFEFF' :: cs => cs
  | cs => cs

def parse? (t : Text) : Option Entries := do
  let t := skipByteOrderMark t
  let (top, sections) := divide (← lines? (t.length + 1) t)
  sections.foldlM Entries.addSection? (← Entries.assignAll? [] top)

end ModalEditor.Toml
