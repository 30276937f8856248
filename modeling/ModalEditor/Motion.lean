import ModalEditor.Text.Boundary
import ModalEditor.Text.Position

/-! Cursor motions. A motion takes a position to another one, or fails where it cannot move; motions
up and down also fix the column that later ones aim at. A counted motion stops at its first step
that fails. -/

namespace ModalEditor

open Cluster

inductive Motion
  | left
  | right
  | up
  | down
  | nextWord
  | wordEnd
  | lineStart
  | lineEnd
  deriving DecidableEq, Repr

/-- A position that moves, and the column aimed at once it has moved up or down. -/
structure Walker where
  position : Position
  column : Option Nat
  deriving DecidableEq, Repr

variable [Segmentation]

namespace Text

def lineClusters (t : Text) (i : Nat) : List Text :=
  (t.content i).clusters

def contentLength (t : Text) (i : Nat) : Nat :=
  byteLength (t.content i)

def left? (t : Text) (p : Position) : Option Position :=
  if p.byte = 0 then
    if p.line = 0 then none else some ⟨p.line - 1, t.contentLength (p.line - 1)⟩
  else some ⟨p.line, boundaryBefore (t.lineClusters p.line) p.byte⟩

def right? (t : Text) (p : Position) : Option Position :=
  if p.byte < t.contentLength p.line then
    some ⟨p.line, boundaryAfter (t.lineClusters p.line) p.byte⟩
  else if p.line + 1 < t.lineCount then some ⟨p.line + 1, 0⟩
  else none

def columnOf (t : Text) (p : Position) : Nat :=
  columnAt (t.lineClusters p.line) p.byte

def atColumn (t : Text) (line column : Nat) : Position :=
  ⟨line, byteAtColumn (t.lineClusters line) column⟩

def wordBelow : List Text → Nat → Position → Position
  | [], _, last => last
  | l :: ls, i, _ =>
    match firstWord? l.clusters 0 with
    | some b => ⟨i, b⟩
    | none => wordBelow ls (i + 1) ⟨i, byteLength l⟩

/-- The start of the next word: past the rest of a word at the position, and past all that is no
word. A position at the end of a line first moves to the next line, and past a word there. -/
def nextWord? (t : Text) (p : Position) : Option Position :=
  let start? :=
    if p.byte < t.contentLength p.line then some p
    else if p.line + 1 < t.lineCount then some ⟨p.line + 1, 0⟩
    else none
  start?.map fun q =>
    let gs := restFrom (t.lineClusters q.line) q.byte
    let word := gs.takeWhile isWord
    match firstWord? (gs.dropWhile isWord) (q.byte + byteLength word.flatten) with
    | some b => ⟨q.line, b⟩
    | none =>
      wordBelow ((t.lines.drop (q.line + 1)).map dropLineFeed) (q.line + 1)
        ⟨q.line, t.contentLength q.line⟩

def wordEnd? (t : Text) (p : Position) : Option Position :=
  if p.byte < t.contentLength p.line then
    let gs := restFrom (t.lineClusters p.line) p.byte
    let blanks := gs.takeWhile Cluster.isBlank
    let run :=
      match gs.dropWhile Cluster.isBlank with
      | [] => []
      | g :: rest => g :: rest.takeWhile fun h => !Cluster.isBlank h && isWord h == isWord g
    some ⟨p.line, p.byte + byteLength blanks.flatten + byteLength run.flatten⟩
  else none

end Text

namespace Motion

def step? (t : Text) (w : Walker) : Motion → Option Walker
  | left => (t.left? w.position).map ({ w with position := · })
  | right => (t.right? w.position).map ({ w with position := · })
  | nextWord => (t.nextWord? w.position).map ({ w with position := · })
  | wordEnd => (t.wordEnd? w.position).map ({ w with position := · })
  | lineStart => some { w with position := ⟨w.position.line, 0⟩ }
  | lineEnd => some { w with position := ⟨w.position.line, t.contentLength w.position.line⟩ }
  | up =>
    if w.position.line = 0 then none
    else
      let column := w.column.getD (t.columnOf w.position)
      some ⟨t.atColumn (w.position.line - 1) column, some column⟩
  | down =>
    if w.position.line + 1 < t.lineCount then
      let column := w.column.getD (t.columnOf w.position)
      some ⟨t.atColumn (w.position.line + 1) column, some column⟩
    else none

/-- Repeats a step until it fails or leaves everything as it is; tells whether all steps were
possible. -/
def repeatStep {α : Type} [DecidableEq α] (step : α → Option α) : Nat → α → α × Bool
  | 0, a => (a, true)
  | n + 1, a =>
    match step a with
    | none => (a, false)
    | some b => if b = a then (a, true) else repeatStep step n b

def walk (t : Text) (m : Motion) (count : Nat) (p : Position) : Position × Bool :=
  let (w, completed) := repeatStep (fun w => m.step? t w) count ⟨p, none⟩
  (w.position, completed)

end Motion

end ModalEditor
