import ModalEditor.Text.Segmentation
import ModalEditor.Text.Word

namespace ModalEditor.Cluster

open Text

def starts : List Text → Nat → List Nat
  | [], _ => []
  | g :: gs, b => b :: starts gs (b + byteLength g)

def boundaryBefore (gs : List Text) (byte : Nat) : Nat :=
  if byteLength gs.flatten < byte then 0
  else ((starts gs 0).takeWhile (· < byte)).getLastD 0

def boundaryAfter (gs : List Text) (byte : Nat) : Nat :=
  ((starts gs 0).find? (byte < ·)).getD (byteLength gs.flatten)

def columnAt [Segmentation] : List Text → Nat → Nat
  | [], _ => 0
  | g :: gs, byte => if byte = 0 then 0 else cells g + columnAt gs (byte - byteLength g)

def byteAtColumn [Segmentation] : List Text → Nat → Nat
  | [], _ => 0
  | g :: gs, column =>
    if column < cells g then 0 else byteLength g + byteAtColumn gs (column - cells g)

/-- The clusters from a byte on; of one that the byte falls into, the rest is kept. -/
def restFrom : List Text → Nat → List Text
  | [], _ => []
  | g :: gs, byte =>
    if byte = 0 then g :: gs
    else if byteLength g ≤ byte then restFrom gs (byte - byteLength g)
    else Text.fromByte g byte :: gs

def firstWord? : List Text → Nat → Option Nat
  | [], _ => none
  | g :: gs, b => if isWord g then some b else firstWord? gs (b + byteLength g)

end ModalEditor.Cluster
