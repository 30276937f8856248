import ModalEditor.Text.Basic

namespace ModalEditor.Toml

inductive FloatLiteral
  | finite (mantissa : Nat) (exponent : Int)
  | infinite
  | notANumber
  deriving DecidableEq, Repr

inductive TableKind
  | inline
  /-- Named only on the way to another table by a header. -/
  | implied
  | dotted
  | opened
  deriving DecidableEq, Repr

inductive Value
  | string (text : Text)
  | integer (number : Int)
  | float (number : FloatLiteral)
  | boolean (value : Bool)
  | datetime (text : Text)
  /-- Only an array of tables that headers make can be added to. -/
  | array (ofTables : Bool) (items : List Value)
  | table (kind : TableKind) (entries : List (Text × Value))

abbrev Entries := List (Text × Value)

/-- The magnitude from which on a number is rounded to infinity: half a unit above the greatest
double. -/
def floatBound : Nat := Nat.pow 2 1024 - Nat.pow 2 970

def FloatLiteral.isBounded : FloatLiteral → Bool
  | .finite m e =>
    let digits : Int := (Nat.toDigits 10 m).length + e
    m = 0 || digits < 300 || digits < 320 &&
      (if 0 ≤ e then m * Nat.pow 10 e.toNat < floatBound
        else m < floatBound * Nat.pow 10 (-e).toNat)
  | .infinite | .notANumber => true

def isBoundedInteger (n : Int) : Bool := -(Nat.pow 2 127 : Int) ≤ n && n < (Nat.pow 2 128 : Int)

mutual

def Value.isBounded : Value → Bool
  | .integer n => isBoundedInteger n
  | .float f => f.isBounded
  | .array _ items => allBounded items
  | .table _ entries => entriesBounded entries
  | .string _ | .boolean _ | .datetime _ => true

def allBounded : List Value → Bool
  | [] => true
  | v :: vs => v.isBounded && allBounded vs

def entriesBounded : List (Text × Value) → Bool
  | [] => true
  | (_, v) :: es => v.isBounded && entriesBounded es

end

namespace Entries

def get? (es : Entries) (key : Text) : Option Value :=
  es.lookup key

def set (es : Entries) (key : Text) (v : Value) : Entries :=
  if (es.get? key).isSome then es.map fun e => if e.1 = key then (key, v) else e
  else es ++ [(key, v)]

end Entries

end ModalEditor.Toml
