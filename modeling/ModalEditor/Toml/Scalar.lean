import ModalEditor.Text.Digits
import ModalEditor.Toml.String
import ModalEditor.Toml.Value

namespace ModalEditor.Toml

open Text

def digits? (isDigit : Char → Bool) : Text → Option Text
  | [] => none
  | [c] => if isDigit c then some [c] else none
  | c :: '_' :: cs => if isDigit c then (c :: ·) <$> digits? isDigit cs else none
  | c :: cs => if isDigit c then (c :: ·) <$> digits? isDigit cs else none

def wholeDigits? (t : Text) : Option Text :=
  match t with
  | '0' :: _ :: _ => none
  | _ => digits? isDigit t

def sign : Text → Bool × Text
  | '-' :: cs => (true, cs)
  | '+' :: cs => (false, cs)
  | cs => (false, cs)

def signed (negative : Bool) (n : Nat) : Int := if negative then -n else n

def radix? (base : Nat) (isDigit : Char → Bool) (t : Text) : Option Int := do
  let ds ← digits? isDigit t
  return (← ds.foldlM (fun n c => (base * n + ·) <$> hexValue? c) 0 : Nat)

def integer? : Text → Option Int
  | '0' :: 'x' :: cs => radix? 16 (fun c => (hexValue? c).isSome) cs
  | '0' :: 'o' :: cs => radix? 8 (fun c => '0' ≤ c && c ≤ '7') cs
  | '0' :: 'b' :: cs => radix? 2 (fun c => c = '0' || c = '1') cs
  | cs =>
    let (negative, cs) := sign cs
    (wholeDigits? cs).map fun ds => signed negative (decimal ds)

def exponent? : Option Text → Option Int
  | none => some 0
  | some t =>
    let (negative, ds) := sign t
    (digits? isDigit ds).map fun ds => signed negative (decimal ds)

def fraction? : Option Text → Option Text
  | none => some []
  | some t => digits? isDigit t

def splitAtFirst (p : Char → Bool) (t : Text) : Text × Option Text :=
  match t.dropWhile (!p ·) with
  | [] => (t, none)
  | _ :: rest => (t.takeWhile (!p ·), some rest)

def float? (t : Text) : Option FloatLiteral :=
  let (_, t) := sign t
  if t = ['i', 'n', 'f'] then some .infinite
  else if t = ['n', 'a', 'n'] then some .notANumber
  else do
    let (mantissa, exponent) := splitAtFirst (fun c => c = 'e' || c = 'E') t
    let (whole, fraction) := splitAtFirst (· = '.') mantissa
    if exponent.isNone && fraction.isNone then none
    let whole ← wholeDigits? whole
    let fraction ← fraction? fraction
    let exponent ← exponent? exponent
    return .finite (decimal (whole ++ fraction)) (exponent - fraction.length)

def fixedDigits? (count : Nat) (t : Text) : Option (Nat × Text) :=
  let ds := t.take count
  if ds.length = count ∧ ds.all isDigit then some (decimal ds, t.drop count) else none

def skip? (c : Char) : Text → Option Text
  | [] => none
  | k :: cs => if k = c then some cs else none

def isLeapYear (year : Nat) : Bool :=
  year % 4 = 0 && (year % 100 ≠ 0 || year % 400 = 0)

def daysInMonth (year month : Nat) : Nat :=
  if month = 2 then if isLeapYear year then 29 else 28
  else if month ∈ [4, 6, 9, 11] then 30
  else 31

def date? (t : Text) : Option Text := do
  let (year, t) ← fixedDigits? 4 t
  let (month, t) ← fixedDigits? 2 (← skip? '-' t)
  let (day, t) ← fixedDigits? 2 (← skip? '-' t)
  if 1 ≤ month ∧ month ≤ 12 ∧ 1 ≤ day ∧ day ≤ daysInMonth year month then some t else none

def clock? (t : Text) : Option Text := do
  let (hour, t) ← fixedDigits? 2 t
  let (minute, t) ← fixedDigits? 2 (← skip? ':' t)
  if hour ≤ 23 ∧ minute ≤ 59 then some t else none

/-- Skips a time: hours, minutes, and perhaps seconds with a fraction. A minute may have a leap
second. -/
def time? (t : Text) : Option Text := do
  let t ← clock? t
  match t with
  | ':' :: t =>
    let (second, t) ← fixedDigits? 2 t
    if 60 < second then none
    match t with
    | '.' :: t => if (digitRun t).isEmpty then none else some (afterDigits t)
    | t => some t
  | t => some t

def offset? : Text → Option Text
  | 'Z' :: cs | 'z' :: cs => some cs
  | '+' :: cs | '-' :: cs => clock? cs
  | cs => some cs

def isDatetime (t : Text) : Bool :=
  match date? t with
  | some [] => true
  | some ('T' :: cs) | some ('t' :: cs) | some (' ' :: cs) => (time? cs >>= offset?) == some []
  | some _ => false
  | none => time? t == some []

def isScalarChar (c : Char) : Bool :=
  c.isAlphanum || c ∈ ['+', '-', '_', '.', ':']

/-- The text of an unquoted value. A date and the time behind it may have one space between. -/
def scalarText (t : Text) : Text × Text :=
  let first := t.takeWhile isScalarChar
  let rest := t.dropWhile isScalarChar
  match rest with
  | ' ' :: c :: cs =>
    if date? first = some [] ∧ isDigit c then
      (first ++ ' ' :: (c :: cs).takeWhile isScalarChar, (c :: cs).dropWhile isScalarChar)
    else (first, rest)
  | _ => (first, rest)

def scalarOf? (t : Text) : Option Value :=
  if t = ['t', 'r', 'u', 'e'] then some (.boolean true)
  else if t = ['f', 'a', 'l', 's', 'e'] then some (.boolean false)
  else match integer? t with
    | some n => some (.integer n)
    | none =>
      match float? t with
      | some f => some (.float f)
      | none => if isDatetime t then some (.datetime t) else none

def scalar? : Reader Value
  | '"' :: cs => (string? ('"' :: cs)).map fun (s, cs) => (.string s, cs)
  | '\x27' :: cs => (string? ('\x27' :: cs)).map fun (s, cs) => (.string s, cs)
  | cs =>
    let (t, rest) := scalarText cs
    (scalarOf? t).map fun v => (v, rest)

end ModalEditor.Toml
