import ModalEditor.Text.Digits
import ModalEditor.Text.Pattern

/-! Key sequences: an optional count, then a token of one character, or of two when the first is a
pending key. A run of zeros is no count: its first zero is a token. Text that starts with a line
key is a command for a whole line and holds no key sequence. -/

namespace ModalEditor

structure KeySequence where
  count : Nat
  token : Text
  rest : Text
  deriving DecidableEq, Repr

namespace KeySequence

def pendingKeys : Text := "cdfFmrtTyzZ@\x27\x60\x22<>".toList

def lineKeys : Text := ":!/?".toList

def maxCount : Nat := 999999

/-- The greatest number of 32 bits; a count over it is not read to its end. -/
def maxWord : Nat := 4294967295

def countOf (digits : Text) : Nat :=
  if digits.isEmpty then 1
  else
    match digits.decimalUpTo? maxWord with
    | some n => min n maxCount
    | none => maxCount

def isPending (k : Char) : Bool := k ∈ pendingKeys

def isSingle (k : Char) : Bool := !isPending k && !('1' ≤ k && k ≤ '9')

def tokenPattern : Pattern :=
  .alt (.seq (.one isPending) (.one fun _ => true)) (.one isSingle)

def pattern : List Pattern :=
  [.many Text.isDigit, tokenPattern, .many fun _ => true]

/-- The sequence that a match gives. A zero is a token here only when the search has split it off a
count that goes on. -/
def ofParts? : List Text → Option KeySequence
  | [digits, token, rest] => if token = ['0'] then none else some ⟨countOf digits, token, rest⟩
  | _ => none

def parse? (t : Text) : Option KeySequence :=
  match t with
  | [] => none
  | k :: cs =>
    if k ∈ lineKeys then none
    else if !t.digitRun.isEmpty && t.digitRun.all (· == '0') then some ⟨1, ['0'], cs⟩
    else (Pattern.captures? pattern t).bind ofParts?

theorem ne_nil_of_matches_tokenPattern {s : Text} (h : Pattern.Matches tokenPattern s) :
    s ≠ [] := by
  rcases h with _ | _ | _ | h | h
  · rcases h with _ | _ | ⟨h, -⟩
    cases h
    simp
  · cases h
    simp

theorem captures?_pattern_eq_some {t : Text} {parts : List Text}
    (h : Pattern.captures? pattern t = some parts) :
    ∃ digits token rest, parts = [digits, token, rest] ∧ t = digits ++ token ++ rest ∧
      (∀ c ∈ digits, Text.isDigit c) ∧ Pattern.Matches tokenPattern token := by
  obtain ⟨rfl, hall⟩ := Pattern.captures?_eq_some h
  match parts, hall with
  | [digits, token, rest], ⟨hd, ht, _⟩ =>
    cases hd with
    | many hd => exact ⟨digits, token, rest, rfl, by simp, hd, ht⟩

theorem length_rest_lt {t : Text} {s : KeySequence} (h : parse? t = some s) :
    s.rest.length < t.length := by
  cases t with
  | nil => simp [parse?] at h
  | cons k cs =>
    simp only [parse?] at h
    split at h
    · simp at h
    split at h
    · obtain rfl := Option.some.inj h
      simp
    obtain ⟨parts, hparts, h⟩ := Option.bind_eq_some_iff.1 h
    obtain ⟨digits, token, rest, rfl, ht, -, htoken⟩ := captures?_pattern_eq_some hparts
    simp only [ofParts?] at h
    split at h
    · simp at h
    obtain rfl := Option.some.inj h
    have := List.length_pos_iff.2 (ne_nil_of_matches_tokenPattern htoken)
    simp only [ht, List.length_append]
    omega

end KeySequence

end ModalEditor
