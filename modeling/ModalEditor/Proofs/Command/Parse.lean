import Mathlib.Data.List.TakeWhile
import ModalEditor.Command
import ModalEditor.Proofs.Text.Digits

namespace ModalEditor

theorem Text.trimFront_append {indent : Text} (h : ∀ c ∈ indent, isBlank c) (t : Text) :
    trimFront (indent ++ t) = t.trimFront :=
  List.dropWhile_append_of_pos h

theorem not_isBlank_of_isDigit {c : Char} (h : Text.isDigit c) : ¬ isBlank c := by
  simp only [Text.isDigit, Bool.and_eq_true, decide_eq_true_eq, Char.le_def,
    UInt32.le_iff_toNat_le] at h
  change 48 ≤ c.toNat ∧ c.toNat ≤ 57 at h
  simp only [isBlank, Bool.or_eq_true, Bool.and_eq_true, beq_iff_eq, decide_eq_true_eq]
  omega

namespace Command

structure Parts where
  indent : Text
  name : Text
  gap : Text
  arguments : Text
  deriving DecidableEq, Repr

/-- The parts put together are the line. White space goes on as far as it can, and some follows the
name unless the line ends with it. -/
structure Splits (line : Text) (p : Parts) : Prop where
  line_eq : line = p.indent ++ (p.name ++ (p.gap ++ p.arguments))
  indent_blank : ∀ c ∈ p.indent, isBlank c
  indent_stops : ∀ c ∈ (p.name ++ (p.gap ++ p.arguments)).head?, ¬ isBlank c
  name_dark : ∀ c ∈ p.name, ¬ isBlank c
  gap_blank : ∀ c ∈ p.gap, isBlank c
  gap_stops : ∀ c ∈ p.arguments.head?, ¬ isBlank c
  name_ends : p.gap ≠ [] ∨ p.arguments = []

def split (line : Text) : Parts :=
  let behind := line.trimFront.dropWhile (!isBlank ·)
  { indent := line.takeWhile isBlank
    name := line.trimFront.takeWhile (!isBlank ·)
    gap := behind.takeWhile isBlank
    arguments := Text.trimFront behind }

theorem Splits.isBlank_of_mem_head? {line : Text} {p : Parts} (h : Splits line p) :
    ∀ c ∈ (p.gap ++ p.arguments).head?, isBlank c := by
  intro c hc
  cases hgap : p.gap with
  | nil => simp [hgap, h.name_ends.resolve_left (not_not_intro hgap)] at hc
  | cons d ds =>
    rw [hgap] at hc
    obtain rfl := Option.some.inj hc
    exact h.gap_blank d (by simp [hgap])

theorem splits_split (line : Text) : Splits line (split line) where
  line_eq := by
    simp only [split, Text.trimFront, List.takeWhile_append_dropWhile]
  indent_blank := fun c => List.mem_takeWhile_imp
  indent_stops := by
    simp only [split, Text.trimFront, List.takeWhile_append_dropWhile]
    exact fun c => Text.not_of_mem_head?_dropWhile
  name_dark := fun c hc => by simpa using List.mem_takeWhile_imp hc
  gap_blank := fun c => List.mem_takeWhile_imp
  gap_stops := fun c => Text.not_of_mem_head?_dropWhile
  name_ends := by
    cases hbehind : line.trimFront.dropWhile (!isBlank ·) with
    | nil => exact .inr (by rw [split, hbehind]; rfl)
    | cons c cs =>
      have hc : c ∈ (line.trimFront.dropWhile (!isBlank ·)).head? := by simp [hbehind]
      have hblank : isBlank c := by simpa using Text.not_of_mem_head?_dropWhile hc
      simp [split, hbehind, hblank]

theorem Splits.eq_split {line : Text} {p : Parts} (h : Splits line p) : p = split line := by
  have hdark : ∀ c ∈ p.name, !isBlank c := fun c hc => by simpa using h.name_dark c hc
  have hends : ∀ c ∈ (p.gap ++ p.arguments).head?, ¬ (!isBlank c) := fun c hc => by
    simpa using h.isBlank_of_mem_head? c hc
  obtain ⟨hindent, hbody⟩ := Text.takeWhile_dropWhile_append h.indent_blank h.indent_stops
  obtain ⟨hname, hbehind⟩ := Text.takeWhile_dropWhile_append hdark hends
  obtain ⟨hgap, harguments⟩ := Text.takeWhile_dropWhile_append h.gap_blank h.gap_stops
  simp only [split, Text.trimFront, h.line_eq, hindent, hbody, hname, hbehind, hgap, harguments]

theorem decimalUpTo?_maxLineNumber (digits : Text) :
    (digits.decimalUpTo? maxLineNumber).getD maxLineNumber = min digits.decimal maxLineNumber := by
  rw [Text.decimalUpTo?_eq]
  split_ifs with h
  · exact (Nat.min_eq_left h).symm
  · exact (Nat.min_eq_right (Nat.le_of_not_le h)).symm

def ofName (name arguments : Text) : Command :=
  if name.isEmpty || name.head? == some '_' then ignored
  else if name.all Text.isDigit then goToLine (min name.decimal maxLineNumber)
  else named name arguments

section

variable {name arguments : Text}

theorem ofName_eq_ignored_iff :
    ofName name arguments = .ignored ↔ name = [] ∨ name.head? = some '_' := by
  rw [ofName]
  split_ifs with hignored hdigits <;> simpa using hignored

theorem ofName_of_digits (hne : name ≠ []) (h : ∀ c ∈ name, Text.isDigit c) :
    ofName name arguments = .goToLine (min name.decimal maxLineNumber) := by
  have hhead : name.head? ≠ some '_' := fun hc =>
    absurd (h '_' (List.mem_of_mem_head? hc)) (by decide)
  have hignored : ¬ (name.isEmpty || name.head? == some '_') := by simp [hne, hhead]
  rw [ofName, if_neg hignored, if_pos (List.all_eq_true.2 h)]

theorem ofName_eq_goToLine_iff {number : Nat} :
    ofName name arguments = .goToLine number ↔
      name ≠ [] ∧ (∀ c ∈ name, Text.isDigit c) ∧ number = min name.decimal maxLineNumber := by
  constructor
  · intro h
    rw [ofName] at h
    split_ifs at h with hignored hdigits
    simp only [Bool.or_eq_true, List.isEmpty_iff, not_or] at hignored
    exact ⟨hignored.1, List.all_eq_true.1 hdigits, (Command.goToLine.inj h).symm⟩
  · rintro ⟨hne, hdigits, rfl⟩
    exact ofName_of_digits hne hdigits

theorem ofName_eq_named_iff {name' arguments' : Text} :
    ofName name arguments = .named name' arguments' ↔
      name ≠ [] ∧ name.head? ≠ some '_' ∧ (∃ c ∈ name, ¬ Text.isDigit c) ∧
        name' = name ∧ arguments' = arguments := by
  constructor
  · intro h
    rw [ofName] at h
    split_ifs at h with hignored hdigits
    simp only [Bool.or_eq_true, List.isEmpty_iff, beq_iff_eq, not_or] at hignored
    obtain ⟨c, hc, hdigit⟩ : ∃ c ∈ name, ¬ Text.isDigit c := by simpa using hdigits
    obtain ⟨rfl, rfl⟩ := Command.named.inj h
    exact ⟨hignored.1, hignored.2, ⟨c, hc, hdigit⟩, rfl, rfl⟩
  · rintro ⟨hne, hhead, ⟨c, hc, hdigit⟩, rfl, rfl⟩
    have hignored : ¬ (name'.isEmpty || name'.head? == some '_') := by simp [hne, hhead]
    have hdigits : ¬ name'.all Text.isDigit := fun h => hdigit (List.all_eq_true.1 h c hc)
    rw [ofName, if_neg hignored, if_neg hdigits]

end

theorem parse_eq_ofName (line : Text) :
    parse line = ofName (split line).name (split line).arguments := by
  rw [ofName, ← decimalUpTo?_maxLineNumber]
  rfl

theorem Splits.parse_eq {line : Text} {p : Parts} (h : Splits line p) :
    parse line = ofName p.name p.arguments := by
  rw [parse_eq_ofName, ← h.eq_split]

theorem parse_append {indent name rest : Text} (hindent : ∀ c ∈ indent, isBlank c)
    (hname : ∀ c ∈ name, ¬ isBlank c) (hne : name ≠ []) (hrest : ∀ c ∈ rest.head?, isBlank c) :
    parse (indent ++ name ++ rest) = ofName name rest.trimFront := by
  have hrun : rest.takeWhile isBlank ++ rest.trimFront = rest := List.takeWhile_append_dropWhile
  have hsplits : Splits (indent ++ name ++ rest)
      ⟨indent, name, rest.takeWhile isBlank, rest.trimFront⟩ := by
    refine ⟨?_, hindent, ?_, hname, fun c => List.mem_takeWhile_imp,
      fun c => Text.not_of_mem_head?_dropWhile, ?_⟩
    · rw [hrun, List.append_assoc]
    · obtain ⟨d, ds, rfl⟩ := List.exists_cons_of_ne_nil hne
      rintro c ⟨⟩
      exact hname d List.mem_cons_self
    · cases rest with
      | nil => exact .inr rfl
      | cons c cs =>
        have hc : isBlank c := hrest c rfl
        simp [hc]
  exact hsplits.parse_eq

/-- Each line has its parts in one way. It means nothing, a line number or a named command as the
name of these says, and white space in front of it makes no difference. -/
theorem parse_splits (line : Text) :
    ∃ p, Splits line p ∧ (∀ q, Splits line q → q = p) ∧
      (parse line = .ignored ↔ p.name = [] ∨ p.name.head? = some '_') ∧
      (∀ number, parse line = .goToLine number ↔
        p.name ≠ [] ∧ (∀ c ∈ p.name, Text.isDigit c) ∧
          number = min p.name.decimal maxLineNumber) ∧
      (∀ name arguments, parse line = .named name arguments ↔
        p.name ≠ [] ∧ p.name.head? ≠ some '_' ∧ (∃ c ∈ p.name, ¬ Text.isDigit c) ∧
          name = p.name ∧ arguments = p.arguments) ∧
      ∀ blanks : Text, (∀ c ∈ blanks, isBlank c) → parse (blanks ++ line) = parse line := by
  refine ⟨split line, splits_split line, fun q => Splits.eq_split, ?_⟩
  rw [parse_eq_ofName line]
  refine ⟨ofName_eq_ignored_iff, fun _ => ofName_eq_goToLine_iff, fun _ _ => ofName_eq_named_iff,
    fun blanks h => ?_⟩
  rw [← parse_eq_ofName, parse, parse, Text.trimFront_append h]

example : parse "\u2003 18446744073709551616 x ".toList = .goToLine (Nat.pow 2 64 - 1) := by decide

end Command

end ModalEditor
