import ModalEditor.Key.Sequence
import ModalEditor.Proofs.Text.Digits

namespace ModalEditor.KeySequence

structure IsCount (digits : Text) : Prop where
  digit : ∀ c ∈ digits, Text.isDigit c
  pos : digits ≠ [] → 0 < digits.decimal

inductive Reads : Text → KeySequence → Prop
  | zero {zeros rest : Text} : zeros ≠ [] → (∀ c ∈ zeros, c = '0') →
      (∀ c ∈ rest.head?, ¬ Text.isDigit c) →
      Reads (zeros ++ rest) ⟨1, ['0'], zeros.tail ++ rest⟩
  | single {digits rest : Text} {k : Char} : IsCount digits → ¬ Text.isDigit k →
      k ∉ pendingKeys → (digits = [] → k ∉ lineKeys) →
      Reads (digits ++ k :: rest)
        ⟨if digits = [] then 1 else min digits.decimal maxCount, [k], rest⟩
  | pair {digits rest : Text} {k c : Char} : IsCount digits → k ∈ pendingKeys →
      Reads (digits ++ k :: c :: rest)
        ⟨if digits = [] then 1 else min digits.decimal maxCount, [k, c], rest⟩

inductive Waits : Text → Prop
  | count {digits : Text} : IsCount digits → digits ≠ [] → Waits digits
  | pending {digits : Text} {k : Char} : IsCount digits → k ∈ pendingKeys → Waits (digits ++ [k])

theorem reads_or_waits_append {digits rest : Text} (hd : IsCount digits)
    (hr : ∀ c ∈ rest.head?, ¬ Text.isDigit c) :
    (∃ s, Reads (digits ++ rest) s) ∨ digits ++ rest = [] ∨
      (∃ k ∈ lineKeys, (digits ++ rest).head? = some k) ∨ Waits (digits ++ rest) := by
  match rest with
  | [] =>
    rw [List.append_nil]
    by_cases hne : digits = []
    · exact .inr (.inl hne)
    · exact .inr (.inr (.inr (.count hd hne)))
  | k :: cs =>
    by_cases hline : digits = [] ∧ k ∈ lineKeys
    · exact .inr (.inr (.inl ⟨k, hline.2, by simp [hline.1]⟩))
    by_cases hk : k ∈ pendingKeys
    · match cs with
      | [] => exact .inr (.inr (.inr (.pending hd hk)))
      | c :: cs => exact .inl ⟨_, .pair hd hk⟩
    · exact .inl ⟨_, .single hd (hr k rfl) hk fun hne hl => hline ⟨hne, hl⟩⟩

theorem reads_or_waits (t : Text) :
    (∃ s, Reads t s) ∨ t = [] ∨ (∃ k ∈ lineKeys, t.head? = some k) ∨ Waits t := by
  have hdigit : ∀ c ∈ t.digitRun, Text.isDigit c := fun c => Text.isDigit_of_mem_digitRun
  have hrest : ∀ c ∈ t.afterDigits.head?, ¬ Text.isDigit c :=
    fun c => Text.not_isDigit_of_mem_head?_afterDigits
  rw [← t.digitRun_append_afterDigits]
  by_cases hzero : t.digitRun ≠ [] ∧ ∀ c ∈ t.digitRun, c = '0'
  · exact .inl ⟨_, .zero hzero.1 hzero.2 hrest⟩
  · refine reads_or_waits_append ⟨hdigit, fun hne => ?_⟩ hrest
    exact Nat.pos_of_ne_zero fun hd => hzero ⟨hne, (Text.decimal_eq_zero_iff hdigit).1 hd⟩

theorem countOf_eq (digits : Text) :
    countOf digits = if digits = [] then 1 else min digits.decimal maxCount := by
  simp only [countOf, List.isEmpty_iff, Text.decimalUpTo?_eq]
  split
  · rfl
  · by_cases h : digits.decimal ≤ maxWord
    · simp [h]
    · have : maxCount ≤ digits.decimal := by simp only [maxWord, maxCount] at *; omega
      simp [h, this]

theorem not_isDigit_of_mem_pendingKeys {k : Char} (h : k ∈ pendingKeys) : ¬ Text.isDigit k := by
  have hall : pendingKeys.all fun k => !Text.isDigit k := by decide
  simpa using List.all_eq_true.1 hall k h

theorem not_isDigit_of_mem_lineKeys {k : Char} (h : k ∈ lineKeys) : ¬ Text.isDigit k := by
  have hall : lineKeys.all fun k => !Text.isDigit k := by decide
  simpa using List.all_eq_true.1 hall k h

theorem not_mem_lineKeys_of_mem_pendingKeys {k : Char} (h : k ∈ pendingKeys) :
    k ∉ lineKeys := by
  have hall : pendingKeys.all fun k => !lineKeys.contains k := by decide
  simpa using List.all_eq_true.1 hall k h

theorem isSingle_of_not_isDigit {k : Char} (hd : ¬ Text.isDigit k) (hp : k ∉ pendingKeys) :
    isSingle k := by
  simp only [isSingle, isPending, hp, decide_false, Bool.not_false, Bool.true_and,
    Bool.not_eq_true', Bool.and_eq_false_iff, decide_eq_false_iff_not]
  by_contra h
  push Not at h
  exact hd (by simp [Text.isDigit, h.2, Char.le_trans (by decide : '0' ≤ '1') h.1])

theorem eq_zero_of_isSingle {k : Char} (hd : Text.isDigit k) (hs : isSingle k) : k = '0' := by
  apply Text.eq_zero_of_isDigit hd
  simp only [isSingle, Bool.and_eq_true, Bool.not_eq_true', Bool.and_eq_false_iff,
    decide_eq_false_iff_not, Text.isDigit, decide_eq_true_eq, Char.le_def,
    UInt32.le_iff_toNat_le] at hs hd
  change k.val.toNat - 48 = 0
  change 48 ≤ k.val.toNat ∧ k.val.toNat ≤ 57 at hd
  have h1 : ('1' : Char).val.toNat = 49 := rfl
  have h9 : ('9' : Char).val.toNat = 57 := rfl
  omega

theorem matches_tokenPattern_iff {s : Text} :
    Pattern.Matches tokenPattern s ↔
      (∃ k c, k ∈ pendingKeys ∧ s = [k, c]) ∨ ∃ k, isSingle k ∧ s = [k] := by
  constructor
  · rintro (_ | _ | _ | h | h)
    · cases h with
      | seq h₁ h₂ =>
        cases h₁ with
        | one hk =>
          cases h₂
          exact .inl ⟨_, _, of_decide_eq_true hk, rfl⟩
    · cases h with
      | one hk => exact .inr ⟨_, hk, rfl⟩
  · rintro (⟨k, c, hk, rfl⟩ | ⟨k, hk, rfl⟩)
    · exact .altLeft (.seq (.one (decide_eq_true hk)) (.one rfl))
    · exact .altRight (.one hk)

theorem captures?_rest (rest : Text) :
    Pattern.captures? [.many fun _ => true] rest = some [rest] := by
  have h : Pattern.matchRun (fun _ => true)
      (fun s r => (Pattern.captures? [] r).map (s :: ·)) (rest ++ []) = some [rest] :=
    Pattern.matchRun_append (by simp) (by simp) rfl
  rwa [List.append_nil] at h

theorem match?_tokenPattern_single {α : Type} {next : Text → Text → Option α} {k : Char}
    {cs : Text} (hs : isSingle k) (hp : k ∉ pendingKeys) :
    tokenPattern.match? next (k :: cs) = next [k] cs := by
  have hp : isPending k = false := decide_eq_false hp
  simp [tokenPattern, Pattern.match?, hs, hp]

theorem match?_tokenPattern_pair {α : Type} {next : Text → Text → Option α} {k c : Char}
    {cs : Text} {a : α} (hp : k ∈ pendingKeys) (h : next [k, c] cs = some a) :
    tokenPattern.match? next (k :: c :: cs) = some a := by
  have hp : isPending k = true := decide_eq_true hp
  simp [tokenPattern, Pattern.match?, hp, h]

theorem captures?_single {digits rest : Text} {k : Char} (hd : ∀ c ∈ digits, Text.isDigit c)
    (hk : ¬ Text.isDigit k) (hp : k ∉ pendingKeys) :
    Pattern.captures? pattern (digits ++ k :: rest) = some [digits, [k], rest] := by
  have htail : Pattern.captures? [tokenPattern, .many fun _ => true] (k :: rest) =
      some [[k], rest] := by
    rw [Pattern.captures?, match?_tokenPattern_single (isSingle_of_not_isDigit hk hp) hp,
      captures?_rest]
    rfl
  exact Pattern.matchRun_append hd (by simpa using hk) (congrArg (Option.map (digits :: ·)) htail)

theorem captures?_pair {digits rest : Text} {k c : Char} (hd : ∀ c ∈ digits, Text.isDigit c)
    (hp : k ∈ pendingKeys) :
    Pattern.captures? pattern (digits ++ k :: c :: rest) = some [digits, [k, c], rest] := by
  have htail : Pattern.captures? [tokenPattern, .many fun _ => true] (k :: c :: rest) =
      some [[k, c], rest] :=
    match?_tokenPattern_pair hp (congrArg (Option.map ([k, c] :: ·)) (captures?_rest rest))
  exact Pattern.matchRun_append hd (by simpa using not_isDigit_of_mem_pendingKeys hp)
    (congrArg (Option.map (digits :: ·)) htail)

theorem Waits.isDigit_or_last {t front back : Text} {k : Char} (hw : Waits t)
    (ht : t = front ++ k :: back) : Text.isDigit k ∨ back = [] ∧ k ∈ pendingKeys := by
  cases hw with
  | count hd _ => exact .inl (hd.digit k (by simp [ht]))
  | @pending digits p hd hp =>
    rcases List.eq_nil_or_concat back with rfl | ⟨back, x, rfl⟩
    · obtain ⟨-, rfl⟩ := List.concat_inj.1 (by simpa using ht)
      exact .inr ⟨rfl, hp⟩
    · have hdigits : digits = front ++ k :: back := by
        have : digits ++ [p] = (front ++ k :: back) ++ [x] := by simpa using ht
        exact (List.append_inj' this rfl).1
      exact .inl (hd.digit k (by simp [hdigits]))

theorem Waits.token_eq_zero {t digits token rest : Text} (hw : Waits t)
    (h : Pattern.captures? pattern t = some [digits, token, rest]) : token = ['0'] := by
  obtain ⟨_, _, _, hparts, ht, -, htoken⟩ := captures?_pattern_eq_some h
  simp only [List.cons.injEq, and_true] at hparts
  obtain ⟨rfl, rfl, rfl⟩ := hparts
  rcases matches_tokenPattern_iff.1 htoken with ⟨k, c, hk, rfl⟩ | ⟨k, hk, rfl⟩
  · have ht : t = digits ++ k :: c :: rest := by simpa using ht
    rcases hw.isDigit_or_last ht with hd | ⟨hb, -⟩
    · exact absurd hd (not_isDigit_of_mem_pendingKeys hk)
    · cases hb
  · have ht : t = digits ++ k :: rest := by simpa using ht
    rcases hw.isDigit_or_last ht with hd | ⟨-, hp⟩
    · rw [eq_zero_of_isSingle hd hk]
    · simp [isSingle, isPending, hp] at hk

theorem parse?_zeros {zeros rest : Text} (hne : zeros ≠ []) (hz : ∀ c ∈ zeros, c = '0')
    (hr : ∀ c ∈ rest.head?, ¬ Text.isDigit c) :
    parse? (zeros ++ rest) = some ⟨1, ['0'], zeros.tail ++ rest⟩ := by
  have hdigit : ∀ c ∈ zeros, Text.isDigit c := fun c hc => by rw [hz c hc]; decide
  have hrun : (zeros ++ rest).digitRun = zeros := Text.digitRun_append hdigit hr
  cases zeros with
  | nil => exact absurd rfl hne
  | cons z zs =>
    have hline : z ∉ lineKeys := fun h => not_isDigit_of_mem_lineKeys h (hdigit z (by simp))
    have hall : (z :: zs).all (· == '0') := by simpa using hz
    rw [List.cons_append] at hrun ⊢
    simp [parse?, hline, hrun, hall]

theorem parse?_of_isCount {digits rest : Text} (hd : IsCount digits)
    (hr : ∀ c ∈ rest.head?, ¬ Text.isDigit c) (hne : digits ++ rest ≠ [])
    (hline : digits = [] → ∀ c ∈ rest.head?, c ∉ lineKeys) :
    parse? (digits ++ rest) = (Pattern.captures? pattern (digits ++ rest)).bind ofParts? := by
  have hrun : (digits ++ rest).digitRun = digits := Text.digitRun_append hd.digit hr
  have hzero : ¬ (!digits.isEmpty && digits.all (· == '0')) = true := by
    simp only [Bool.and_eq_true, Bool.not_eq_true', List.isEmpty_eq_false_iff, List.all_eq_true,
      beq_iff_eq, not_and]
    intro hne hz
    have := hd.pos hne
    rw [(Text.decimal_eq_zero_iff hd.digit).2 hz] at this
    exact Nat.lt_irrefl 0 this
  have hhead : ∀ c ∈ (digits ++ rest).head?, c ∉ lineKeys := by
    cases digits with
    | nil => exact hline rfl
    | cons d ds =>
      rintro c ⟨⟩ hc
      exact not_isDigit_of_mem_lineKeys hc (hd.digit d (by simp))
  generalize digits ++ rest = t at *
  cases t with
  | nil => exact absurd rfl hne
  | cons k cs =>
    have hk : k ∉ lineKeys := hhead k rfl
    rw [parse?, if_neg hk, hrun, if_neg hzero]

theorem parse?_single {digits rest : Text} {k : Char} (hd : IsCount digits)
    (hk : ¬ Text.isDigit k) (hp : k ∉ pendingKeys) (hl : digits = [] → k ∉ lineKeys) :
    parse? (digits ++ k :: rest) =
      some ⟨if digits = [] then 1 else min digits.decimal maxCount, [k], rest⟩ := by
  have hzero : k ≠ '0' := fun h => hk (by rw [h]; decide)
  rw [parse?_of_isCount hd (by simpa using hk) (by simp) (by simpa using hl),
    captures?_single hd.digit hk hp]
  simp [ofParts?, hzero, countOf_eq]

theorem parse?_pair {digits rest : Text} {k c : Char} (hd : IsCount digits)
    (hp : k ∈ pendingKeys) :
    parse? (digits ++ k :: c :: rest) =
      some ⟨if digits = [] then 1 else min digits.decimal maxCount, [k, c], rest⟩ := by
  rw [parse?_of_isCount hd (by simpa using not_isDigit_of_mem_pendingKeys hp) (by simp)
    (by simpa using fun _ => not_mem_lineKeys_of_mem_pendingKeys hp), captures?_pair hd.digit hp]
  simp [ofParts?, countOf_eq]

theorem Reads.parse?_eq {t : Text} {s : KeySequence} (h : Reads t s) : parse? t = some s := by
  cases h with
  | zero hne hz hr => exact parse?_zeros hne hz hr
  | single hd hk hp hl => exact parse?_single hd hk hp hl
  | pair hd hp => exact parse?_pair hd hp

theorem Waits.bind_ofParts? {t : Text} (hw : Waits t) :
    (Pattern.captures? pattern t).bind ofParts? = none := by
  rw [Option.bind_eq_none_iff]
  intro parts hparts
  obtain ⟨digits, token, rest, rfl, -⟩ := captures?_pattern_eq_some hparts
  -- the search may still split a zero off the count, which is then no token
  simp [ofParts?, hw.token_eq_zero hparts]

theorem Waits.parse?_eq {t : Text} (hw : Waits t) : parse? t = none := by
  cases hw with
  | count hd hne =>
    have h := @parse?_of_isCount t [] hd (by simp) (by simpa using hne) (by simp)
    rw [List.append_nil] at h
    rw [h, (Waits.count hd hne).bind_ofParts?]
  | pending hd hp =>
    rw [parse?_of_isCount hd (by simpa using not_isDigit_of_mem_pendingKeys hp) (by simp)
      (by simpa using fun _ => not_mem_lineKeys_of_mem_pendingKeys hp),
      (Waits.pending hd hp).bind_ofParts?]

theorem parse?_eq_none {t : Text} (h : t = [] ∨ (∃ k ∈ lineKeys, t.head? = some k) ∨ Waits t) :
    parse? t = none := by
  rcases h with rfl | ⟨k, hk, ht⟩ | hw
  · rfl
  · obtain ⟨cs, rfl⟩ := List.head?_eq_some_iff.1 ht
    simp [parse?, hk]
  · exact hw.parse?_eq

theorem reads_of_parse? {t : Text} {s : KeySequence} (h : parse? t = some s) : Reads t s := by
  rcases reads_or_waits t with ⟨s', hs⟩ | hrest
  · rw [hs.parse?_eq, Option.some.injEq] at h
    exact h ▸ hs
  · rw [parse?_eq_none hrest] at h
    cases h

theorem exists_digits_of_parse? {t : Text} {s : KeySequence} (h : parse? t = some s) :
    ∃ digits, (∀ c ∈ digits, Text.isDigit c) ∧ t = digits ++ s.token ++ s.rest ∧ s.token ≠ [] := by
  cases reads_of_parse? h with
  | @zero zeros rest hne hz _ =>
    refine ⟨[], by simp, ?_, by simp⟩
    cases zeros with
    | nil => exact absurd rfl hne
    | cons z zs => simp [hz z (by simp)]
  | single hd _ _ _ => exact ⟨_, hd.digit, by simp, by simp⟩
  | pair hd _ => exact ⟨_, hd.digit, by simp, by simp⟩

/-- The search reads the grammar: a sequence is found exactly when it is at the front of the text,
and none exactly when the text is empty, for a whole line, or has a count or a pending key that
waits for more. -/
theorem parse?_iff_grammar (t : Text) :
    (∀ s, parse? t = some s ↔ Reads t s) ∧
      (parse? t = none ↔ t = [] ∨ (∃ k ∈ lineKeys, t.head? = some k) ∨ Waits t) := by
  refine ⟨fun s => ⟨reads_of_parse?, Reads.parse?_eq⟩, fun h => ?_, parse?_eq_none⟩
  rcases reads_or_waits t with ⟨s, hs⟩ | hrest
  · rw [hs.parse?_eq] at h
    cases h
  · exact hrest

end ModalEditor.KeySequence
