import ModalEditor.Proofs.Key.Grammar

namespace ModalEditor.KeySequence

def PaddedCount (t : Text) : Prop :=
  ∃ zeros d rest, t = zeros ++ d :: rest ∧ zeros ≠ [] ∧ (∀ z ∈ zeros, z = '0') ∧
    Text.isDigit d ∧ d ≠ '0'

theorem PaddedCount.append {t : Text} (h : PaddedCount t) (u : Text) : PaddedCount (t ++ u) := by
  obtain ⟨zeros, d, rest, rfl, hne, hz, hd, hd0⟩ := h
  exact ⟨zeros, d, rest ++ u, by simp, hne, hz, hd, hd0⟩

/-- Zeros that the text behind them makes the front of a count. -/
structure PadsCount (t u : Text) : Prop where
  ne_nil : t ≠ []
  zero : ∀ z ∈ t, z = '0'
  count : ∃ zeros d rest, u = zeros ++ d :: rest ∧ (∀ z ∈ zeros, z = '0') ∧ Text.isDigit d ∧ d ≠ '0'

theorem PadsCount.paddedCount {t u : Text} (h : PadsCount t u) : PaddedCount (t ++ u) := by
  obtain ⟨hne, hz, zeros, d, rest, rfl, hzeros, hd, hd0⟩ := h
  refine ⟨t ++ zeros, d, rest, (List.append_assoc t zeros _).symm, by simp [hne], fun z hzm => ?_,
    hd, hd0⟩
  exact (List.mem_append.1 hzm).elim (hz z) (hzeros z)

theorem PaddedCount.zero_mem {t : Text} (h : PaddedCount t) : '0' ∈ t := by
  obtain ⟨zeros, d, rest, rfl, hne, hz, -⟩ := h
  obtain ⟨z, hzmem⟩ := List.exists_mem_of_ne_nil zeros hne
  exact List.mem_append_left _ (hz z hzmem ▸ hzmem)

theorem Reads.zeros_append {zeros u : Text} (hne : zeros ≠ []) (hz : ∀ c ∈ zeros, c = '0')
    (hp : ¬ PadsCount zeros u) : Reads (zeros ++ u) ⟨1, ['0'], zeros.tail ++ u⟩ := by
  have hmore : ∀ c ∈ u.takeWhile (· == '0'), c = '0' := fun c hc => by
    simpa using List.mem_takeWhile_imp hc
  have hrun : zeros ++ u.takeWhile (· == '0') ≠ [] := by simp [hne]
  have hall : ∀ z ∈ zeros ++ u.takeWhile (· == '0'), z = '0' := fun z hzm =>
    (List.mem_append.1 hzm).elim (hz z) (hmore z)
  have hrest : ∀ c ∈ (u.dropWhile (· == '0')).head?, ¬ Text.isDigit c := by
    intro c hc hd
    obtain ⟨rest, hrest⟩ := List.head?_eq_some_iff.1 hc
    have hc0 : c ≠ '0' := by
      simpa [hrest] using List.head?_dropWhile_not (· == '0') u
    refine hp ⟨hne, hz, u.takeWhile (· == '0'), c, rest, ?_, hmore, hd, hc0⟩
    rw [← hrest, List.takeWhile_append_dropWhile]
  have h := Reads.zero hrun hall hrest
  rwa [List.tail_append_of_ne_nil hne, List.append_assoc, List.append_assoc,
    List.takeWhile_append_dropWhile] at h

theorem Reads.append {t u : Text} {s : KeySequence} (h : Reads t s)
    (hp : ¬ PadsCount t u) : Reads (t ++ u) { s with rest := s.rest ++ u } := by
  cases h with
  | @zero zeros rest hne hz hr =>
    cases rest with
    | nil =>
      rw [List.append_nil] at hp ⊢
      simpa using Reads.zeros_append hne hz hp
    | cons c cs =>
      rw [List.append_assoc, List.append_assoc]
      exact .zero hne hz hr
  | single hd hk hpend hl =>
    rw [List.append_assoc]
    exact .single hd hk hpend hl
  | pair hd hpend =>
    rw [List.append_assoc]
    exact .pair hd hpend

theorem parse?_append {t u : Text} {s : KeySequence} (h : parse? t = some s)
    (hp : ¬ PaddedCount (t ++ u)) :
    parse? (t ++ u) = some { s with rest := s.rest ++ u } :=
  ((reads_of_parse? h).append fun hpads => hp hpads.paddedCount).parse?_eq

theorem IsCount.append_singleton {digits : Text} {k : Char} (hd : IsCount digits)
    (hne : digits ≠ []) (hk : Text.isDigit k) : IsCount (digits ++ [k]) := by
  have hdigit : ∀ c ∈ digits ++ [k], Text.isDigit c := by
    intro c hc
    rcases List.mem_append.1 hc with hc | hc
    · exact hd.digit c hc
    · rwa [List.mem_singleton.1 hc]
  refine ⟨hdigit, fun _ => Nat.pos_of_ne_zero fun hzero => ?_⟩
  have hall := (Text.decimal_eq_zero_iff hdigit).1 hzero
  have hdigits : digits.decimal = 0 :=
    (Text.decimal_eq_zero_iff hd.digit).2 fun c hc => hall c (List.mem_append_left _ hc)
  exact absurd hdigits (Nat.ne_of_gt (hd.pos hne))

theorem Waits.rest_eq_nil {t : Text} {k : Char} {s : KeySequence} (hw : Waits t)
    (h : parse? (t ++ [k]) = some s) : s.rest = [] := by
  cases hw with
  | count hd hne =>
    by_cases hk : Text.isDigit k
    · have hcount := hd.append_singleton hne hk
      rw [(Waits.count hcount (by simp)).parse?_eq] at h
      cases h
    · by_cases hp : k ∈ pendingKeys
      · rw [(Waits.pending hd hp).parse?_eq] at h
        cases h
      · rw [parse?_single hd hk hp fun hnil => absurd hnil hne, Option.some.injEq] at h
        rw [← h]
  | @pending digits p hd hp =>
    rw [List.append_assoc, List.singleton_append, parse?_pair hd hp, Option.some.injEq] at h
    rw [← h]

theorem rest_eq_nil_of_parse?_append {t : Text} {k : Char} {s : KeySequence}
    (ht : parse? t = none) (h : parse? (t ++ [k]) = some s) : s.rest = [] := by
  rcases reads_or_waits t with ⟨s', hs⟩ | rfl | ⟨l, hl, hhead⟩ | hw
  · rw [hs.parse?_eq] at ht
    cases ht
  · have hlength := length_rest_lt h
    exact List.length_eq_zero_iff.1 (Nat.lt_one_iff.1 hlength)
  · have hline : (t ++ [k]).head? = some l := by rw [List.head?_append, hhead, Option.some_or]
    rw [parse?_eq_none (.inr (.inl ⟨l, hl, hline⟩))] at h
    cases h
  · exact hw.rest_eq_nil h

end ModalEditor.KeySequence
