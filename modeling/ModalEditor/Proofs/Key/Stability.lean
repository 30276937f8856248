import ModalEditor.Proofs.Key.Extension

namespace ModalEditor.KeySequence

variable {t u zeros rest : Text} {k : Char} {s : KeySequence}

theorem not_paddedCount_zeros (hz : ∀ z ∈ zeros, z = '0')
    (hr : ∀ c ∈ rest.head?, ¬ Text.isDigit c) : ¬ PaddedCount (zeros ++ rest) := by
  rintro ⟨padding, d, back, heq, hne, hpadding, hd, hd0⟩
  rcases List.append_eq_append_iff.1 heq with ⟨more, rfl, rfl⟩ | ⟨more, rfl, hmore⟩
  · -- the rest would start with a zero of the padding or with the digit behind it
    cases more with
    | nil => exact hr d rfl hd
    | cons z more => exact hr z rfl (by rw [hpadding z (by simp)]; decide)
  · cases more with
    | nil => exact hr d (by rw [List.nil_append] at hmore; rw [← hmore]; rfl) hd
    | cons z more =>
      obtain ⟨rfl, -⟩ := List.cons.inj hmore
      exact hd0 (hz d (by simp))

theorem Reads.token_ne_zero (h : Reads t s) (hp : PaddedCount t) : s.token ≠ ['0'] := by
  cases h with
  | zero _ hz hr => exact absurd hp (not_paddedCount_zeros hz hr)
  | @single _ _ k _ hk _ _ =>
    intro htoken
    obtain rfl : k = '0' := List.cons.inj htoken |>.1
    exact hk (by decide)
  | pair => exact fun htoken => List.cons_ne_nil _ _ (List.cons.inj htoken).2

theorem Reads.token_of_zeros (h : Reads t s) (hne : t ≠ []) (hz : ∀ z ∈ t, z = '0') :
    s.token = ['0'] := by
  have hzeros : Reads (t ++ []) ⟨1, ['0'], t.tail ++ []⟩ := .zero hne hz nofun
  rw [List.append_nil] at hzeros
  have hs := h.parse?_eq.symm.trans hzeros.parse?_eq
  rw [Option.some.inj hs]

theorem PadsCount.parse?_ne (h : PadsCount t u) (ht : Reads t s) :
    parse? (t ++ u) ≠ some { s with rest := s.rest ++ u } := by
  intro hsplit
  have htoken := (reads_of_parse? hsplit).token_ne_zero h.paddedCount
  exact htoken (ht.token_of_zeros h.ne_nil h.zero)

theorem Waits.completed (hw : Waits t) (hk : ¬ Text.isDigit k) (hp : k ∉ pendingKeys) :
    ∃ count token, parse? (t ++ [k]) = some ⟨count, token, []⟩ := by
  cases hw with
  | count hd hne => exact ⟨_, _, parse?_single hd hk hp fun hnil => absurd hnil hne⟩
  | pending hd hpend =>
    rw [List.append_assoc]
    exact ⟨_, _, parse?_pair hd hpend⟩

/-- More text behind a key sequence goes to its rest and changes nothing else, unless it makes a run
of zeros the front of a count; then the split is another one or not made yet. A text that is not
empty, not for a whole line, and holds no sequence yet becomes one by any key that is neither a
digit nor a pending key, and nothing is left over. -/
theorem parse?_append_stable :
    (∀ t u s, parse? t = some s →
        (parse? (t ++ u) = some { s with rest := s.rest ++ u } ↔ ¬ PadsCount t u)) ∧
      ∀ t k, t ≠ [] → (¬ ∃ l ∈ lineKeys, t.head? = some l) → parse? t = none →
        ¬ Text.isDigit k → k ∉ pendingKeys →
        ∃ count token, parse? (t ++ [k]) = some ⟨count, token, []⟩ := by
  constructor
  · intro t u s h
    have hreads := reads_of_parse? h
    exact ⟨fun hsplit hpads => hpads.parse?_ne hreads hsplit,
      fun hpads => (hreads.append hpads).parse?_eq⟩
  · intro t k hne hline hnone hk hp
    rcases reads_or_waits t with ⟨s, hs⟩ | hnil | hhead | hw
    · rw [hs.parse?_eq] at hnone
      cases hnone
    · exact absurd hnil hne
    · exact absurd hhead hline
    · exact hw.completed hk hp

theorem parse?_append_stable_zero :
    parse? ['0'] = some ⟨1, ['0'], []⟩ ∧
      parse? (['0'] ++ ['j']) = some ⟨1, ['0'], ['j']⟩ ∧
      parse? (['0'] ++ "05".toList) ≠ some ⟨1, ['0'], "05".toList⟩ ∧
      parse? "12".toList = none ∧
      ∃ count token, parse? ("12".toList ++ [':']) = some ⟨count, token, []⟩ := by
  have hzero : parse? ['0'] = some ⟨1, ['0'], []⟩ := by decide
  have hnone : parse? "12".toList = none := by decide
  have hzeros : ∀ z ∈ ['0'], z = '0' := by simp
  have hbehind : ∀ c ∈ ['j'].head?, ¬ Text.isDigit c := by
    rintro _ ⟨⟩
    decide
  have hletter : ¬ PadsCount ['0'] ['j'] := fun h =>
    not_paddedCount_zeros hzeros hbehind h.paddedCount
  have hdigit : PadsCount ['0'] "05".toList :=
    ⟨List.cons_ne_nil _ _, hzeros, ['0'], '5', [], rfl, hzeros, by decide, by decide⟩
  have hline : ¬ ∃ l ∈ lineKeys, "12".toList.head? = some l := by
    rintro ⟨l, hl, hhead⟩
    obtain rfl : '1' = l := Option.some.inj hhead
    exact absurd hl (by decide)
  obtain ⟨hsettled, hwaiting⟩ := parse?_append_stable
  exact ⟨hzero, (hsettled _ _ _ hzero).2 hletter, fun h => (hsettled _ _ _ hzero).1 h hdigit, hnone,
    hwaiting _ _ (by decide) hline hnone (by decide) (by decide)⟩

end ModalEditor.KeySequence
