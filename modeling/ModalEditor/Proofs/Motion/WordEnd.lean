import Mathlib.Logic.Function.Iterate
import ModalEditor.Proofs.Text.Run

namespace ModalEditor

theorem Motion.repeatStep_induction {α : Type} [DecidableEq α] {step : α → Option α} {P : α → Prop}
    {a : α} (hstep : ∀ a b, P a → step a = some b → P b) (h : P a) (count : Nat) :
    P (repeatStep step count a).1 := by
  induction count generalizing a with
  | zero => exact h
  | succ count ih =>
    rw [repeatStep]
    split
    · exact h
    · rename_i b hb
      split
      · exact h
      · exact ih (hstep a b h hb)

namespace Text

open Cluster

section

variable [Segmentation] {t b k : Text} {pre post before rest : List Text} {n j i m : Nat}
  {p q : Position}

def Ahead (t : Text) (i j : Nat) (p : Position) : Prop :=
  ∃ m, j ≤ m ∧ m ≤ (t.content i).length ∧ p = ⟨i, byteLength ((t.content i).take m)⟩

theorem wordEnd?_of_le (h : t.contentLength i ≤ m) : t.wordEnd? ⟨i, m⟩ = none :=
  if_neg (Nat.not_lt_of_le h)

theorem exists_leadingRun (h : p.byte < t.contentLength p.line) :
    ∃ blanks run after,
      LeadingRun (restFrom (t.lineClusters p.line) p.byte) blanks run after ∧
      t.wordEnd? p = some ⟨p.line, p.byte + byteLength (blanks ++ run).flatten⟩ := by
  simp only [wordEnd?, if_pos h]
  generalize restFrom (t.lineClusters p.line) p.byte = gs
  cases hword : gs.dropWhile Cluster.isBlank with
  | nil => exact ⟨_, _, _, leadingRun_of_nil hword, by simp⟩
  | cons g rest => exact ⟨_, _, _, leadingRun_of_cons hword, by simp [Nat.add_assoc]⟩

theorem exists_of_wordEnd? (h : t.wordEnd? p = some q) :
    ∃ passed, passed <+: restFrom (t.lineClusters p.line) p.byte ∧
      q = ⟨p.line, p.byte + byteLength passed.flatten⟩ := by
  rcases Nat.lt_or_ge p.byte (t.contentLength p.line) with hlt | hle
  · obtain ⟨blanks, run, after, hleading, hend⟩ := exists_leadingRun hlt
    refine ⟨blanks ++ run, ⟨after, ?_⟩, Option.some.inj (h.symm.trans hend)⟩
    rw [hleading.eq_append, List.append_assoc]
  · rw [wordEnd?_of_le hle] at h
    cases h

theorem Ahead.pass {passed : List Text} (h : t.Ahead i j p)
    (hpassed : passed <+: restFrom (t.lineClusters p.line) p.byte) :
    t.Ahead i j ⟨p.line, p.byte + byteLength passed.flatten⟩ := by
  obtain ⟨m, hjm, hm, rfl⟩ := h
  obtain ⟨rest, hpassed⟩ := hpassed
  have hrest := flatten_restFrom (t.lineClusters i) m
  rw [flatten_lineClusters, ← hpassed, List.flatten_append] at hrest
  have hcontent : t.content i = (t.content i).take m ++ passed.flatten ++ rest.flatten := by
    rw [List.append_assoc, hrest, List.take_append_drop]
  have hlength : ((t.content i).take m ++ passed.flatten).length = m + passed.flatten.length := by
    simp [hm]
  have hle := congrArg List.length hcontent
  rw [List.length_append, hlength] at hle
  refine ⟨m + passed.flatten.length, Nat.le_add_right_of_le hjm, by omega, ?_⟩
  conv => rhs; rw [hcontent, ← hlength, List.take_left, byteLength_append]

theorem Ahead.wordEnd? (h : t.Ahead i j p) (hq : t.wordEnd? p = some q) : t.Ahead i j q := by
  obtain ⟨passed, hpassed, rfl⟩ := exists_of_wordEnd? hq
  exact h.pass hpassed

theorem Ahead.walk_wordEnd (h : t.Ahead i j p) (count : Nat) :
    t.Ahead i j (Motion.wordEnd.walk t count p).1 := by
  refine Motion.repeatStep_induction (P := fun w : Walker => t.Ahead i j w.position) ?_ h count
  intro w w' hw hstep
  obtain ⟨q, hq, rfl⟩ := Option.map_eq_some_iff.1 hstep
  exact hw.wordEnd? hq

omit [Segmentation] in
theorem Place.ahead (h : Place t n pre b k post j) : t.Ahead pre.length j (t.positionAt n) :=
  ⟨j, Nat.le_refl j, h.le_length_content, h.positionAt_eq⟩

omit [Segmentation] in
theorem HasLine.exists_offsetAt (h : HasLine t pre b k post) (hp : t.Ahead pre.length j p) :
    ∃ m, j ≤ m ∧ m ≤ (t.content pre.length).length ∧ t.offsetAt p = pre.flatten.length + m := by
  obtain ⟨m, hjm, hm, rfl⟩ := hp
  exact ⟨m, hjm, hm, by rw [h.offsetAt_eq, Nat.min_eq_left hm]⟩

def wordEnds (t : Text) (n : Nat) (p : Position) : Position :=
  (fun q => (t.wordEnd? q).getD q)^[n] p

theorem wordEnds_of_le (h : t.contentLength i ≤ m) (n : Nat) : t.wordEnds n ⟨i, m⟩ = ⟨i, m⟩ :=
  Function.iterate_fixed (by rw [wordEnd?_of_le h, Option.getD_none]) n

theorem exists_leadingRun_of_clusters (h : t.lineClusters i = before ++ rest) (hne : rest ≠ []) :
    ∃ blanks run after, LeadingRun rest blanks run after ∧
      t.wordEnd? ⟨i, byteLength before.flatten⟩ =
        some ⟨i, byteLength (before ++ (blanks ++ run)).flatten⟩ := by
  obtain ⟨blanks, run, after, hleading, hend⟩ :=
    exists_leadingRun (p := ⟨i, byteLength before.flatten⟩) (byteLength_lt_contentLength h hne)
  rw [restFrom_lineClusters h] at hleading
  exact ⟨blanks, run, after, hleading, by simp [hend]⟩

theorem wordEnds_eq (h : t.lineClusters i = before ++ rest) (n : Nat) :
    t.wordEnds n ⟨i, byteLength before.flatten⟩ =
      ⟨i, byteLength (before ++ (upToRuns n (stretches rest)).flatten).flatten⟩ := by
  induction n generalizing before rest with
  | zero => simp [wordEnds, upToRuns]
  | succ n ih =>
    by_cases hne : rest = []
    · subst hne
      have hend : t.contentLength i ≤ byteLength before.flatten := by
        rw [contentLength_eq, h, List.append_nil]
      rw [wordEnds_of_le hend]
      simp [stretches]
    · obtain ⟨blanks, run, after, hleading, hend⟩ := exists_leadingRun_of_clusters h hne
      have hclusters : t.lineClusters i = (before ++ (blanks ++ run)) ++ after := by
        rw [h, hleading.eq_append]
        simp
      have hstep : t.wordEnds (n + 1) ⟨i, byteLength before.flatten⟩ =
          t.wordEnds n ⟨i, byteLength (before ++ (blanks ++ run)).flatten⟩ := by
        rw [wordEnds, Function.iterate_succ_apply, hend]
        rfl
      rw [hstep, ih hclusters, hleading.flatten_upToRuns, List.append_assoc, List.append_assoc]

/-- From a boundary before the end of its line a word end passes the blanks and the longest run
behind them, or all blanks of the line when it has no run there; at or behind the end it fails. Many
word ends come to the end of as many runs of the rest of the line, or to the end of the line when
there are fewer. -/
theorem wordEnd?_passes_runs (h : t.lineClusters i = before ++ rest) :
    let p : Position := ⟨i, byteLength before.flatten⟩
    (p.byte < t.contentLength i → ∃ blanks run after, LeadingRun rest blanks run after ∧
      t.wordEnd? p = some ⟨i, byteLength (before ++ (blanks ++ run)).flatten⟩) ∧
    (∀ b, t.contentLength i ≤ b →
      t.wordEnd? ⟨i, b⟩ = none ∧ ∀ n, t.wordEnds n ⟨i, b⟩ = ⟨i, b⟩) ∧
    (∀ pre run post, stretches rest = pre ++ run :: post → isRun run →
      t.wordEnds (pre.countP isRun + 1) p =
        ⟨i, byteLength (before ++ (pre ++ [run]).flatten).flatten⟩) ∧
    ∀ n, (stretches rest).countP isRun < n → t.wordEnds n p = ⟨i, t.contentLength i⟩ := by
  intro p
  refine ⟨fun hlt => exists_leadingRun_of_clusters h ?_,
    fun b hb => ⟨wordEnd?_of_le hb, wordEnds_of_le hb⟩,
    fun pre run post hstretches hrun => ?_, fun n hn => ?_⟩
  · rintro rfl
    rw [contentLength_eq, h, List.append_nil] at hlt
    exact Nat.lt_irrefl _ hlt
  · rw [wordEnds_eq h, hstretches, upToRuns_countP hrun]
  · rw [wordEnds_eq h, upToRuns_of_countP_lt hn, flatten_stretches, contentLength_eq, h]

end

theorem wordEnd?_passes_runs_mixed :
    let t : Text := "ab  e\u0301,; ".toList
    let rest : List Text := [[' '], [' '], "e\u0301".toList, [','], [';'], [' ']]
    t.lineClusters 0 = [['a'], ['b']] ++ rest ∧
      (∃ blanks run after, LeadingRun rest blanks run after ∧ t.wordEnd? ⟨0, 2⟩ =
        some ⟨0, byteLength ([['a'], ['b']] ++ (blanks ++ run)).flatten⟩) ∧
      t.wordEnd? ⟨0, 2⟩ = some ⟨0, 7⟩ ∧ t.wordEnds 2 ⟨0, 2⟩ = ⟨0, 9⟩ ∧
      t.wordEnds 3 ⟨0, 2⟩ = ⟨0, 10⟩ ∧ t.wordEnd? ⟨0, 10⟩ = none := by
  intro t rest
  have hclusters : t.lineClusters 0 = [['a'], ['b']] ++ rest := by decide +kernel
  have hstretches : stretches rest =
      [[[' '], [' ']], ["e\u0301".toList]] ++ [[','], [';']] :: [[[' ']]] := by decide +kernel
  have hone : [[[' '], [' ']], ["e\u0301".toList]].countP isRun = 1 := by decide +kernel
  have hrun : isRun [[','], [';']] := by decide +kernel
  have htwo : (stretches rest).countP isRun < 3 := by decide +kernel
  have hlength : t.contentLength 0 = 10 := by decide +kernel
  obtain ⟨hfirst, hend, hsecond, hfew⟩ := wordEnd?_passes_runs hclusters
  have hruns := hsecond _ _ _ hstretches hrun
  have hall := hfew 3 htwo
  rw [hone] at hruns
  rw [hlength] at hfirst hend hall
  exact ⟨hclusters, hfirst (by decide), by decide +kernel, hruns, hall, (hend 10 (Nat.le_refl _)).1⟩

end Text

end ModalEditor
