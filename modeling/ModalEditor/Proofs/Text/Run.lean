import Mathlib.Data.List.SplitBy
import ModalEditor.Proofs.Text.Boundary
import ModalEditor.Proofs.Text.Digits

namespace ModalEditor

namespace Cluster

open Text

inductive Kind
  | blank
  | word
  | punctuation
  deriving DecidableEq, Repr

def kind (g : Text) : Kind :=
  if isBlank g then .blank else if isWord g then .word else .punctuation

def stretches (gs : List Text) : List (List Text) :=
  gs.splitBy fun g h => kind g == kind h

def isRun (gs : List Text) : Bool :=
  gs.all (!isBlank ·)

/-- The clusters start with blanks, perhaps none, and the longest run behind them; there is no run
only if there is nothing behind the blanks. -/
structure LeadingRun (gs blanks run after : List Text) : Prop where
  eq_append : gs = blanks ++ (run ++ after)
  blanks : ∀ g ∈ blanks, kind g = .blank
  alike : ∃ k ≠ Kind.blank, (∀ g ∈ run, kind g = k) ∧ ∀ g ∈ after.head?, kind g ≠ k
  after_eq_nil : run = [] → after = []

variable {gs hs rest blanks run after : List Text} {g h : Text} {k : Kind} {n : Nat}
  {pre post : List (List Text)}

theorem kind_eq_blank_iff : kind g = .blank ↔ isBlank g := by
  by_cases hb : isBlank g
  · simp [kind, hb]
  · by_cases hw : isWord g <;> simp [kind, hb, hw]

theorem kind_eq_iff (hg : ¬ isBlank g) :
    kind h = kind g ↔ (!isBlank h && isWord h == isWord g) := by
  by_cases hb : isBlank h
  · by_cases hw : isWord g <;> simp [kind, hg, hb, hw]
  · by_cases hw : isWord g <;> by_cases hw' : isWord h <;> simp [kind, hg, hb, hw, hw']

theorem kind_of_mem_takeWhile (gs : List Text) : ∀ g ∈ gs.takeWhile isBlank, kind g = .blank :=
  fun _ hg => kind_eq_blank_iff.2 (List.mem_takeWhile_imp hg)

theorem leadingRun_of_nil (h : gs.dropWhile isBlank = []) :
    LeadingRun gs (gs.takeWhile isBlank) [] [] where
  eq_append := by
    conv => lhs; rw [← List.takeWhile_append_dropWhile (p := isBlank) (l := gs), h]
    rfl
  blanks := kind_of_mem_takeWhile gs
  alike := ⟨.word, nofun, nofun, nofun⟩
  after_eq_nil := fun _ => rfl

theorem leadingRun_of_cons (h : gs.dropWhile isBlank = g :: rest) :
    LeadingRun gs (gs.takeWhile isBlank)
      (g :: rest.takeWhile fun h => !isBlank h && isWord h == isWord g)
      (rest.dropWhile fun h => !isBlank h && isWord h == isWord g) := by
  have hg : ¬ isBlank g := not_of_mem_head?_dropWhile (l := gs) (by rw [h, List.head?_cons]; rfl)
  refine ⟨?_, kind_of_mem_takeWhile gs, ⟨kind g, ?_, ?_, ?_⟩, nofun⟩
  · rw [List.cons_append, List.takeWhile_append_dropWhile, ← h, List.takeWhile_append_dropWhile]
  · rwa [Ne, kind_eq_blank_iff]
  · refine List.forall_mem_cons.2 ⟨rfl, fun h hh => ?_⟩
    rw [kind_eq_iff hg]
    exact List.mem_takeWhile_imp (p := fun h => !isBlank h && isWord h == isWord g) hh
  · intro h hh
    rw [Ne, kind_eq_iff hg]
    exact not_of_mem_head?_dropWhile (p := fun h => !isBlank h && isWord h == isWord g) hh

theorem LeadingRun.passed_ne_nil (h : LeadingRun gs blanks run after) (hne : gs ≠ []) :
    blanks ++ run ≠ [] := by
  intro hnil
  obtain ⟨rfl, rfl⟩ := List.append_eq_nil_iff.1 hnil
  exact hne (by rw [h.eq_append, h.after_eq_nil rfl]; rfl)

theorem stretches_append (hends : ∀ g ∈ gs.getLast?, ∀ h ∈ hs.head?, kind g ≠ kind h) :
    stretches (gs ++ hs) = stretches gs ++ stretches hs :=
  List.splitBy_append (by simpa using hends)

theorem stretches_of_alike (hne : gs ≠ []) (halike : ∀ g ∈ gs, kind g = k) :
    stretches gs = [gs] := by
  refine List.splitBy_of_isChain hne (List.Pairwise.isChain ?_)
  refine List.pairwise_of_forall_mem_list fun g hg h hh => ?_
  rw [halike g hg, halike h hh]
  exact beq_self_eq_true k

theorem LeadingRun.stretches_eq (h : LeadingRun gs blanks run after) (hrun : run ≠ []) :
    stretches gs = stretches blanks ++ run :: stretches after := by
  obtain ⟨k, hk, hrunk, hafter⟩ := h.alike
  have hhead : ∀ g ∈ (run ++ after).head?, kind g = k := by
    obtain ⟨g, rest, rfl⟩ := List.exists_cons_of_ne_nil hrun
    simpa using hrunk g (List.mem_cons_self)
  have hfirst : stretches (blanks ++ (run ++ after)) =
      stretches blanks ++ stretches (run ++ after) := by
    refine stretches_append fun g hg h' hh' => ?_
    rw [h.blanks g (List.mem_of_getLast? hg), hhead h' hh']
    exact hk.symm
  have hsecond : stretches (run ++ after) = stretches run ++ stretches after := by
    refine stretches_append fun g hg h' hh' => ?_
    rw [hrunk g (List.mem_of_getLast? hg)]
    exact (hafter h' hh').symm
  rw [h.eq_append, hfirst, hsecond, stretches_of_alike hrun hrunk, List.singleton_append]

@[simp] theorem flatten_stretches (gs : List Text) : (stretches gs).flatten = gs :=
  List.flatten_splitBy _ gs

theorem LeadingRun.isRun_run (h : LeadingRun gs blanks run after) : isRun run := by
  obtain ⟨k, hk, hrunk, -⟩ := h.alike
  refine List.all_eq_true.2 fun g hg => ?_
  have hkind : kind g ≠ .blank := hrunk g hg ▸ hk
  simpa [kind_eq_blank_iff] using hkind

theorem LeadingRun.not_isRun (h : LeadingRun gs blanks run after) :
    ∀ s ∈ stretches blanks, Cluster.isRun s = false := by
  intro s hs
  obtain ⟨g, hg⟩ := List.exists_mem_of_ne_nil s (List.ne_nil_of_mem_splitBy hs)
  have hmem : g ∈ (stretches blanks).flatten := List.mem_flatten.2 ⟨s, hs, hg⟩
  rw [flatten_stretches] at hmem
  exact List.all_eq_false.2 ⟨g, hg, by simp [kind_eq_blank_iff.1 (h.blanks g hmem)]⟩

def upToRuns : Nat → List (List Text) → List (List Text)
  | 0, _ => []
  | _ + 1, [] => []
  | n + 1, s :: ss => s :: upToRuns (if isRun s then n else n + 1) ss

@[simp] theorem upToRuns_nil (n : Nat) : upToRuns n [] = [] := by
  cases n <;> rfl

theorem upToRuns_append (hpre : ∀ s ∈ pre, isRun s = false) (hn : 0 < n) :
    upToRuns n (pre ++ post) = pre ++ upToRuns n post := by
  obtain ⟨n, rfl⟩ := Nat.exists_eq_succ_of_ne_zero (Nat.ne_of_gt hn)
  induction pre with
  | nil => rfl
  | cons s pre ih =>
    obtain ⟨hs, hpre⟩ := List.forall_mem_cons.1 hpre
    rw [List.cons_append, upToRuns, if_neg (by simp [hs]), ih hpre, List.cons_append]

theorem upToRuns_countP (hrun : isRun run) :
    upToRuns (pre.countP isRun + 1) (pre ++ run :: post) = pre ++ [run] := by
  induction pre with
  | nil => simp [upToRuns, hrun]
  | cons s pre ih => by_cases hs : isRun s <;> simp [upToRuns, hs, ih]

theorem upToRuns_of_countP_lt {ss : List (List Text)} (h : ss.countP isRun < n) :
    upToRuns n ss = ss := by
  induction ss generalizing n with
  | nil => cases n <;> rfl
  | cons s ss ih =>
    obtain ⟨n, rfl⟩ := Nat.exists_eq_succ_of_ne_zero (Nat.ne_of_gt (Nat.zero_lt_of_lt h))
    rw [upToRuns, ih]
    by_cases hs : isRun s
    · rw [if_pos hs]
      simp only [List.countP_cons, hs, if_true] at h
      omega
    · rw [if_neg hs]
      simpa [hs] using h

theorem LeadingRun.flatten_upToRuns (h : LeadingRun gs blanks run after) (n : Nat) :
    (upToRuns (n + 1) (stretches gs)).flatten =
      blanks ++ (run ++ (upToRuns n (stretches after)).flatten) := by
  by_cases hrun : run = []
  · have hblanks : upToRuns (n + 1) (stretches blanks ++ []) = stretches blanks ++ [] :=
      upToRuns_append h.not_isRun (Nat.succ_pos n)
    rw [List.append_nil] at hblanks
    rw [h.eq_append, h.after_eq_nil hrun, hrun, List.append_nil, List.append_nil, hblanks,
      flatten_stretches]
    simp [stretches]
  · rw [h.stretches_eq hrun, upToRuns_append h.not_isRun (Nat.succ_pos n), upToRuns,
      if_pos h.isRun_run]
    simp

end Cluster

end ModalEditor
