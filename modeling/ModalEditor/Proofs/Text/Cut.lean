import ModalEditor.Proofs.Text.Body
import ModalEditor.Proofs.Text.Offset

namespace ModalEditor.Text

variable {t b k r before after a s x : Text} {pre post : List Text} {n j m : Nat}

/-- Behind so many characters the line loses a part without a break. Its own break stays, and so do
all other lines. -/
def CutsLine (t : Text) (i column : Nat) (t' : Text) : Prop :=
  ∃ before removed after, t.line? i = some (before ++ removed ++ after) ∧
    before.length = column ∧ Unbroken removed ∧
    breakOf (before ++ after) = breakOf (before ++ removed ++ after) ∧
    t'.lines = t.lines.set i (before ++ after)

theorem Break.forall_isLineBreak (h : Break k) : ∀ c ∈ k, isLineBreak c = true := by
  cases h with
  | pair => simp [isLineBreak]
  | single hc => simpa using hc

theorem Ending.forall_isLineBreak (h : Ending k post) : ∀ c ∈ k, isLineBreak c = true := by
  cases h with
  | last => exact nofun
  | «break» hk => exact hk.forall_isLineBreak

theorem Ending.exists_append (hk : Ending k post) (hr : Unbroken r) (hne : r ≠ [])
    (h : b ++ k = before ++ r ++ after) : ∃ a, b = before ++ r ++ a ∧ after = a ++ k := by
  rcases List.append_eq_append_iff.1 h with ⟨x, hx, rfl⟩ | ⟨a, rfl, rfl⟩
  · rcases List.eq_nil_or_concat' x with rfl | ⟨x, c, rfl⟩
    · exact ⟨[], by simpa using hx.symm, rfl⟩
    · have hlast := congrArg List.getLast? hx
      rw [List.getLast?_append_of_ne_nil _ hne, ← List.append_assoc, List.getLast?_concat] at hlast
      have hc := hk.forall_isLineBreak c (by simp)
      rw [hr c (List.mem_of_getLast? hlast)] at hc
      cases hc
  · exact ⟨a, rfl, rfl⟩

theorem meet_unbroken_append (hb : Unbroken b) : Meet s (b ++ x) ↔ Meet (s ++ b) x := by
  rcases List.eq_nil_or_concat' b with rfl | ⟨b', c, rfl⟩
  · simp
  · refine iff_of_false (not_meet_of_unbroken hb (by simp)) ?_
    rintro ⟨hr, -⟩
    rw [List.getLast?_append_of_ne_nil s (by simp), List.getLast?_concat] at hr
    cases Option.some.inj hr
    simp [isLineBreak] at hb

theorem HasLine.lines_cut_iff (h : HasLine t pre (before ++ r ++ a) k post) :
    lines (pre.flatten ++ before ++ (a ++ k ++ post.flatten)) =
        pre ++ (before ++ a ++ k) :: post ↔
      ¬ Meet (pre.flatten ++ before) (a ++ k ++ post.flatten) := by
  have hb := h.unbroken
  simp only [unbroken_append] at hb
  have hline : Lined ((before ++ a ++ k) :: post) :=
    h.ending.lined (unbroken_append.2 ⟨hb.1.1, hb.2⟩)
  have hrest : ((before ++ a ++ k) :: post).flatten = before ++ (a ++ k ++ post.flatten) := by simp
  have hflatten : (pre ++ (before ++ a ++ k) :: post).flatten =
      pre.flatten ++ before ++ (a ++ k ++ post.flatten) := by simp
  rw [lines_eq_iff, Lined.append_iff h.lined (List.cons_ne_nil _ _) (List.cons_ne_nil _ _), hrest,
    meet_unbroken_append hb.1.1]
  simp only [hline, hflatten, true_and, and_true]

theorem dropLineFeed_prefix (l : Text) : dropLineFeed l <+: l := by
  fun_induction dropLineFeed l with
  | case1 => exact List.prefix_refl []
  | case2 => exact List.nil_prefix
  | case3 c cs _ ih => exact (List.prefix_cons_inj c).2 ih

theorem Place.exists_split (h : Place t n pre b k post j) (hjm : j ≤ m)
    (hm : m ≤ (t.content pre.length).length) : ∃ before r after,
      b ++ k = before ++ r ++ after ∧ before.length = j ∧ r <+: (t.content pre.length).drop j ∧
      t.take n = pre.flatten ++ before ∧ t.drop n = r ++ (after ++ post.flatten) ∧
      t.drop (pre.flatten.length + m) = after ++ post.flatten := by
  obtain ⟨f, hf⟩ := dropLineFeed_prefix (b ++ k)
  have ht := h.eq_append
  have hn := h.offset_eq
  rw [dropLineFeed_append h.unbroken, ← h.content_eq] at hf
  generalize t.content pre.length = l at hf hm
  obtain ⟨d, rfl⟩ := Nat.exists_eq_add_of_le hjm
  generalize hbefore : l.take j = before
  generalize hr : (l.drop j).take d = r
  generalize hafter : l.drop (j + d) = after
  have hl : l = before ++ r ++ after := by
    rw [← hbefore, ← hr, ← hafter, ← List.take_add, List.take_append_drop]
  have hj : before.length = j := by
    rw [← hbefore, List.length_take]
    omega
  have hd : r.length = d := by
    rw [← hr, List.length_take, List.length_drop]
    omega
  have hline : b ++ k = before ++ r ++ (after ++ f) := by rw [← hf, hl, List.append_assoc]
  have hfirst : (pre.flatten ++ before).length = n := by rw [List.length_append, hj, hn]
  have hlast : (pre.flatten ++ before ++ r).length = pre.flatten.length + (j + d) := by
    rw [List.length_append, List.length_append, hj, hd, Nat.add_assoc]
  rw [hline] at ht
  have htail : t = pre.flatten ++ before ++ (r ++ (after ++ f ++ post.flatten)) := by
    rw [ht]
    simp only [List.append_assoc]
  refine ⟨before, r, after ++ f, hline, hj, hr ▸ List.take_prefix _ _, ?_, ?_, ?_⟩
  · rw [htail, List.take_left' hfirst]
  · rw [htail, List.drop_left' hfirst]
  · rw [htail, ← List.append_assoc, List.drop_left' hlast]

theorem HasLine.cutsLine_iff (h : HasLine t pre b k post) (hl : b ++ k = before ++ r ++ after) :
    CutsLine t pre.length before.length (pre.flatten ++ before ++ (after ++ post.flatten)) ↔
      r = [] ∨ Unbroken r ∧ ¬ Meet (pre.flatten ++ before) (after ++ post.flatten) := by
  have hset (l : Text) : t.lines.set pre.length l = pre ++ l :: post := by simp [h.lines_eq]
  by_cases hne : r = []
  · subst hne
    refine iff_of_true ⟨before, [], after, by rw [h.line?_eq, hl], rfl, unbroken_nil, by simp, ?_⟩
      (.inl rfl)
    rw [List.append_nil] at hl
    rw [hset, ← hl, ← h.lines_eq, h.eq_append, hl]
    simp only [List.append_assoc]
  rw [or_iff_right hne]
  constructor
  · rintro ⟨before', r', after', hline, hlength, hr, hbreak, hlines⟩
    rw [h.line?_eq, hl, Option.some.injEq, List.append_assoc, List.append_assoc] at hline
    obtain ⟨rfl, hrest⟩ := List.append_inj hline hlength.symm
    have hflatten := congrArg List.flatten hlines
    rw [hset, flatten_lines, List.flatten_append, List.flatten_cons, List.append_assoc,
      List.append_assoc, List.append_cancel_left_eq, List.append_cancel_left_eq,
      List.append_cancel_right_eq] at hflatten
    subst hflatten
    obtain rfl := List.append_cancel_right hrest
    obtain ⟨a, rfl, rfl⟩ := h.ending.exists_append hr hne hl
    refine ⟨hr, h.lines_cut_iff.1 ?_⟩
    rw [hlines, hset, List.append_assoc]
  · rintro ⟨hr, hmeet⟩
    obtain ⟨a, rfl, rfl⟩ := h.ending.exists_append hr hne hl
    refine ⟨before, r, a ++ k, by rw [h.line?_eq, hl], rfl, hr, ?_, ?_⟩
    · have hb := h.unbroken
      simp only [unbroken_append] at hb
      rw [← hl, h.ending.breakOf_append h.unbroken, ← List.append_assoc,
        h.ending.breakOf_append (unbroken_append.2 ⟨hb.1.1, hb.2⟩)]
    · rw [hset, h.lines_cut_iff.2 hmeet, List.append_assoc before]

theorem HasLine.cutsLine_of_lineFeed (h : HasLine t pre b k post)
    (hl : b ++ k = before ++ r ++ after) (hk : k = [] ∨ k = ['\n'])
    (hr : r <+: (t.content pre.length).drop before.length)
    (hreturn : before.length = 0 → ¬ t.BehindReturn pre.length) :
    CutsLine t pre.length before.length (pre.flatten ++ before ++ (after ++ post.flatten)) := by
  rw [h.cutsLine_iff hl]
  refine or_iff_not_imp_left.2 fun hne => ?_
  have hcontent : t.content pre.length = b := by
    rcases hk with rfl | rfl <;> rw [h.content_eq, dropLineFeed, List.append_nil]
  have hunbroken : Unbroken r := fun c hc =>
    h.unbroken c (List.mem_of_mem_drop (hcontent ▸ hr.subset hc))
  obtain ⟨a, rfl, rfl⟩ := h.ending.exists_append hunbroken hne hl
  have hb := h.unbroken
  simp only [unbroken_append] at hb
  refine ⟨hunbroken, ?_⟩
  rw [← meet_unbroken_append hb.1.1]
  by_cases hbefore : before = []
  · rintro ⟨hlast, -⟩
    exact hreturn (List.length_eq_zero_iff.2 hbefore) (h.behindReturn_iff.2 hlast)
  · exact not_meet_of_unbroken hb.1.1 hbefore

end ModalEditor.Text
