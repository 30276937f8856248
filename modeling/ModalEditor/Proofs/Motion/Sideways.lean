import ModalEditor.Proofs.Editor.Move
import ModalEditor.Proofs.Text.Boundary

/-! Progress to the left and to the right. To the right every step leads on until the end of the
text. To the left every step leads back until the start, but for one kind of place: at the start of
a line, when the line above ends with a break other than a line feed, the step goes to the end of
that break, which is the same offset. -/

namespace ModalEditor

namespace Text

open Cluster

variable [Segmentation] {t b k l : Text} {pre post : List Text} {n j m : Nat}

def BehindBreak (t : Text) (n : Nat) : Prop :=
  ∃ i l, t.positionAt n = ⟨i + 1, 0⟩ ∧ t.line? i = some l ∧ l.getLast? ≠ some '\n'

omit [Segmentation] in
theorem length_dropLineFeed_lt_iff (l : Text) :
    (dropLineFeed l).length < l.length ↔ l.getLast? = some '\n' := by
  fun_induction dropLineFeed l with
  | case1 => simp
  | case2 => simp
  | case3 c cs hc ih =>
    cases cs with
    | nil =>
      simp [dropLineFeed] at hc ⊢
      exact hc
    | cons d cs => simpa using ih

namespace Place

omit [Segmentation] in
theorem byte_pos (h : Place t n pre b k post j) (hj : 0 < j) :
    0 < byteLength ((t.content pre.length).take j) := by
  simpa using byteLength_take_lt hj h.le_length_content

theorem left?_pos (h : Place t n pre b k post j) (hj : 0 < j) :
    ∃ q, t.left? (t.positionAt n) = some q ∧ pre.flatten.length ≤ t.offsetAt q ∧
      t.offsetAt q < n := by
  have hpos := h.byte_pos hj
  refine ⟨⟨pre.length, boundaryBefore (t.lineClusters pre.length)
    (byteLength ((t.content pre.length).take j))⟩, ?_, ?_, ?_⟩
  · rw [h.positionAt_eq, left?, if_neg (Nat.ne_of_gt hpos)]
  all_goals rw [offsetAt, if_pos h.length_lt_lineCount, h.lineStart_eq]
  · exact Nat.le_add_right _ _
  · rw [h.offset_eq]
    exact Nat.add_lt_add_left (charsWithin_lt (boundaryBefore_lt _ hpos)) _

theorem left?_start (h : Place t n [] b k post 0) : n = 0 ∧ t.left? (t.positionAt n) = none := by
  refine ⟨h.offset_eq, ?_⟩
  simp [h.positionAt_eq, left?]

theorem left?_lineStart (h : Place t n (pre ++ [l]) b k post 0) :
    n = t.lineStart pre.length + l.length ∧ l ≠ [] ∧ ∃ q, t.left? (t.positionAt n) = some q ∧
      t.offsetAt q = t.lineStart pre.length + (dropLineFeed l).length := by
  obtain ⟨b', k', hl, hline⟩ := h.exists_above
  have hne : l ≠ [] := by
    cases hline.ending with
    | «break» hk => simp [hl, hk.ne_nil]
  rw [hline.lineStart_eq]
  refine ⟨by simp [h.offset_eq], hne, ⟨pre.length, t.contentLength pre.length⟩, ?_, ?_⟩
  · simp [h.positionAt_eq, left?]
  · rw [contentLength, hline.offsetAt_lineEnd, hline.content_eq, hl,
      dropLineFeed_append hline.unbroken]

theorem right?_of_lt (h : Place t n pre b k post j) (hj : j < (t.content pre.length).length) :
    ∃ q, t.right? (t.positionAt n) = some q ∧ n < t.offsetAt q := by
  have hlt : byteLength ((t.content pre.length).take j) < t.contentLength pre.length := by
    simpa [contentLength] using byteLength_take_lt hj (Nat.le_refl _)
  refine ⟨_, by rw [h.positionAt_eq, right?, if_pos hlt], ?_⟩
  obtain ⟨before, after, hsplit, hafter⟩ := exists_boundaryAfter (t.lineClusters pre.length)
    (byteLength ((t.content pre.length).take j))
  have hcontent : t.content pre.length = before.flatten ++ after.flatten := by
    rw [← flatten_lineClusters, hsplit, List.flatten_append]
  have htake : (t.content pre.length).take before.flatten.length = before.flatten := by
    rw [hcontent, List.take_left]
  have hle : before.flatten.length ≤ (t.content pre.length).length := by simp [hcontent]
  have hbehind : j < before.flatten.length := by
    refine lt_of_byteLength_take_lt (t := t.content pre.length) ?_ h.le_length_content
    rw [htake, ← hafter]
    exact lt_boundaryAfter (by rwa [flatten_lineClusters])
  rw [hafter, ← htake, h.offsetAt_eq, Nat.min_eq_left hle, h.offset_eq]
  exact Nat.add_lt_add_left hbehind _

theorem right?_of_eq (h : Place t n pre b k post j) (hj : j = (t.content pre.length).length) :
    n = t.length ∧ t.right? (t.positionAt n) = none ∨
      n ≠ t.length ∧ ∃ q, t.right? (t.positionAt n) = some q ∧ n < t.offsetAt q := by
  have hbyte : ¬ byteLength ((t.content pre.length).take j) < t.contentLength pre.length := by
    simp [hj, contentLength]
  rw [h.positionAt_eq, right?, if_neg hbyte]
  have hlength := congrArg List.length h.eq_append
  rw [List.length_append, List.length_append] at hlength
  have hn := h.offset_eq
  cases h.ending with
  | last =>
    have hlast : ¬ pre.length + 1 < t.lineCount := by simp [lineCount, h.lines_eq]
    rw [if_neg hlast]
    rw [h.content_eq, dropLineFeed, List.append_nil] at hj
    refine .inl ⟨?_, rfl⟩
    rw [hlength, hn, hj]
    simp
  | «break» hk hmeet hpost =>
    have hnext : pre.length + 1 < t.lineCount := by
      simp [lineCount, h.lines_eq, List.length_pos_iff.2 hpost.ne_nil]
    have hinside := h.inside.resolve_right fun hlast => hpost.ne_nil hlast.1
    rw [if_pos hnext]
    refine .inr ⟨by omega, _, rfl, ?_⟩
    rw [offsetAt_lineStart hnext, h.lineStart_succ, hn]
    exact Nat.add_lt_add_left hinside _

omit [Segmentation] in
theorem behindBreak_iff (h : Place t n (pre ++ [l]) b k post 0) :
    t.BehindBreak n ↔ l.getLast? ≠ some '\n' := by
  have hline : t.line? pre.length = some l := by simp [line?, h.lines_eq]
  constructor
  · rintro ⟨i, l', hp, hl', hbreak⟩
    rw [h.positionAt_eq, Position.mk.injEq, List.length_append, List.length_singleton,
      Nat.succ_inj] at hp
    rw [← hp.1, hline, Option.some.injEq] at hl'
    exact hl' ▸ hbreak
  · intro hbreak
    refine ⟨pre.length, l, ?_, hline, hbreak⟩
    simp [h.positionAt_eq]

omit [Segmentation] in
theorem not_behindBreak_of_pos (h : Place t n pre b k post j) (hj : 0 < j) :
    ¬ t.BehindBreak n := by
  rintro ⟨i, l, hp, -⟩
  rw [h.positionAt_eq, Position.mk.injEq] at hp
  exact absurd hp.2 (Nat.ne_of_gt (h.byte_pos hj))

omit [Segmentation] in
theorem not_behindBreak_start (h : Place t n [] b k post j) : ¬ t.BehindBreak n := by
  rintro ⟨i, l, hp, -⟩
  rw [h.positionAt_eq, Position.mk.injEq] at hp
  exact absurd hp.1 (Nat.succ_ne_zero i).symm

end Place

theorem left_progress (hn : n ≤ t.length) :
    ((t.left? (t.positionAt n)).isSome ↔ n ≠ 0) ∧ t.offsetAfter .left n ≤ n ∧
      (t.offsetAfter .left n < n ↔ n ≠ 0 ∧ ¬ t.BehindBreak n) := by
  obtain ⟨pre, b, k, post, j, h⟩ := exists_place hn
  rw [offsetAfter_left]
  rcases Nat.eq_zero_or_pos j with rfl | hj
  · rcases List.eq_nil_or_concat' pre with rfl | ⟨pre, l, rfl⟩
    · obtain ⟨rfl, hnone⟩ := h.left?_start
      simp [hnone]
    · obtain ⟨hstart, hne, q, hq, hoffset⟩ := h.left?_lineStart
      have hl := List.length_pos_iff.2 hne
      have hle := length_dropLineFeed_le l
      have hbreak : ¬ t.BehindBreak n ↔ (dropLineFeed l).length < l.length := by
        rw [h.behindBreak_iff, not_not, length_dropLineFeed_lt_iff]
      simp only [hq, hoffset, hbreak, Option.isSome_some, Option.elim_some, true_iff]
      omega
  · obtain ⟨q, hq, -, hlt⟩ := h.left?_pos hj
    have hne := Nat.ne_of_gt (Nat.zero_lt_of_lt hlt)
    simp [hq, hlt, Nat.le_of_lt hlt, h.not_behindBreak_of_pos hj, hne]

theorem BehindBreak.le_offsetAfter (hm : t.BehindBreak m) (hmn : m ≤ n) (hn : n ≤ t.length) :
    m ≤ t.offsetAfter .left n := by
  obtain ⟨prem, bm, km, postm, jm, h'⟩ := exists_place (Nat.le_trans hmn hn)
  obtain ⟨pre, b, k, post, j, h⟩ := exists_place hn
  have hle := h'.length_le hmn h
  rcases Nat.eq_zero_or_pos jm with rfl | hjm
  swap
  · exact absurd hm (h'.not_behindBreak_of_pos hjm)
  have hstart : m = t.lineStart prem.length := h'.offset_eq.trans h'.lineStart_eq.symm
  rcases Nat.eq_zero_or_pos j with rfl | hj
  · rcases List.eq_nil_or_concat' pre with rfl | ⟨pre, l, rfl⟩
    · obtain rfl : prem = [] := List.length_eq_zero_iff.1 (Nat.le_zero.1 hle)
      exact absurd hm h'.not_behindBreak_start
    · rcases Nat.lt_or_eq_of_le hle with hlt | heq
      · obtain ⟨-, -, q, hq, hoffset⟩ := h.left?_lineStart
        rw [List.length_append, List.length_singleton] at hlt
        rw [offsetAfter_left, hq, Option.elim_some, hstart, hoffset]
        exact Nat.le_add_right_of_le (t.lineStart_mono (Nat.le_of_lt_succ hlt))
      · have hmn : m = n := hstart.trans ((heq ▸ h.lineStart_eq).trans h.offset_eq.symm)
        have hstuck := (left_progress hn).2.2
        subst hmn
        exact Nat.le_of_not_lt fun hlt => (hstuck.1 hlt).2 hm
  · obtain ⟨q, hq, hge, -⟩ := h.left?_pos hj
    rw [offsetAfter_left, hq, hstart]
    exact Nat.le_trans (t.lineStart_mono hle) (h.lineStart_eq ▸ hge)

theorem right_progress (hn : n ≤ t.length) :
    ((t.right? (t.positionAt n)).isSome ↔ n ≠ t.length) ∧ n ≤ t.offsetAfter .right n ∧
      t.offsetAfter .right n ≤ t.length ∧ (n < t.offsetAfter .right n ↔ n ≠ t.length) := by
  obtain ⟨pre, b, k, post, j, h⟩ := exists_place hn
  rw [offsetAfter_right]
  rcases Nat.lt_or_eq_of_le h.le_length_content with hj | hj
  · obtain ⟨q, hq, hlt⟩ := h.right?_of_lt hj
    have hle := t.offsetAt_le_length q
    have hne := Nat.ne_of_lt (Nat.lt_of_lt_of_le hlt hle)
    simp [hq, hlt, Nat.le_of_lt hlt, hle, hne]
  · rcases h.right?_of_eq hj with ⟨rfl, hnone⟩ | ⟨hne, q, hq, hlt⟩
    · simp [hnone]
    · simp [hq, hlt, Nat.le_of_lt hlt, t.offsetAt_le_length q, hne]

theorem exists_iterate_right (hn : n ≤ t.length) :
    ∃ k, (t.offsetAfter .right)^[k] n = t.length := by
  obtain ⟨d, hd⟩ := Nat.exists_eq_add_of_le hn
  induction d using Nat.strongRecOn generalizing n with
  | ind d ih =>
    by_cases hend : n = t.length
    · exact ⟨0, hend⟩
    · obtain ⟨-, -, hle, hlt⟩ := right_progress hn
      have hlt := hlt.2 hend
      obtain ⟨k, hk⟩ := ih (t.length - t.offsetAfter .right n) (by omega) hle (by omega)
      exact ⟨k + 1, hk⟩

theorem exists_iterate_left (hn : n ≤ t.length) (hfree : ∀ m ≤ n, ¬ t.BehindBreak m) :
    ∃ k, (t.offsetAfter .left)^[k] n = 0 := by
  -- a step goes back by a whole cluster or break, so by any number of characters
  induction n using Nat.strongRecOn with
  | ind n ih =>
    by_cases hstart : n = 0
    · exact ⟨0, hstart⟩
    · have hlt := (left_progress hn).2.2.2 ⟨hstart, hfree n (Nat.le_refl n)⟩
      obtain ⟨k, hk⟩ := ih _ hlt (Nat.le_trans (Nat.le_of_lt hlt) hn)
        fun m hm => hfree m (Nat.le_trans hm (Nat.le_of_lt hlt))
      exact ⟨k + 1, hk⟩

theorem BehindBreak.le_iterate (hm : t.BehindBreak m) (hmn : m ≤ n) (hn : n ≤ t.length) (k : Nat) :
    m ≤ (t.offsetAfter .left)^[k] n := by
  induction k generalizing n with
  | zero => exact hmn
  | succ k ih =>
    rw [Function.iterate_succ_apply]
    exact ih (hm.le_offsetAfter hmn hn) (offsetAfter_le_length hn .left)

theorem BehindBreak.pos (hm : t.BehindBreak m) : 0 < m := by
  by_contra hzero
  obtain rfl : m = 0 := Nat.eq_zero_of_not_pos hzero
  obtain ⟨pre, b, k, post, j, h⟩ := exists_place (Nat.zero_le t.length)
  obtain ⟨-, rfl⟩ := Nat.add_eq_zero_iff.1 h.offset_eq.symm
  rcases List.eq_nil_or_concat' pre with rfl | ⟨pre, l, rfl⟩
  · exact h.not_behindBreak_start hm
  · obtain ⟨hstart, hne, -⟩ := h.left?_lineStart
    exact hne (List.length_eq_zero_iff.1 (Nat.add_eq_zero_iff.1 hstart.symm).2)

theorem exists_iterate_left_iff (hn : n ≤ t.length) :
    (∃ k, (t.offsetAfter .left)^[k] n = 0) ↔ ∀ m ≤ n, ¬ t.BehindBreak m := by
  constructor
  · rintro ⟨k, hk⟩ m hmn hm
    have hle := hm.le_iterate hmn hn k
    rw [hk] at hle
    exact absurd hm.pos (Nat.not_lt_of_le hle)
  · exact exists_iterate_left hn

end Text

namespace Editor

section

variable [Segmentation] {e : Editor}

theorem move_left (h : e.cursor.position ≤ e.text.length) : e.move .left .move 1 =
    ({ e with cursor := .caret (e.text.offsetAfter .left e.cursor.position) },
      decide (e.cursor.position ≠ 0)) := by
  rw [move_one h, Motion.step?, Option.isSome_map]
  refine Prod.ext rfl (Bool.eq_iff_iff.2 ?_)
  rw [decide_eq_true_iff]
  exact (Text.left_progress h).1

theorem move_right (h : e.cursor.position ≤ e.text.length) : e.move .right .move 1 =
    ({ e with cursor := .caret (e.text.offsetAfter .right e.cursor.position) },
      decide (e.cursor.position ≠ e.text.length)) := by
  rw [move_one h, Motion.step?, Option.isSome_map]
  refine Prod.ext rfl (Bool.eq_iff_iff.2 ?_)
  rw [decide_eq_true_iff]
  exact (Text.right_progress h).1

/-- To the right a step leads on, or stays at the end of the text. To the left a step leads back, or
stays at the start; it also stays, and counts as a move, right behind a break other than a line feed.
So steps to the right come to the end, and steps to the left come to the start unless there is such
a place on the way. -/
theorem sideways_progress (h : e.cursor.position ≤ e.text.length) :
    (∃ n, e.move .left .move 1 =
        ({ e with cursor := .caret n }, decide (e.cursor.position ≠ 0)) ∧
      n ≤ e.cursor.position ∧
      (n < e.cursor.position ↔ e.cursor.position ≠ 0 ∧ ¬ e.text.BehindBreak e.cursor.position)) ∧
    (∃ n, e.move .right .move 1 =
        ({ e with cursor := .caret n }, decide (e.cursor.position ≠ e.text.length)) ∧
      e.cursor.position ≤ n ∧ n ≤ e.text.length ∧
      (e.cursor.position < n ↔ e.cursor.position ≠ e.text.length)) ∧
    ((∃ k, ((·.go .left 1)^[k] e).cursor.position = 0) ↔
      ∀ n ≤ e.cursor.position, ¬ e.text.BehindBreak n) ∧
    ∃ k, ((·.go .right 1)^[k] e).cursor.position = e.text.length := by
  simp only [position_iterate_go h, Text.exists_iterate_left_iff h]
  refine ⟨⟨_, move_left h, (Text.left_progress h).2⟩, ⟨_, move_right h, (Text.right_progress h).2⟩,
    trivial, Text.exists_iterate_right h⟩

end

theorem sideways_progress_pair :
    let e : Editor := { ofText "" "a\r\nb".toList with cursor := .caret 3 }
    e.cursor.position ≤ e.text.length ∧ (∀ n ≤ 3, ¬ e.text.BehindBreak n) ∧
      (∃ n < 3, e.move .left .move 1 = ({ e with cursor := .caret n }, true)) ∧
      ∃ k, ((·.go .left 1)^[k] e).cursor.position = 0 := by
  intro e
  have hle : e.cursor.position ≤ e.text.length := by decide
  have hfree : ∀ n ≤ 3, ¬ e.text.BehindBreak n := by
    rintro n hn ⟨i, l, hp, hl, hbreak⟩
    have hline : ∀ n ≤ 3, (e.text.positionAt n).line < 2 := by decide
    have hi := hline n hn
    rw [hp] at hi
    obtain rfl : i = 0 := by
      simp only at hi
      omega
    obtain rfl : "a\r\n".toList = l := Option.some.inj hl
    exact hbreak rfl
  obtain ⟨⟨n, hmove, -, hlt⟩, -, hstart, -⟩ := sideways_progress hle
  exact ⟨hle, hfree, ⟨n, hlt.2 ⟨by decide, hfree 3 (Nat.le_refl 3)⟩, hmove⟩, hstart.2 hfree⟩

/-- Behind a lone carriage return a step to the left counts as a move, and all of them stay. -/
theorem exists_move_left_stays :
    let e : Editor := { ofText "" ['\r'] with cursor := .caret 1 }
    e.cursor.position ≤ e.text.length ∧ e.move .left .move 1 = (e, true) ∧
      ∀ k, ((·.go .left 1)^[k] e).cursor.position ≠ 0 := by
  intro e
  have hmove : e.move .left .move 1 = (e, true) := by decide +kernel
  refine ⟨by decide, hmove, fun k => ?_⟩
  have hgo : e.go .left 1 = e := congrArg Prod.fst hmove
  rw [Function.iterate_fixed hgo]
  decide

end Editor

end ModalEditor
