import ModalEditor.Proofs.Text.Lines
import ModalEditor.Proofs.Text.Position

namespace ModalEditor.Text

variable {t b k : Text} {pre post ls : List Text} {n j i m : Nat}

theorem byteLength_take_lt (h : j < i) (hi : i ≤ t.length) :
    byteLength (t.take j) < byteLength (t.take i) := by
  induction t generalizing j i with
  | nil => exact absurd (Nat.lt_of_lt_of_le h hi) (Nat.not_lt_zero j)
  | cons c t ih =>
    obtain _ | i := i
    · exact absurd h (Nat.not_lt_zero j)
    · cases j with
      | zero => exact Nat.add_pos_left c.utf8Size_pos _
      | succ j =>
        simp [ih (Nat.lt_of_succ_lt_succ h) (Nat.le_of_succ_le_succ hi)]

theorem lt_of_byteLength_take_lt (h : byteLength (t.take j) < byteLength (t.take i))
    (hj : j ≤ t.length) : j < i := by
  by_contra hle
  rcases Nat.lt_or_eq_of_le (Nat.le_of_not_lt hle) with hlt | rfl
  · exact Nat.lt_asymm h (byteLength_take_lt hlt hj)
  · exact Nat.lt_irrefl _ h

theorem byteLength_pos (h : t ≠ []) : 0 < byteLength t := by
  obtain ⟨c, t, rfl⟩ := List.exists_cons_of_ne_nil h
  exact Nat.add_pos_left c.utf8Size_pos _

theorem byteLength_eq_zero : byteLength t = 0 ↔ t = [] := by
  constructor
  · exact fun h => by_contra fun hne => Nat.ne_of_gt (byteLength_pos hne) h
  · rintro rfl
    rfl

theorem charsWithin_byteLength_take (t : Text) (j : Nat) :
    t.charsWithin (byteLength (t.take j)) = min j t.length := by
  induction t generalizing j with
  | nil => simp [charsWithin]
  | cons c t ih =>
    cases j with
    | zero => simp [charsWithin_zero]
    | succ j => simp [charsWithin, ih, Nat.succ_min_succ]

theorem charsWithin_lt (h : m < byteLength (t.take j)) : t.charsWithin m < j := by
  induction t generalizing m j with
  | nil => simp at h
  | cons c t ih =>
    cases j with
    | zero => simp at h
    | succ j =>
      rw [charsWithin]
      split
      · rw [List.take_succ_cons, byteLength_cons] at h
        exact Nat.succ_lt_succ (ih (by omega))
      · exact Nat.zero_lt_succ j

theorem locate_append {l : Text} (h : j < l.length ∨ post = []) :
    locate (pre ++ l :: post) (pre.flatten.length + j) = (pre.length, j) := by
  induction pre with
  | nil =>
    cases post with
    | nil => simp [locate]
    | cons => simp [locate, h.resolve_right (List.cons_ne_nil _ _)]
  | cons m pre ih =>
    have hle : ¬ (m :: pre).flatten.length + j < m.length := by
      rw [List.flatten_cons, List.length_append]
      omega
    have hsub : (m :: pre).flatten.length + j - m.length = pre.flatten.length + j := by
      rw [List.flatten_cons, List.length_append]
      omega
    rw [List.cons_append, locate, if_neg hle, hsub, ih]
    · rfl
    · simp

theorem exists_split_at (hls : ls ≠ []) (h : n ≤ ls.flatten.length) :
    ∃ pre l post j, ls = pre ++ l :: post ∧ n = pre.flatten.length + j ∧
      (j < l.length ∨ post = [] ∧ j = l.length) := by
  induction ls generalizing n with
  | nil => exact absurd rfl hls
  | cons l ls ih =>
    by_cases hn : n < l.length
    · exact ⟨[], l, ls, n, rfl, (Nat.zero_add n).symm, .inl hn⟩
    · rw [List.flatten_cons, List.length_append] at h
      by_cases hrest : ls = []
      · subst hrest
        rw [List.flatten_nil, List.length_nil] at h
        exact ⟨[], l, [], n, rfl, (Nat.zero_add n).symm, .inr ⟨rfl, by omega⟩⟩
      · obtain ⟨pre, m, post, j, rfl, hj, hm⟩ := ih (n := n - l.length) hrest (by omega)
        refine ⟨l :: pre, m, post, j, rfl, ?_, hm⟩
        rw [List.flatten_cons, List.length_append]
        omega

/-- The offset lies `j` characters into the line that stands between the lines `pre` and `post`. -/
structure Place (t : Text) (n : Nat) (pre : List Text) (b k : Text) (post : List Text) (j : Nat) :
    Prop extends HasLine t pre b k post where
  offset_eq : n = pre.flatten.length + j
  inside : j < (b ++ k).length ∨ post = [] ∧ j = (b ++ k).length

theorem exists_place (h : n ≤ t.length) : ∃ pre b k post j, Place t n pre b k post j := by
  obtain ⟨pre, l, post, j, hlines, hn, hj⟩ :=
    exists_split_at (n := n) t.lines_ne_nil (by rwa [flatten_lines])
  obtain ⟨b, k, rfl, hline⟩ := exists_hasLine hlines
  exact ⟨pre, b, k, post, j, hline, hn, hj⟩

theorem HasLine.offsetAt_eq (h : HasLine t pre b k post) (j : Nat) :
    t.offsetAt ⟨pre.length, byteLength ((t.content pre.length).take j)⟩ =
      pre.flatten.length + min j (t.content pre.length).length := by
  rw [offsetAt, if_pos h.length_lt_lineCount, h.lineStart_eq, charsWithin_byteLength_take]

theorem HasLine.offsetAt_lineEnd (h : HasLine t pre b k post) :
    t.offsetAt ⟨pre.length, byteLength (t.content pre.length)⟩ =
      pre.flatten.length + (t.content pre.length).length := by
  simpa using h.offsetAt_eq (t.content pre.length).length

theorem lineStart_mono (t : Text) (h : i ≤ j) : t.lineStart i ≤ t.lineStart j := by
  obtain ⟨d, rfl⟩ := Nat.exists_eq_add_of_le h
  rw [lineStart, lineStart, List.take_add, List.flatten_append, List.length_append]
  exact Nat.le_add_right _ _

namespace Place

variable (h : Place t n pre b k post j)
include h

theorem le_length : n ≤ t.length := by
  have hlength := congrArg List.length h.eq_append
  have hj : j ≤ (b ++ k).length := h.inside.elim Nat.le_of_lt fun h => Nat.le_of_eq h.2
  rw [List.length_append, List.length_append] at hlength
  have := h.offset_eq
  omega

theorem locate_eq : locate t.lines n = (pre.length, j) := by
  rw [h.lines_eq, h.offset_eq]
  exact locate_append (h.inside.imp_right And.left)

theorem positionAt_eq :
    t.positionAt n = ⟨pre.length, byteLength ((t.content pre.length).take j)⟩ := by
  simp only [positionAt, Nat.min_eq_left h.le_length, h.locate_eq]

theorem le_length_content : j ≤ (t.content pre.length).length := by
  simpa only [h.locate_eq] using locate_le_content h.le_length

theorem length_le {n' j' : Nat} {pre' post' : List Text} {b' k' : Text} (hle : n ≤ n')
    (h' : Place t n' pre' b' k' post' j') : pre.length ≤ pre'.length := by
  by_contra hlt
  have hlt := Nat.lt_of_not_le hlt
  have hstart := t.lineStart_mono (Nat.succ_le_of_lt hlt)
  rw [h'.lineStart_succ, h.lineStart_eq] at hstart
  have hn := h.offset_eq
  have hn' := h'.offset_eq
  rcases h'.inside with hj | ⟨rfl, -⟩
  · omega
  · have hcount := h.length_lt_lineCount
    rw [lineCount, h'.lines_eq, List.length_append, List.length_singleton] at hcount
    omega

theorem offsetAt_positionAt : t.offsetAt (t.positionAt n) = n := by
  rw [h.positionAt_eq, h.offsetAt_eq, Nat.min_eq_left h.le_length_content, h.offset_eq]

end Place

theorem offsetAt_positionAt (h : n ≤ t.length) : t.offsetAt (t.positionAt n) = n := by
  obtain ⟨pre, b, k, post, j, h⟩ := exists_place h
  exact h.offsetAt_positionAt

end ModalEditor.Text
