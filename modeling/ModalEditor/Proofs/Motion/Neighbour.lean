import ModalEditor.Proofs.Motion.NextWord
import ModalEditor.Proofs.Text.RoundTrip

namespace ModalEditor.Text

open Cluster

variable [Segmentation] {t : Text} {p q : Position} {i : Nat}

inductive Adjacent (t : Text) : Position → Position → Prop
  | cluster {i : Nat} {before after : List Text} {g : Text} :
      t.lineClusters i = before ++ g :: after →
      Adjacent t ⟨i, byteLength before.flatten⟩ ⟨i, byteLength (before ++ [g]).flatten⟩
  | line {i : Nat} : i + 1 < t.lineCount → Adjacent t ⟨i, t.contentLength i⟩ ⟨i + 1, 0⟩

theorem AtBoundary.end_or_cluster (h : AtBoundary t p) :
    p.byte = t.contentLength p.line ∨
      ∃ before g after, t.lineClusters p.line = before ++ g :: after ∧
        p.byte = byteLength before.flatten := by
  obtain ⟨-, before, after, hclusters, hbyte⟩ := h
  cases after with
  | nil => exact .inl (by rw [contentLength_eq, hclusters, List.append_nil, hbyte])
  | cons g after => exact .inr ⟨before, g, after, hclusters, hbyte⟩

theorem AtBoundary.start_or_cluster (h : AtBoundary t p) :
    p.byte = 0 ∨
      ∃ before g after, t.lineClusters p.line = before ++ g :: after ∧
        p.byte = byteLength (before ++ [g]).flatten := by
  obtain ⟨-, before, after, hclusters, hbyte⟩ := h
  rcases List.eq_nil_or_concat' before with rfl | ⟨before, g, rfl⟩
  · exact .inl hbyte
  · exact .inr ⟨before, g, after, by simpa using hclusters, hbyte⟩

namespace Adjacent

theorem left_atBoundary (h : Adjacent t p q) : AtBoundary t p := by
  cases h with
  | cluster hclusters =>
    exact ⟨lt_lineCount_of_lineClusters_ne_nil (by simp [hclusters]), _, _, hclusters, rfl⟩
  | line hline => exact atBoundary_lineEnd (Nat.lt_of_succ_lt hline)

theorem right_atBoundary (h : Adjacent t p q) : AtBoundary t q := by
  cases h with
  | @cluster i before after g hclusters =>
    refine ⟨lt_lineCount_of_lineClusters_ne_nil (by simp [hclusters]), before ++ [g], after, ?_, rfl⟩
    rw [hclusters, List.append_assoc, List.singleton_append]
  | line hline => exact atBoundary_lineStart hline

theorem before (h : Adjacent t p q) : p.before q := by
  cases h with
  | @cluster i before after g hclusters =>
    exact .inr ⟨rfl, byteLength_lt_append (x := [g]) hclusters (List.cons_ne_nil g [])⟩
  | line => exact .inl (Nat.lt_succ_self _)

theorem right?_eq (h : Adjacent t p q) : t.right? p = some q := by
  cases h with
  | @cluster i before after g hclusters =>
    have hg : g ≠ [] := t.lineClusters_ne_nil (i := i) (by simp [hclusters])
    have hlt := byteLength_lt_contentLength hclusters (List.cons_ne_nil g after)
    rw [right?, if_pos hlt, hclusters, boundaryAfter_append hg]
  | line hline => rw [right?, if_neg (Nat.lt_irrefl _), if_pos hline]

theorem left?_eq (h : Adjacent t p q) : t.left? q = some p := by
  cases h with
  | @cluster i before after g hclusters =>
    have hg : g ≠ [] := t.lineClusters_ne_nil (i := i) (by simp [hclusters])
    have hlt := byteLength_lt_append (x := [g]) hclusters (List.cons_ne_nil g [])
    have hne := Nat.ne_of_gt (Nat.zero_lt_of_lt hlt)
    rw [left?, if_neg hne, hclusters, boundaryBefore_append hg]
  | line => simp [left?]

end Adjacent

theorem right?_lastPosition (t : Text) : t.right? t.lastPosition = none := by
  have hlast : ¬ t.lineCount - 1 + 1 < t.lineCount := by omega
  rw [right?, lastPosition, if_neg (Nat.lt_irrefl _), if_neg hlast]

theorem left?_origin (t : Text) : t.left? .origin = none := rfl

theorem AtBoundary.eq_last_or_adjacent (h : AtBoundary t p) :
    p = t.lastPosition ∨ ∃ q, Adjacent t p q := by
  obtain ⟨line, byte⟩ := p
  rcases h.end_or_cluster with hend | ⟨before, g, after, hclusters, hbyte⟩
  · by_cases hnext : line + 1 < t.lineCount
    · obtain rfl : byte = t.contentLength line := hend
      exact .inr ⟨_, .line hnext⟩
    · exact .inl (eq_lastPosition_of_lineEnd h.1 hend hnext)
  · obtain rfl : byte = byteLength before.flatten := hbyte
    exact .inr ⟨_, .cluster hclusters⟩

theorem AtBoundary.eq_origin_or_adjacent (h : AtBoundary t q) :
    q = .origin ∨ ∃ p, Adjacent t p q := by
  obtain ⟨line, byte⟩ := q
  rcases h.start_or_cluster with hstart | ⟨before, g, after, hclusters, hbyte⟩
  · obtain rfl : byte = 0 := hstart
    cases line with
    | zero => exact .inl rfl
    | succ line => exact .inr ⟨_, .line h.1⟩
  · obtain rfl : byte = byteLength (before ++ [g]).flatten := hbyte
    exact .inr ⟨_, .cluster hclusters⟩

theorem AtBoundary.right?_eq_some_iff (h : AtBoundary t p) :
    t.right? p = some q ↔ Adjacent t p q := by
  refine ⟨fun hq => ?_, Adjacent.right?_eq⟩
  rcases h.eq_last_or_adjacent with rfl | ⟨q', hadjacent⟩
  · rw [right?_lastPosition] at hq
    cases hq
  · obtain rfl := Option.some.inj (hadjacent.right?_eq.symm.trans hq)
    exact hadjacent

theorem AtBoundary.left?_eq_some_iff (h : AtBoundary t q) :
    t.left? q = some p ↔ Adjacent t p q := by
  refine ⟨fun hp => ?_, Adjacent.left?_eq⟩
  rcases h.eq_origin_or_adjacent with rfl | ⟨p', hadjacent⟩
  · cases hp
  · obtain rfl := Option.some.inj (hadjacent.left?_eq.symm.trans hp)
    exact hadjacent

end ModalEditor.Text
