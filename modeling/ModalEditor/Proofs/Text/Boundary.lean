import Mathlib.Data.List.TakeWhile
import ModalEditor.Motion
import ModalEditor.Proofs.Text.Offset

namespace ModalEditor

namespace Cluster

open Text

variable {gs before after rest : List Text} {g : Text} {byte b : Nat}

theorem starts_append (before after : List Text) (byte : Nat) :
    starts (before ++ after) byte =
      starts before byte ++ starts after (byte + byteLength before.flatten) := by
  induction before generalizing byte with
  | nil => simp [starts]
  | cons g before ih => simp [starts, ih, Nat.add_assoc]

theorem exists_of_mem_starts (h : b ∈ starts gs byte) :
    ∃ before after, gs = before ++ after ∧ b = byte + byteLength before.flatten := by
  induction gs generalizing byte with
  | nil => simp [starts] at h
  | cons g gs ih =>
    rcases List.mem_cons.1 h with rfl | h
    · exact ⟨[], g :: gs, rfl, rfl⟩
    · obtain ⟨before, after, rfl, rfl⟩ := ih h
      exact ⟨g :: before, after, rfl, by simp [Nat.add_assoc]⟩

theorem boundaryBefore_lt (gs : List Text) (h : 0 < byte) : boundaryBefore gs byte < byte := by
  rw [boundaryBefore]
  split
  · exact h
  · rw [List.getLastD_eq_getLast?]
    cases hlast : ((starts gs 0).takeWhile (· < byte)).getLast? with
    | none => exact h
    | some b => simpa using List.mem_takeWhile_imp (List.mem_of_getLast? hlast)

theorem lt_boundaryAfter (h : byte < byteLength gs.flatten) : byte < boundaryAfter gs byte := by
  rw [boundaryAfter]
  cases hfind : (starts gs 0).find? (byte < ·) with
  | none => exact h
  | some b => simpa using List.find?_some hfind

theorem exists_boundaryBefore (gs : List Text) (byte : Nat) :
    ∃ before after, gs = before ++ after ∧ boundaryBefore gs byte = byteLength before.flatten := by
  rw [boundaryBefore]
  split
  · exact ⟨[], gs, rfl, rfl⟩
  · rw [List.getLastD_eq_getLast?]
    cases hlast : ((starts gs 0).takeWhile (· < byte)).getLast? with
    | none => exact ⟨[], gs, rfl, rfl⟩
    | some b =>
      have hmem := (List.takeWhile_subset _) (List.mem_of_getLast? hlast)
      obtain ⟨before, after, hgs, hb⟩ := exists_of_mem_starts hmem
      exact ⟨before, after, hgs, by simpa using hb⟩

theorem exists_boundaryAfter (gs : List Text) (byte : Nat) :
    ∃ before after, gs = before ++ after ∧ boundaryAfter gs byte = byteLength before.flatten := by
  rw [boundaryAfter]
  cases hfind : (starts gs 0).find? (byte < ·) with
  | none => exact ⟨gs, [], (List.append_nil gs).symm, rfl⟩
  | some b =>
    obtain ⟨before, after, hgs, hb⟩ := exists_of_mem_starts (List.mem_of_find?_eq_some hfind)
    exact ⟨before, after, hgs, by simpa using hb⟩

theorem le_of_mem_starts (h : b ∈ starts gs 0) : b ≤ byteLength gs.flatten := by
  obtain ⟨before, after, rfl, rfl⟩ := exists_of_mem_starts h
  simp

theorem boundaryAfter_append (hg : g ≠ []) :
    boundaryAfter (before ++ g :: after) (byteLength before.flatten) =
      byteLength (before ++ [g]).flatten := by
  have hpos := byteLength_pos hg
  have hbefore : (starts before 0).find? (byteLength before.flatten < ·) = none :=
    List.find?_eq_none.2 fun b hb => by simpa using le_of_mem_starts hb
  rw [boundaryAfter, starts_append, List.find?_append, hbefore, Option.none_or, starts,
    List.find?_cons_of_neg (by simp)]
  cases after with
  | nil => simp [starts]
  | cons x after => simp [starts, hpos]

theorem boundaryBefore_append (hg : g ≠ []) :
    boundaryBefore (before ++ g :: after) (byteLength (before ++ [g]).flatten) =
      byteLength before.flatten := by
  have hpos := byteLength_pos hg
  have hbefore : ∀ b ∈ starts before 0, b < byteLength before.flatten + byteLength g :=
    fun b hb => Nat.lt_of_le_of_lt (le_of_mem_starts hb) (Nat.lt_add_of_pos_right hpos)
  have hafter : (starts after (byteLength before.flatten + byteLength g)).takeWhile
      (· < byteLength before.flatten + byteLength g) = [] := by
    cases after <;> simp [starts]
  rw [boundaryBefore, if_neg (by simp), starts_append, starts,
    List.takeWhile_append_of_pos (by simpa using hbefore)]
  simp [hpos, hafter]

@[simp] theorem restFrom_zero (gs : List Text) : restFrom gs 0 = gs := by
  cases gs <;> simp [restFrom]

@[simp] theorem columnAt_zero [Segmentation] (gs : List Text) : columnAt gs 0 = 0 := by
  cases gs <;> simp [columnAt]

@[simp] theorem byteAtColumn_zero [Segmentation] (gs : List Text) : byteAtColumn gs 0 = 0 := by
  cases gs <;> simp [byteAtColumn, cells_pos]

theorem restFrom_append (h : ∀ g ∈ before, g ≠ []) :
    restFrom (before ++ after) (byteLength before.flatten) = after := by
  induction before with
  | nil => simp
  | cons g before ih =>
    obtain ⟨hg, hbefore⟩ := List.forall_mem_cons.1 h
    have hpos := byteLength_pos hg
    rw [List.flatten_cons, byteLength_append, List.cons_append, restFrom, if_neg (by omega),
      if_pos (Nat.le_add_right _ _), Nat.add_sub_cancel_left, ih hbefore]

theorem exists_append_of_lt {before' rest' : List Text} (h : before ++ rest = before' ++ rest')
    (hlt : byteLength before.flatten < byteLength before'.flatten) :
    ∃ x, x ≠ [] ∧ before' = before ++ x ∧ rest = x ++ rest' := by
  rcases List.append_eq_append_iff.1 h with ⟨x, rfl, rfl⟩ | ⟨x, rfl, rfl⟩
  · refine ⟨x, ?_, rfl, rfl⟩
    rintro rfl
    simp at hlt
  · rw [List.flatten_append, byteLength_append] at hlt
    omega

theorem flatten_restFrom (gs : List Text) (j : Nat) :
    (restFrom gs (byteLength (gs.flatten.take j))).flatten = gs.flatten.drop j := by
  induction gs generalizing j with
  | nil => simp [restFrom]
  | cons g gs ih =>
    by_cases hzero : byteLength ((g :: gs).flatten.take j) = 0
    · have htake := byteLength_eq_zero.1 hzero
      conv => rhs; rw [← List.nil_append (List.drop _ _), ← htake, List.take_append_drop]
      rw [hzero, restFrom_zero]
    · rw [restFrom, if_neg hzero, List.flatten_cons, List.take_append, byteLength_append]
      by_cases hj : j < g.length
      · have hlt : byteLength (g.take j) < byteLength g := by
          simpa using byteLength_take_lt hj (Nat.le_refl g.length)
        rw [Nat.sub_eq_zero_of_le (Nat.le_of_lt hj), List.take_zero, byteLength_nil, Nat.add_zero,
          if_neg (Nat.not_le_of_lt hlt), List.flatten_cons, fromByte, charsWithin_byteLength_take,
          Nat.min_eq_left (Nat.le_of_lt hj), List.drop_append_of_le_length (Nat.le_of_lt hj)]
      · have hle := Nat.le_of_not_lt hj
        rw [List.take_of_length_le hle, if_pos (Nat.le_add_right _ _), Nat.add_sub_cancel_left, ih,
          List.drop_append, List.drop_of_length_le hle, List.nil_append]

end Cluster

namespace Text

open Cluster

variable [Segmentation] {t : Text} {p : Position} {before rest : List Text} {i : Nat}

/-- A place between the clusters of a line, or at one of its ends. -/
def AtBoundary (t : Text) (p : Position) : Prop :=
  p.line < t.lineCount ∧
    ∃ before after, t.lineClusters p.line = before ++ after ∧ p.byte = byteLength before.flatten

theorem flatten_lineClusters (t : Text) (i : Nat) : (t.lineClusters i).flatten = t.content i :=
  flatten_clusters _

theorem lineClusters_ne_nil {g : Text} (h : g ∈ t.lineClusters i) : g ≠ [] :=
  clusters_ne_nil (t := t.content i) h

theorem lineClusters_of_lineCount_le (h : t.lineCount ≤ i) : t.lineClusters i = [] := by
  rw [lineClusters, content_of_lineCount_le h, clusters_nil]

theorem lt_lineCount_of_lineClusters_ne_nil (h : t.lineClusters i ≠ []) : i < t.lineCount := by
  by_contra hle
  exact h (lineClusters_of_lineCount_le (Nat.le_of_not_lt hle))

theorem contentLength_eq (t : Text) (i : Nat) :
    t.contentLength i = byteLength (t.lineClusters i).flatten := by
  rw [flatten_lineClusters, contentLength]

theorem byteLength_lt_append {x : List Text} (h : t.lineClusters i = before ++ (x ++ rest))
    (hx : x ≠ []) : byteLength before.flatten < byteLength (before ++ x).flatten := by
  obtain ⟨g, x, rfl⟩ := List.exists_cons_of_ne_nil hx
  have hpos : 0 < byteLength g :=
    byteLength_pos (t.lineClusters_ne_nil (i := i) (by simp [h]))
  rw [List.flatten_append, byteLength_append, List.flatten_cons, byteLength_append]
  omega

theorem byteLength_lt_contentLength (h : t.lineClusters i = before ++ rest) (hrest : rest ≠ []) :
    byteLength before.flatten < t.contentLength i := by
  have hline : t.lineClusters i = before ++ (rest ++ []) := by rw [h, List.append_nil]
  rw [contentLength_eq, h]
  exact byteLength_lt_append hline hrest

theorem AtBoundary.byte_le (h : AtBoundary t p) : p.byte ≤ t.contentLength p.line := by
  obtain ⟨-, before, after, hline, hbyte⟩ := h
  rw [contentLength_eq, hline, hbyte]
  simp

theorem restFrom_lineClusters (h : t.lineClusters i = before ++ rest) :
    restFrom (t.lineClusters i) (byteLength before.flatten) = rest := by
  rw [h, restFrom_append fun g hg => t.lineClusters_ne_nil (i := i) ?_]
  rw [h]
  exact List.mem_append_left rest hg

theorem atBoundary_lineStart (h : i < t.lineCount) : AtBoundary t ⟨i, 0⟩ :=
  ⟨h, [], t.lineClusters i, rfl, rfl⟩

end Text

end ModalEditor
