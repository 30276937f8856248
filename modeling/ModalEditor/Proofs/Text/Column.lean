import ModalEditor.Proofs.Text.RoundTrip

namespace ModalEditor

namespace Cluster

open Text

variable [Segmentation] {gs before after before' after' : List Text} {column : Nat}

def span : List Text → Nat
  | [] => 0
  | g :: gs => cells g + span gs

@[simp] theorem span_nil : span [] = 0 := rfl

@[simp] theorem span_cons (g : Text) (gs : List Text) : span (g :: gs) = cells g + span gs := rfl

@[simp] theorem span_append (before after : List Text) :
    span (before ++ after) = span before + span after := by
  induction before with
  | nil => simp
  | cons g before ih => rw [List.cons_append, span_cons, span_cons, ih, Nat.add_assoc]

theorem columnAt_append (h : ∀ g ∈ before, g ≠ []) :
    columnAt (before ++ after) (byteLength before.flatten) = span before := by
  induction before with
  | nil => simp
  | cons g before ih =>
    obtain ⟨hg, hbefore⟩ := List.forall_mem_cons.1 h
    have hpos := byteLength_pos hg
    rw [List.flatten_cons, byteLength_append, List.cons_append, columnAt, if_neg (by omega),
      Nat.add_sub_cancel_left, ih hbefore, span_cons]

theorem exists_byteAtColumn (gs : List Text) (column : Nat) :
    ∃ before after, gs = before ++ after ∧ byteAtColumn gs column = byteLength before.flatten ∧
      span before ≤ column ∧ ∀ g ∈ after.head?, column < span before + cells g := by
  induction gs generalizing column with
  | nil => exact ⟨[], [], rfl, rfl, Nat.zero_le _, nofun⟩
  | cons g gs ih =>
    rw [byteAtColumn]
    split
    · rename_i hlt
      exact ⟨[], g :: gs, rfl, rfl, Nat.zero_le _, by simpa using hlt⟩
    · obtain ⟨before, after, rfl, hbyte, hle, hnext⟩ := ih (column - cells g)
      refine ⟨g :: before, after, rfl, by simp [hbyte], ?_, fun x hx => ?_⟩
      · rw [span_cons]
        omega
      · have := hnext x hx
        rw [span_cons]
        omega

theorem byteLength_le_of_span_le (h : before ++ after = before' ++ after')
    (hnext : ∀ g ∈ after.head?, column < span before + cells g) (hle : span before' ≤ column) :
    byteLength before'.flatten ≤ byteLength before.flatten := by
  by_contra hlt
  obtain ⟨x, hx, rfl, rfl⟩ := exists_append_of_lt h (Nat.lt_of_not_le hlt)
  obtain ⟨g, x, rfl⟩ := List.exists_cons_of_ne_nil hx
  have hgreater := hnext g rfl
  rw [span_append, span_cons] at hle
  omega

end Cluster

namespace Text

open Cluster

variable [Segmentation] {t : Text} {p q : Position} {i column : Nat}

structure LastWithin (t : Text) (column : Nat) (q : Position) : Prop where
  atBoundary : AtBoundary t q
  column_le : t.columnOf q ≤ column
  last : ∀ b, AtBoundary t ⟨q.line, b⟩ → t.columnOf ⟨q.line, b⟩ ≤ column → b ≤ q.byte

theorem columnOf_eq_span {before after : List Text} (h : t.lineClusters i = before ++ after) :
    t.columnOf ⟨i, byteLength before.flatten⟩ = span before := by
  have hne : ∀ g ∈ before, g ≠ [] := fun g hg =>
    t.lineClusters_ne_nil (i := i) (h ▸ List.mem_append_left after hg)
  simp only [columnOf, h, columnAt_append hne]

theorem lastWithin_atColumn (h : i < t.lineCount) (column : Nat) :
    LastWithin t column (t.atColumn i column) := by
  obtain ⟨before, after, hline, hbyte, hle, hnext⟩ :=
    exists_byteAtColumn (t.lineClusters i) column
  rw [atColumn, hbyte]
  refine ⟨⟨h, before, after, hline, rfl⟩, (columnOf_eq_span hline).trans_le hle, ?_⟩
  rintro _ ⟨-, before', after', hline', rfl⟩ hle'
  rw [columnOf_eq_span hline'] at hle'
  exact byteLength_le_of_span_le (hline.symm.trans hline') hnext hle'

theorem LastWithin.byte_eq_contentLength_iff (h : LastWithin t column q) :
    q.byte = t.contentLength q.line ↔
      t.columnOf ⟨q.line, t.contentLength q.line⟩ ≤ column := by
  constructor
  · intro hbyte
    rw [← hbyte]
    exact h.column_le
  · intro hle
    exact Nat.le_antisymm h.atBoundary.byte_le
      (h.last _ (atBoundary_lineEnd h.atBoundary.1) hle)

/-- The column goes beyond a line whose content has a break in it, so that it leads to the start of
the next line. -/
def Overshoots (t : Text) (column i : Nat) : Prop :=
  t.KeepsBreak i ∧ t.columnOf ⟨i, t.contentLength i⟩ ≤ column

instance (t : Text) (column i : Nat) : Decidable (t.Overshoots column i) :=
  inferInstanceAs (Decidable (_ ∧ _))

theorem LastWithin.positionAt_offsetAt (h : LastWithin t column q) :
    t.positionAt (t.offsetAt q) =
      if t.Overshoots column q.line then ⟨q.line + 1, 0⟩ else q := by
  split
  · rename_i hbeyond
    have hq : q = ⟨q.line, t.contentLength q.line⟩ := by
      rw [← h.byte_eq_contentLength_iff.2 hbeyond.2]
    rw [hq]
    exact hbeyond.1.positionAt_offsetAt
  · rename_i hbeyond
    exact h.atBoundary.atCharacter.positionAt_offsetAt fun hk hbyte =>
      hbeyond ⟨hk, h.byte_eq_contentLength_iff.1 hbyte⟩

end Text

end ModalEditor
