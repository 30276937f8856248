import ModalEditor.Proofs.Text.Body
import ModalEditor.Proofs.Text.Boundary

/-! Which positions are those of their offsets. A position between two characters of the content of
a line is, unless it is at the end of the content and the line ends with a break other than a line
feed or a carriage return and a line feed: the content has such a break, and its end is the start of
the next line. -/

namespace ModalEditor.Text

open Cluster

variable {t b k : Text} {pre post : List Text} {i j : Nat} {p : Position}

/-- A break other than a line feed, alone or behind a carriage return. The content of a line keeps
all of it. -/
def Kept (k : Text) : Prop :=
  k ≠ [] ∧ k ≠ ['\n'] ∧ k ≠ ['\r', '\n']

instance (k : Text) : Decidable (Kept k) :=
  inferInstanceAs (Decidable (_ ∧ _ ∧ _))

def KeepsBreak (t : Text) (i : Nat) : Prop :=
  Kept (t.breakAt i)

instance (t : Text) (i : Nat) : Decidable (t.KeepsBreak i) :=
  inferInstanceAs (Decidable (Kept _))

/-- A place between two characters of the content of a line, or at one of its ends. -/
def AtCharacter (t : Text) (p : Position) : Prop :=
  p.line < t.lineCount ∧
    ∃ j, j ≤ (t.content p.line).length ∧ p.byte = byteLength ((t.content p.line).take j)

theorem AtCharacter.byte_le (h : AtCharacter t p) : p.byte ≤ t.contentLength p.line := by
  obtain ⟨-, j, -, hbyte⟩ := h
  rw [hbyte, contentLength]
  conv => rhs; rw [← List.take_append_drop j (t.content p.line), byteLength_append]
  exact Nat.le_add_right _ _

theorem AtBoundary.atCharacter [Segmentation] (h : AtBoundary t p) : AtCharacter t p := by
  obtain ⟨hline, before, after, hclusters, hbyte⟩ := h
  have hcontent : t.content p.line = before.flatten ++ after.flatten := by
    rw [← flatten_lineClusters, hclusters, List.flatten_append]
  exact ⟨hline, before.flatten.length, by simp [hcontent], by rw [hcontent, List.take_left, hbyte]⟩

theorem atBoundary_lineEnd [Segmentation] (h : i < t.lineCount) :
    AtBoundary t ⟨i, t.contentLength i⟩ :=
  ⟨h, t.lineClusters i, [], (List.append_nil _).symm, by rw [flatten_lineClusters, contentLength]⟩

theorem exists_hasLine_of_lt (h : i < t.lineCount) :
    ∃ pre b k post, HasLine t pre b k post ∧ pre.length = i := by
  have hi : i < t.lines.length := h
  have hlines : t.lines = t.lines.take i ++ t.lines[i] :: t.lines.drop (i + 1) := by
    rw [List.getElem_cons_drop, List.take_append_drop]
  obtain ⟨b, k, -, hline⟩ := exists_hasLine hlines
  exact ⟨_, b, k, _, hline, List.length_take_of_le (Nat.le_of_lt hi)⟩

theorem Ending.content_cases (h : Ending k post) :
    Kept k ∧ dropLineFeed k = k ∨
      ¬ Kept k ∧ ((dropLineFeed k).length < k.length ∨ post = [] ∧ dropLineFeed k = k) := by
  cases h with
  | last => simp [Kept, dropLineFeed]
  | «break» hk =>
    cases hk with
    | pair => simp [Kept, dropLineFeed]
    | @single c hc => by_cases hn : c = '\n' <;> simp [Kept, dropLineFeed, hn]

namespace HasLine

theorem keepsBreak_iff (h : HasLine t pre b k post) : t.KeepsBreak pre.length ↔ Kept k := by
  rw [KeepsBreak, h.breakAt_eq]

theorem place (h : HasLine t pre b k post) (hj : j ≤ (t.content pre.length).length)
    (hk : t.KeepsBreak pre.length → j ≠ (t.content pre.length).length) :
    Place t (pre.flatten.length + j) pre b k post j where
  toHasLine := h
  offset_eq := rfl
  inside := by
    rw [h.keepsBreak_iff] at hk
    rw [h.content_eq, List.length_append] at hj hk
    rw [List.length_append]
    rcases h.ending.content_cases with ⟨hkept, hd⟩ | ⟨-, hlt | ⟨hpost, hd⟩⟩
    · rw [hd] at hj hk
      exact .inl (Nat.lt_of_le_of_ne hj (hk hkept))
    · exact .inl (by omega)
    · rw [hd] at hj
      exact (Nat.lt_or_eq_of_le hj).imp_right fun hj => ⟨hpost, hj⟩

theorem place_start (h : HasLine t pre b k post) :
    Place t pre.flatten.length pre b k post 0 where
  toHasLine := h
  offset_eq := rfl
  inside := by
    cases h.ending with
    | last =>
      rw [List.append_nil]
      exact (Nat.eq_zero_or_pos b.length).symm.imp id fun hb => ⟨rfl, hb.symm⟩
    | «break» hk => exact .inl (List.length_pos_iff.2 (by simp [hk.ne_nil]))

theorem exists_below (h : HasLine t pre b k post) (hk : k ≠ []) :
    ∃ b' k' post', HasLine t (pre ++ [b ++ k]) b' k' post' := by
  cases h.ending with
  | last => exact absurd rfl hk
  | «break» _ _ hpost =>
    obtain ⟨l, post, rfl⟩ := List.exists_cons_of_ne_nil hpost.ne_nil
    have hlines : t.lines = (pre ++ [b ++ k]) ++ l :: post := by
      rw [h.lines_eq, List.append_assoc, List.singleton_append]
    obtain ⟨b', k', -, hline⟩ := exists_hasLine hlines
    exact ⟨b', k', post, hline⟩

end HasLine

theorem AtCharacter.positionAt_offsetAt (h : AtCharacter t p)
    (hp : t.KeepsBreak p.line → p.byte ≠ t.contentLength p.line) :
    t.positionAt (t.offsetAt p) = p := by
  obtain ⟨line, byte⟩ := p
  obtain ⟨hline, j, hj, hbyte⟩ := h
  simp only at hline hj hbyte hp
  subst hbyte
  obtain ⟨pre, b, k, post, h, rfl⟩ := exists_hasLine_of_lt hline
  have hplace := h.place hj fun hk hend => hp hk (by rw [hend, List.take_length, contentLength])
  rw [h.offsetAt_eq, Nat.min_eq_left hj, hplace.positionAt_eq]

theorem KeepsBreak.lt_lineCount (h : t.KeepsBreak i) : i < t.lineCount := by
  by_contra hle
  have hline : t.line? i = none := List.getElem?_eq_none (Nat.le_of_not_lt hle)
  exact h.1 (by rw [breakAt, hline]; rfl)

theorem KeepsBreak.positionAt_offsetAt (h : t.KeepsBreak i) :
    t.positionAt (t.offsetAt ⟨i, t.contentLength i⟩) = ⟨i + 1, 0⟩ := by
  obtain ⟨pre, b, k, post, hline, rfl⟩ := exists_hasLine_of_lt h.lt_lineCount
  rw [hline.keepsBreak_iff] at h
  obtain ⟨b', k', post', hbelow⟩ := hline.exists_below h.1
  have hcontent : t.content pre.length = b ++ k := by
    rcases hline.ending.content_cases with ⟨-, hd⟩ | ⟨hkept, -⟩
    · rw [hline.content_eq, hd]
    · exact absurd h hkept
  have hstart : t.offsetAt ⟨pre.length, t.contentLength pre.length⟩ =
      (pre ++ [b ++ k]).flatten.length := by
    rw [contentLength, hline.offsetAt_lineEnd, hcontent]
    simp
  rw [hstart, hbelow.place_start.positionAt_eq]
  simp

theorem positionAt_min_length (t : Text) (n : Nat) :
    t.positionAt (min n t.length) = t.positionAt n := by
  simp [positionAt]

theorem atCharacter_positionAt (t : Text) (n : Nat) : AtCharacter t (t.positionAt n) := by
  obtain ⟨pre, b, k, post, j, h⟩ := exists_place (Nat.min_le_right n t.length)
  rw [← positionAt_min_length, h.positionAt_eq]
  exact ⟨h.length_lt_lineCount, j, h.le_length_content, rfl⟩

end ModalEditor.Text
