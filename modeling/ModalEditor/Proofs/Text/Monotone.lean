import ModalEditor.Proofs.Text.RoundTrip

namespace ModalEditor.Text

variable {t : Text} {p q : Position} {i j b c : Nat}

theorem charsWithin_mono (t : Text) (h : b ≤ c) : t.charsWithin b ≤ t.charsWithin c := by
  induction t generalizing b c with
  | nil => exact Nat.le_refl 0
  | cons d t ih =>
    rw [charsWithin, charsWithin]
    split
    · rw [if_pos (by omega)]
      exact Nat.succ_le_succ (ih (Nat.sub_le_sub_right h _))
    · exact Nat.zero_le _

theorem lineStart_add_content_le_lineStart (h : i < j) (hj : j < t.lineCount) :
    t.lineStart i + (t.content i).length ≤ t.lineStart j := by
  obtain ⟨pre, b, k, post, hline, rfl⟩ := exists_hasLine_of_lt (Nat.lt_trans h hj)
  calc t.lineStart pre.length + (t.content pre.length).length
      ≤ pre.flatten.length + (b ++ k).length := by
        rw [hline.lineStart_eq, hline.content_eq, List.length_append, List.length_append]
        exact Nat.add_le_add_left (Nat.add_le_add_left (length_dropLineFeed_le k) _) _
    _ = t.lineStart (pre.length + 1) := hline.lineStart_succ.symm
    _ ≤ t.lineStart j := t.lineStart_mono h

theorem offsetAt_of_lt (h : p.line < t.lineCount) :
    t.offsetAt p = t.lineStart p.line + (t.content p.line).charsWithin p.byte :=
  if_pos h

theorem offsetAt_of_lineCount_le (h : t.lineCount ≤ p.line) : t.offsetAt p = t.length :=
  if_neg (Nat.not_lt_of_le h)

theorem offsetAt_mono (h : p.before q) : t.offsetAt p ≤ t.offsetAt q := by
  rcases Nat.lt_or_ge q.line t.lineCount with hq | hq
  · rcases h with hline | ⟨hline, hbyte⟩
    · calc t.offsetAt p
          = t.lineStart p.line + (t.content p.line).charsWithin p.byte :=
            offsetAt_of_lt (Nat.lt_trans hline hq)
        _ ≤ t.lineStart p.line + (t.content p.line).length :=
            Nat.add_le_add_left (charsWithin_le_length _ _) _
        _ ≤ t.lineStart q.line := lineStart_add_content_le_lineStart hline hq
        _ ≤ t.lineStart q.line + (t.content q.line).charsWithin q.byte := Nat.le_add_right _ _
        _ = t.offsetAt q := (offsetAt_of_lt hq).symm
    · rw [offsetAt_of_lt (hline ▸ hq), offsetAt_of_lt hq, hline]
      exact Nat.add_le_add_left (charsWithin_mono _ (Nat.le_of_lt hbyte)) _
  · rw [offsetAt_of_lineCount_le hq]
    exact t.offsetAt_le_length p

/-- The position of an offset is a place between two characters of a line, and the offset, cut off
at the end of the text, can be told from it. Positions in order have offsets in order, and none lies
behind the end of the text. -/
theorem conversion_lossless (t : Text) :
    (∀ n, AtCharacter t (t.positionAt n) ∧ t.offsetAt (t.positionAt n) = min n t.length) ∧
      (∀ p q : Position, p.before q → t.offsetAt p ≤ t.offsetAt q) ∧
      ∀ p, t.offsetAt p ≤ t.length := by
  refine ⟨fun n => ⟨t.atCharacter_positionAt n, ?_⟩, fun p q => offsetAt_mono, t.offsetAt_le_length⟩
  rw [← positionAt_min_length]
  exact offsetAt_positionAt (Nat.min_le_right n t.length)

theorem conversion_lossless_outside :
    let t : Text := "\u00e9\r\nb".toList
    t.positionAt 2 = ⟨0, 3⟩ ∧ t.offsetAt ⟨0, 3⟩ = 2 ∧
      Position.before ⟨0, 1⟩ ⟨0, 9⟩ ∧ t.offsetAt ⟨0, 1⟩ = 0 ∧ t.offsetAt ⟨0, 1⟩ ≤ t.offsetAt ⟨0, 9⟩ ∧
      Position.before ⟨0, 9⟩ ⟨7, 0⟩ ∧ t.offsetAt ⟨0, 9⟩ ≤ t.offsetAt ⟨7, 0⟩ ∧
      t.offsetAt ⟨7, 0⟩ ≤ 4 := by
  intro t
  obtain ⟨hback, hmono, hle⟩ := conversion_lossless t
  have hposition : t.positionAt 2 = ⟨0, 3⟩ := by decide +kernel
  have hinside : Position.before ⟨0, 1⟩ ⟨0, 9⟩ := .inr ⟨rfl, by decide⟩
  have hbelow : Position.before ⟨0, 9⟩ ⟨7, 0⟩ := .inl (by decide)
  exact ⟨hposition, hposition ▸ (hback 2).2, hinside, by decide +kernel, hmono _ _ hinside, hbelow,
    hmono _ _ hbelow, hle _⟩

end ModalEditor.Text
