import ModalEditor.Text.Position

namespace ModalEditor.Text

theorem length_dropLineFeed_le (l : Text) : (dropLineFeed l).length ≤ l.length := by
  fun_induction dropLineFeed l with
  | case1 => exact Nat.le_refl _
  | case2 => exact Nat.zero_le _
  | case3 c cs _ ih => exact Nat.succ_le_succ ih

theorem length_content_le (t : Text) (i : Nat) :
    (t.content i).length ≤ ((t.lines.drop i).head?.getD []).length := by
  rw [content, line?, List.head?_drop]
  cases t.lines[i]? with
  | none => exact Nat.le_refl _
  | some l => exact length_dropLineFeed_le l

theorem lineStart_add_content_le (t : Text) (i : Nat) :
    t.lineStart i + (t.content i).length ≤ t.length := by
  have hsplit : (t.lines.take i).flatten ++ (t.lines.drop i).flatten = t := by
    rw [← List.flatten_append, List.take_append_drop, flatten_lines]
  have hlength := congrArg List.length hsplit
  have hcontent := t.length_content_le i
  rw [List.length_append] at hlength
  cases hrest : t.lines.drop i with
  | nil =>
    rw [hrest] at hlength hcontent
    simp only [lineStart, List.flatten_nil, List.head?_nil, Option.getD_none, List.length_nil] at *
    omega
  | cons l ls =>
    rw [hrest] at hlength hcontent
    simp only [lineStart, List.flatten_cons, List.head?_cons, Option.getD_some,
      List.length_append] at *
    omega

theorem offsetAt_le_length (t : Text) (p : Position) : t.offsetAt p ≤ t.length := by
  simp only [offsetAt]
  split
  · have hbyte := (t.content p.line).charsWithin_le_length p.byte
    have hline := t.lineStart_add_content_le p.line
    omega
  · exact Nat.le_refl _

theorem length_take_locate (ls : List Text) (n : Nat) :
    (ls.take (locate ls n).1).flatten.length + (locate ls n).2 = n := by
  fun_induction locate ls n with
  | case1 n => exact Nat.zero_add n
  | case2 l n => exact Nat.zero_add n
  | case3 l ls n _ hn => exact Nat.zero_add n
  | case4 l ls n _ hn i k hik ih =>
    rw [hik] at ih
    simp only [List.take_succ_cons, List.flatten_cons, List.length_append] at ih ⊢
    omega

theorem locate_lt_length {ls : List Text} (h : ls ≠ []) (n : Nat) :
    (locate ls n).1 < ls.length := by
  fun_induction locate ls n with
  | case1 n => exact absurd rfl h
  | case2 l n => exact Nat.zero_lt_one
  | case3 l ls n _ hn => exact Nat.zero_lt_succ _
  | case4 l ls n hls hn i k hik ih =>
    have hi := ih hls
    rw [hik] at hi
    exact Nat.succ_lt_succ hi

theorem locate_lt_or_last {ls : List Text} {n : Nat} (hn : n ≤ ls.flatten.length) {l : Text}
    (hl : ls[(locate ls n).1]? = some l) :
    (locate ls n).2 < l.length ∨ ls.getLast? = some l ∧ (locate ls n).2 = l.length := by
  fun_induction locate ls n with
  | case1 n => cases hl
  | case2 l' n =>
    obtain rfl := Option.some.inj hl
    rw [List.flatten_singleton] at hn
    rcases Nat.lt_or_eq_of_le hn with hlt | heq
    · exact .inl hlt
    · exact .inr ⟨rfl, heq⟩
  | case3 l' ls n _ hlt =>
    obtain rfl := Option.some.inj hl
    exact .inl hlt
  | case4 l' ls n hls hge i k hik ih =>
    rw [hik] at ih
    rw [List.flatten_cons, List.length_append] at hn
    rw [List.getLast?_cons_of_ne_nil hls]
    exact ih (Nat.sub_le_iff_le_add'.2 hn) hl

theorem length_le_dropLineFeed (l : Text) : l.length ≤ (dropLineFeed l).length + 1 := by
  fun_induction dropLineFeed l with
  | case1 => exact Nat.zero_le _
  | case2 => exact Nat.le_refl _
  | case3 c cs _ ih => exact Nat.succ_le_succ ih

theorem dropLineFeed_extendFirst {c : Char} {ls : List Text} (hc : c ≠ '\n')
    (hls : ∀ l, ls.getLast? = some l → dropLineFeed l = l) {l : Text}
    (h : (extendFirst c ls).getLast? = some l) : dropLineFeed l = l := by
  match ls with
  | [] =>
    obtain rfl := Option.some.inj h
    simp [dropLineFeed, hc]
  | [l'] =>
    obtain rfl := Option.some.inj h
    simp [dropLineFeed, hc, hls l' rfl]
  | l' :: m :: ls => exact hls l h

theorem dropLineFeed_getLast_lines {t l : Text} (h : t.lines.getLast? = some l) :
    dropLineFeed l = l := by
  fun_induction lines t generalizing l with
  | case1 =>
    obtain rfl := Option.some.inj h
    rfl
  | case2 cs ih =>
    rw [List.getLast?_cons_of_ne_nil (lines_ne_nil cs)] at h
    exact ih h
  | case3 c cs _ _ ih =>
    rw [List.getLast?_cons_of_ne_nil (lines_ne_nil cs)] at h
    exact ih h
  | case4 c cs _ hbreak ih =>
    refine dropLineFeed_extendFirst (fun hc => hbreak ?_) (fun l => ih) h
    rw [hc]
    rfl

theorem locate_le_content {t : Text} {n : Nat} (hn : n ≤ t.length) :
    (locate t.lines n).2 ≤ (t.content (locate t.lines n).1).length := by
  have hline := List.getElem?_eq_getElem (locate_lt_length t.lines_ne_nil n)
  simp only [content, line?, hline]
  rcases locate_lt_or_last (by rwa [flatten_lines]) hline with hlt | ⟨hlast, heq⟩
  · exact Nat.le_of_lt_succ (Nat.lt_of_lt_of_le hlt (length_le_dropLineFeed _))
  · rw [dropLineFeed_getLast_lines hlast]
    exact Nat.le_of_eq heq

theorem charsWithin_zero (t : Text) : t.charsWithin 0 = 0 := by
  cases t with
  | nil => rfl
  | cons c cs => exact if_neg (Nat.not_le_of_lt c.utf8Size_pos)

theorem offsetAt_lineStart {t : Text} {i : Nat} (h : i < t.lineCount) :
    t.offsetAt ⟨i, 0⟩ = t.lineStart i := by
  rw [offsetAt, if_pos h, charsWithin_zero]
  rfl

end ModalEditor.Text
