import Mathlib.Data.List.TakeWhile
import ModalEditor.Proofs.Text.Lines

namespace ModalEditor.Text

variable {t b k l s : Text} {pre post : List Text} {c : Char}

def body (l : Text) : Text :=
  l.takeWhile (!isLineBreak ·)

def breakOf (l : Text) : Text :=
  l.dropWhile (!isLineBreak ·)

def bodies (t : Text) : List Text :=
  t.lines.map body

def bodyAt (t : Text) (i : Nat) : Text :=
  body ((t.line? i).getD [])

def breakAt (t : Text) (i : Nat) : Text :=
  breakOf ((t.line? i).getD [])

def BehindReturn (t : Text) (i : Nat) : Prop :=
  (t.take (t.lineStart i)).getLast? = some '\r'

instance (t : Text) (i : Nat) : Decidable (t.BehindReturn i) :=
  inferInstanceAs (Decidable (_ = _))

theorem body_append_breakOf (l : Text) : body l ++ breakOf l = l :=
  List.takeWhile_append_dropWhile

theorem Break.exists_cons (h : Break k) : ∃ c ks, k = c :: ks ∧ isLineBreak c = true := by
  cases h with
  | pair => exact ⟨'\r', ['\n'], rfl, rfl⟩
  | single hc => exact ⟨_, [], rfl, hc⟩

theorem body_of_unbroken (hb : Unbroken b) : body b = b :=
  List.takeWhile_eq_self_iff.2 (by simpa [Unbroken] using hb)

theorem body_append (hb : Unbroken b) (hk : Break k) : body (b ++ k) = b := by
  obtain ⟨c, ks, rfl, hc⟩ := hk.exists_cons
  rw [body, List.takeWhile_append_of_pos (by simpa [Unbroken] using hb)]
  simp [hc]

theorem Ending.body_append (hb : Unbroken b) (hk : Ending k post) : body (b ++ k) = b := by
  cases hk with
  | last => rw [List.append_nil, body_of_unbroken hb]
  | «break» hk => exact Text.body_append hb hk

theorem Ending.breakOf_append (hb : Unbroken b) (hk : Ending k post) : breakOf (b ++ k) = k := by
  have hsplit := body_append_breakOf (b ++ k)
  rw [hk.body_append hb] at hsplit
  exact List.append_cancel_left hsplit

theorem Ending.dropLineFeed_cases (h : Ending k post) :
    (k = [] ∨ k = ['\n']) ∧ dropLineFeed k = [] ∨
      k = ['\r', '\n'] ∧ dropLineFeed k = ['\r'] ∨
      ∃ c, isLineBreak c = true ∧ c ≠ '\n' ∧ k = [c] ∧ dropLineFeed k = [c] := by
  cases h with
  | last => exact .inl ⟨.inl rfl, rfl⟩
  | «break» hk =>
    cases hk with
    | pair => exact .inr (.inl ⟨rfl, rfl⟩)
    | @single c hc =>
      by_cases hn : c = '\n'
      · subst hn
        exact .inl ⟨.inr rfl, rfl⟩
      · exact .inr (.inr ⟨c, hc, hn, rfl, by simp [dropLineFeed, hn]⟩)

theorem ending_lineFeed (hpost : Lined post) : Ending ['\n'] post :=
  .break (.single rfl) (by simp [Meet]) hpost

namespace HasLine

theorem bodies_eq (h : HasLine t pre b k post) :
    t.bodies = pre.map body ++ b :: post.map body := by
  rw [bodies, h.lines_eq, List.map_append, List.map_cons, h.ending.body_append h.unbroken]

theorem bodyAt_eq (h : HasLine t pre b k post) : t.bodyAt pre.length = b := by
  rw [bodyAt, h.line?_eq, Option.getD_some, h.ending.body_append h.unbroken]

theorem breakAt_eq (h : HasLine t pre b k post) : t.breakAt pre.length = k := by
  rw [breakAt, h.line?_eq, Option.getD_some, h.ending.breakOf_append h.unbroken]

theorem behindReturn_iff (h : HasLine t pre b k post) :
    t.BehindReturn pre.length ↔ pre.flatten.getLast? = some '\r' := by
  conv => lhs; rw [BehindReturn, h.lineStart_eq, h.eq_append, List.take_left]

theorem meet_lineFeed_iff (h : HasLine t pre b k post) :
    Meet pre.flatten ('\n' :: s) ↔ t.BehindReturn pre.length := by
  rw [h.behindReturn_iff, Meet]
  simp

theorem lines_insert_line (h : HasLine t pre b k post) {b' k' : Text} (hl : Ended l)
    (hlast : l.getLast? = some '\n') (hmeet : ¬ Meet pre.flatten l) (hb' : Unbroken b')
    (hk' : Ending k' post) :
    lines (pre.flatten ++ (l ++ (b' ++ k' ++ post.flatten))) = pre ++ l :: (b' ++ k') :: post := by
  have hrest : lines (b' ++ k' ++ post.flatten) = (b' ++ k') :: post :=
    (hk'.lined hb').lines_flatten
  rw [h.lines_flatten_append (by rwa [meet_append_right hl.ne_nil]),
    lines_ended_append hl (by simp [Meet, hlast]), hrest]

theorem lines_lineFeed (h : HasLine t pre b ['\r'] post) (s : Text) :
    lines (pre.flatten ++ (b ++ ['\r']) ++ '\n' :: s) =
      pre ++ (b ++ ['\r', '\n']) :: lines s := by
  have hlast : ¬ Meet (b ++ ['\r', '\n']) s := by simp [Meet]
  rw [List.append_assoc, h.lines_prefix_append (List.prefix_refl _) (by simp),
    ← lines_ended_append (.append h.unbroken .pair) hlast]
  simp

theorem lineCount_lineFeed (h : HasLine t pre b k post) (hr : t.BehindReturn pre.length) (s : Text) :
    lineCount (pre.flatten ++ '\n' :: s) = pre.length + s.lineCount := by
  rw [h.behindReturn_iff] at hr
  rcases List.eq_nil_or_concat' pre with rfl | ⟨pre, l, rfl⟩
  · simp at hr
  · obtain ⟨b', k', rfl, hline⟩ := h.exists_above
    obtain rfl : k' = ['\r'] := by
      cases hline.ending with
      | «break» hk' => cases hk' <;> simp_all
    have hlines := hline.lines_lineFeed s
    rw [lineCount, List.flatten_append, List.flatten_singleton, hlines]
    simp [lineCount, Nat.add_assoc, Nat.add_comm 1]

theorem lines_body (h : HasLine t pre b k post) {b' : Text} (hb' : Unbroken b')
    (hmeet : ¬ Meet pre.flatten (b' ++ k ++ post.flatten)) :
    lines (pre.flatten ++ (b' ++ k ++ post.flatten)) = pre ++ (b' ++ k) :: post := by
  rw [h.lines_flatten_append hmeet, h.lines_body_append hb']

theorem not_meet_body_append (h : HasLine t pre b k post) (hs : Unbroken s) :
    ¬ Meet pre.flatten (b ++ s ++ k ++ post.flatten) := by
  by_cases hempty : b ++ s = []
  · obtain ⟨rfl, rfl⟩ := List.append_eq_nil_iff.1 hempty
    exact h.not_meet
  · rw [List.append_assoc]
    exact not_meet_of_unbroken (unbroken_append.2 ⟨h.unbroken, hs⟩) hempty

end HasLine

end ModalEditor.Text
