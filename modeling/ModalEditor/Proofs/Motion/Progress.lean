import ModalEditor.Proofs.Motion.Counted
import ModalEditor.Proofs.Motion.Neighbour
import ModalEditor.Proofs.Text.Column

namespace ModalEditor

namespace Motion

def Advances [Segmentation] (t : Text) (p q : Position) : Motion → Prop
  | left => q.before p
  | right | nextWord | wordEnd => p.before q
  | up => q.line + 1 = p.line
  | down => q.line = p.line + 1
  | lineStart => q = ⟨p.line, 0⟩
  | lineEnd => q = ⟨p.line, t.contentLength p.line⟩

def Blocked [Segmentation] (t : Text) (p : Position) : Motion → Prop
  | left => p = .origin
  | right | nextWord => p = t.lastPosition
  | wordEnd => p.byte = t.contentLength p.line
  | up => p.line = 0
  | down => p.line + 1 = t.lineCount
  | lineStart | lineEnd => False

variable [Segmentation] {t : Text} {m : Motion} {p : Position}

theorem Blocked.not_advances (h : m.Blocked t p) : ¬ m.Advances t p p := by
  cases m with
  | left | right | nextWord | wordEnd => exact p.not_before_self
  | up | down => simp [Advances]
  | lineStart | lineEnd => exact h.elim

end Motion

namespace Text

open Cluster

variable [Segmentation] {t : Text} {p : Position}

theorem AtBoundary.eq_origin_or_left? (h : AtBoundary t p) :
    p = .origin ∨ ∃ q, t.left? p = some q ∧ AtBoundary t q ∧ q.before p :=
  h.eq_origin_or_adjacent.imp_right fun ⟨q, hadjacent⟩ =>
    ⟨q, hadjacent.left?_eq, hadjacent.left_atBoundary, hadjacent.before⟩

theorem AtBoundary.eq_last_or_right? (h : AtBoundary t p) :
    p = t.lastPosition ∨ ∃ q, t.right? p = some q ∧ AtBoundary t q ∧ p.before q :=
  h.eq_last_or_adjacent.imp_right fun ⟨q, hadjacent⟩ =>
    ⟨q, hadjacent.right?_eq, hadjacent.right_atBoundary, hadjacent.before⟩

theorem nextWord?_lastPosition (t : Text) : t.nextWord? t.lastPosition = none :=
  nextWord?_of_lastLine rfl (by simp only [lastPosition]; omega)

theorem AtBoundary.eq_last_or_nextWord? (h : AtBoundary t p) :
    p = t.lastPosition ∨ ∃ q, t.nextWord? p = some q ∧ AtBoundary t q ∧ p.before q := by
  rcases Nat.lt_or_eq_of_le h.byte_le with hlt | hend
  · have hword := firstWord_wordAfter h
    exact .inr ⟨_, nextWord?_of_lt hlt, hword.atBoundary,
      hword.of_forall (fun _ _ hr => hr) (before_lastPosition h.1 (.inl hlt))⟩
  · by_cases hline : p.line + 1 < t.lineCount
    · have hword := firstWord_wordAfter (atBoundary_lineStart hline)
      exact .inr ⟨_, nextWord?_of_lineEnd hend hline, hword.atBoundary,
        hword.of_forall (fun r hr hbehind => (hr.before_iff hend).2 (.inr hbehind))
          (before_lastPosition h.1 (.inr hline))⟩
    · exact .inl (eq_lastPosition_of_lineEnd h.1 hend hline)

theorem AtBoundary.lineEnd_or_wordEnd? (h : AtBoundary t p) :
    p.byte = t.contentLength p.line ∨
      ∃ q, t.wordEnd? p = some q ∧ AtBoundary t q ∧ p.before q := by
  obtain ⟨line, byte⟩ := p
  obtain ⟨hline, before, rest, hclusters, hbyte⟩ := h
  obtain rfl : byte = byteLength before.flatten := hbyte
  by_cases hne : rest = []
  · exact .inl (by rw [contentLength_eq, hclusters, hne, List.append_nil])
  · obtain ⟨blanks, run, after, hleading, hend⟩ := exists_leadingRun_of_clusters hclusters hne
    have hpassed : t.lineClusters line = before ++ ((blanks ++ run) ++ after) := by
      rw [hclusters, hleading.eq_append, List.append_assoc]
    exact .inr ⟨_, hend, ⟨hline, _, after, by rw [hpassed, ← List.append_assoc], rfl⟩,
      .inr ⟨rfl, byteLength_lt_append hpassed (hleading.passed_ne_nil hne)⟩⟩

end Text

namespace Motion

open Text

section

variable [Segmentation] {t : Text} {m : Motion} {w : Walker}

theorem step?_of_blocked (h : m.Blocked t w.position) : m.step? t w = none := by
  cases m with
  | left =>
    have hp : w.position = .origin := h
    rw [step?, hp, left?_origin, Option.map_none]
  | right =>
    have hp : w.position = t.lastPosition := h
    rw [step?, hp, right?_lastPosition, Option.map_none]
  | nextWord =>
    have hp : w.position = t.lastPosition := h
    rw [step?, hp, nextWord?_lastPosition, Option.map_none]
  | wordEnd => rw [step?, wordEnd?_of_le (Nat.le_of_eq h.symm), Option.map_none]
  | up => exact if_pos h
  | down => exact if_neg (Nat.not_lt_of_le (Nat.le_of_eq h.symm))
  | lineStart | lineEnd => exact h.elim

omit [Segmentation] in
theorem exists_moved {move : Option Position} {S : Position → Prop}
    (h : ∃ q, move = some q ∧ S q) :
    ∃ w', move.map ({ w with position := · }) = some w' ∧ S w'.position := by
  obtain ⟨q, rfl, hq⟩ := h
  exact ⟨{ w with position := q }, rfl, hq⟩

theorem blocked_or_advances (h : AtBoundary t w.position) (m : Motion) :
    m.Blocked t w.position ∨ ∃ w', m.step? t w = some w' ∧ AtBoundary t w'.position ∧
      m.Advances t w.position w'.position := by
  cases m with
  | left => exact h.eq_origin_or_left?.imp_right exists_moved
  | right => exact h.eq_last_or_right?.imp_right exists_moved
  | nextWord => exact h.eq_last_or_nextWord?.imp_right exists_moved
  | wordEnd => exact h.lineEnd_or_wordEnd?.imp_right exists_moved
  | up =>
    by_cases hline : w.position.line = 0
    · exact .inl hline
    · have hlt := Nat.lt_of_le_of_lt (Nat.sub_le w.position.line 1) h.1
      exact .inr ⟨_, if_neg hline, (lastWithin_atColumn hlt _).atBoundary,
        Nat.sub_add_cancel (Nat.pos_of_ne_zero hline)⟩
  | down =>
    by_cases hline : w.position.line + 1 < t.lineCount
    · exact .inr ⟨_, if_pos hline, (lastWithin_atColumn hline _).atBoundary, rfl⟩
    · exact .inl (Nat.le_antisymm h.1 (Nat.le_of_not_lt hline))
  | lineStart => exact .inr ⟨_, rfl, atBoundary_lineStart h.1, rfl⟩
  | lineEnd => exact .inr ⟨_, rfl, atBoundary_lineEnd h.1, rfl⟩

/-- From a boundary every motion, whatever column is aimed at, leads to a boundary. It succeeds just
when it has advanced in its way, and fails just where it is blocked; then it stays. -/
theorem step?_progress (h : AtBoundary t w.position) (m : Motion) :
    let q := ((m.step? t w).getD w).position
    AtBoundary t q ∧ ((m.step? t w).isSome ↔ m.Advances t w.position q) ∧
      (m.step? t w = none ↔ m.Blocked t w.position) ∧ (m.step? t w = none → q = w.position) := by
  rcases blocked_or_advances h m with hblocked | ⟨w', hstep, hboundary, hadvances⟩
  · have hstep := step?_of_blocked hblocked
    simp [hstep, h, hblocked, hblocked.not_advances]
  · have hfree : ¬ m.Blocked t w.position := fun hblocked => by
      rw [step?_of_blocked hblocked] at hstep
      cases hstep
    simp [hstep, hboundary, hadvances, hfree]

end

theorem step?_progress_down :
    let t : Text := "abc\na\u6f22".toList
    let w : Walker := ⟨⟨0, 1⟩, some 2⟩
    AtBoundary t w.position ∧ Motion.down.step? t w = some ⟨⟨1, 1⟩, some 2⟩ ∧
      AtBoundary t ⟨1, 1⟩ ∧ Motion.down.Advances t ⟨0, 1⟩ ⟨1, 1⟩ := by
  intro t w
  have hstart : AtBoundary t w.position :=
    ⟨by decide, [['a']], [['b'], ['c']], by decide +kernel, rfl⟩
  have hstep : Motion.down.step? t w = some ⟨⟨1, 1⟩, some 2⟩ := by decide +kernel
  obtain ⟨hboundary, hadvances, -, -⟩ := step?_progress hstart .down
  rw [hstep] at hboundary hadvances
  exact ⟨hstart, hstep, hboundary, hadvances.1 rfl⟩

end Motion

end ModalEditor
