import ModalEditor.Text.Basic

/-! Patterns of characters, matched by backtracking. The ways in which a pattern can match are tried
in the order of its preference, until what follows the pattern matches as well. -/

namespace ModalEditor

inductive Pattern
  | one (accepts : Char → Bool)
  | many (accepts : Char → Bool)
  | seq (p q : Pattern)
  | alt (p q : Pattern)

namespace Pattern

/-- Lets the continuation go on behind the longest run at the front, or else behind a shorter one. -/
def matchRun {α : Type} (accepts : Char → Bool) :
    (Text → Text → Option α) → Text → Option α
  | next, [] => next [] []
  | next, c :: cs =>
    if accepts c then
      (matchRun accepts (fun s rest => next (c :: s) rest) cs).or (next [] (c :: cs))
    else next [] (c :: cs)

/-- Matches at the front of a text; the continuation gets what was matched and what is left. -/
def match? {α : Type} : Pattern → (Text → Text → Option α) → Text → Option α
  | one _, _, [] => none
  | one accepts, next, c :: cs => if accepts c then next [c] cs else none
  | many accepts, next, t => matchRun accepts next t
  | seq p q, next, t => p.match? (fun s rest => q.match? (fun s' => next (s ++ s')) rest) t
  | alt p q, next, t => (p.match? next t).or (q.match? next t)

def captures? : List Pattern → Text → Option (List Text)
  | [], t => if t.isEmpty then some [] else none
  | p :: ps, t => p.match? (fun s rest => (captures? ps rest).map (s :: ·)) t

inductive Matches : Pattern → Text → Prop
  | one {f c} : f c → Matches (one f) [c]
  | many {f s} : (∀ c ∈ s, f c) → Matches (many f) s
  | seq {p q s s'} : Matches p s → Matches q s' → Matches (seq p q) (s ++ s')
  | altLeft {p q s} : Matches p s → Matches (alt p q) s
  | altRight {p q s} : Matches q s → Matches (alt p q) s

def MatchesAll : List Pattern → List Text → Prop
  | [], [] => True
  | p :: ps, s :: ss => Matches p s ∧ MatchesAll ps ss
  | _, _ => False

theorem matchRun_eq_some {α : Type} {f : Char → Bool} {next : Text → Text → Option α} {t : Text}
    {a : α} (h : matchRun f next t = some a) :
    ∃ s rest, t = s ++ rest ∧ (∀ c ∈ s, f c) ∧ next s rest = some a := by
  induction t generalizing next with
  | nil => exact ⟨[], [], rfl, by simp, h⟩
  | cons c cs ih =>
    simp only [matchRun] at h
    split at h
    · rename_i hc
      rcases Option.or_eq_some_iff.1 h with h | ⟨-, h⟩
      · obtain ⟨s, rest, rfl, hs, hn⟩ := ih h
        exact ⟨c :: s, rest, rfl, by simpa [hc] using hs, hn⟩
      · exact ⟨[], c :: cs, rfl, by simp, h⟩
    · exact ⟨[], c :: cs, rfl, by simp, h⟩

theorem matchRun_append {α : Type} {f : Char → Bool} {next : Text → Text → Option α}
    {s rest : Text} {a : α} (hs : ∀ c ∈ s, f c) (hr : ∀ c ∈ rest.head?, ¬ f c)
    (h : next s rest = some a) : matchRun f next (s ++ rest) = some a := by
  induction s generalizing next with
  | nil =>
    cases rest with
    | nil => exact h
    | cons c cs =>
      have hc : ¬ f c := hr c rfl
      simpa [matchRun, hc] using h
  | cons c s ih =>
    have hc : f c := hs c List.mem_cons_self
    have hrun : matchRun f (fun s rest => next (c :: s) rest) (s ++ rest) = some a :=
      ih (fun d hd => hs d (List.mem_cons_of_mem c hd)) h
    simp [matchRun, hc, hrun]

theorem match?_eq_some {α : Type} {p : Pattern} {next : Text → Text → Option α} {t : Text}
    {a : α} (h : p.match? next t = some a) :
    ∃ s rest, t = s ++ rest ∧ Matches p s ∧ next s rest = some a := by
  induction p generalizing α next t with
  | one f =>
    cases t with
    | nil => simp [match?] at h
    | cons c cs =>
      simp only [match?] at h
      split at h
      · rename_i hc
        exact ⟨[c], cs, rfl, .one hc, h⟩
      · simp at h
  | many f =>
    obtain ⟨s, rest, ht, hs, hn⟩ := matchRun_eq_some h
    exact ⟨s, rest, ht, .many hs, hn⟩
  | seq p q ihp ihq =>
    obtain ⟨s, rest, rfl, hs, h⟩ := ihp h
    obtain ⟨s', rest', rfl, hs', h⟩ := ihq h
    exact ⟨s ++ s', rest', by simp, .seq hs hs', h⟩
  | alt p q ihp ihq =>
    rcases Option.or_eq_some_iff.1 h with h | ⟨-, h⟩
    · obtain ⟨s, rest, ht, hs, hn⟩ := ihp h
      exact ⟨s, rest, ht, .altLeft hs, hn⟩
    · obtain ⟨s, rest, ht, hs, hn⟩ := ihq h
      exact ⟨s, rest, ht, .altRight hs, hn⟩

theorem captures?_eq_some {ps : List Pattern} {t : Text} {parts : List Text}
    (h : captures? ps t = some parts) : t = parts.flatten ∧ MatchesAll ps parts := by
  induction ps generalizing t parts with
  | nil =>
    simp only [captures?] at h
    split at h
    · rename_i ht
      obtain rfl := Option.some.inj h
      exact ⟨List.isEmpty_iff.1 ht, trivial⟩
    · simp at h
  | cons p ps ih =>
    obtain ⟨s, rest, rfl, hs, h⟩ := match?_eq_some h
    obtain ⟨parts, hparts, rfl⟩ := Option.map_eq_some_iff.1 h
    obtain ⟨rfl, hall⟩ := ih hparts
    exact ⟨rfl, hs, hall⟩

end Pattern

end ModalEditor
