import ModalEditor.Proofs.Text.Boundary

namespace ModalEditor

namespace Cluster

open Text

variable {gs before after rest : List Text} {g : Text} {start b : Nat}

theorem firstWord?_eq_some (h : firstWord? gs start = some b) :
    ∃ skipped g after, gs = skipped ++ g :: after ∧ (∀ x ∈ skipped, isWord x = false) ∧ isWord g ∧
      b = start + byteLength skipped.flatten := by
  induction gs generalizing start with
  | nil => cases h
  | cons g gs ih =>
    rw [firstWord?] at h
    split at h
    · rename_i hg
      exact ⟨[], g, gs, rfl, nofun, hg, (Option.some.inj h).symm⟩
    · rename_i hg
      obtain ⟨skipped, g', after, rfl, hskipped, hg', rfl⟩ := ih h
      refine ⟨g :: skipped, g', after, rfl, ?_, hg', by simp [Nat.add_assoc]⟩
      exact List.forall_mem_cons.2 ⟨by simpa using hg, hskipped⟩

theorem firstWord?_eq_none (h : firstWord? gs start = none) : ∀ g ∈ gs, isWord g = false := by
  induction gs generalizing start with
  | nil => nofun
  | cons g gs ih =>
    rw [firstWord?] at h
    split at h
    · cases h
    · rename_i hg
      exact List.forall_mem_cons.2 ⟨by simpa using hg, ih h⟩

theorem byteLength_skipped_le {skipped x after' : List Text} {g' : Text}
    (h : skipped ++ g' :: after' = x ++ g :: after) (hskipped : ∀ y ∈ skipped, isWord y = false)
    (hg : isWord g) : byteLength skipped.flatten ≤ byteLength x.flatten := by
  by_contra hlt
  obtain ⟨y, hy, rfl, hrest⟩ := exists_append_of_lt h.symm (Nat.lt_of_not_le hlt)
  obtain ⟨g'', y, rfl⟩ := List.exists_cons_of_ne_nil hy
  obtain rfl : g = g'' := (List.cons.inj hrest).1
  simp [hskipped g (by simp)] at hg

theorem dropWhile_isWord_append {x : List Text} (after : List Text) (hx : x ≠ [])
    (hlast : ∀ y ∈ x.getLast?, isWord y = false) :
    (x ++ after).dropWhile isWord = x.dropWhile isWord ++ after ∧
      (x ++ after).takeWhile isWord ++ x.dropWhile isWord = x := by
  have hne : x.dropWhile isWord ≠ [] := by
    rw [Ne, List.dropWhile_eq_nil_iff]
    intro hall
    have hword := hall _ (List.getLast_mem hx)
    rw [hlast _ (List.getLast?_eq_some_getLast hx)] at hword
    cases hword
  have hdrop : (x ++ after).dropWhile isWord = x.dropWhile isWord ++ after := by
    rw [List.dropWhile_append, if_neg (by simpa using hne)]
  refine ⟨hdrop, (List.append_left_inj after).1 ?_⟩
  rw [List.append_assoc, ← hdrop, List.takeWhile_append_dropWhile]

end Cluster

namespace Position

theorem before_asymm {p q : Position} (h : p.before q) : ¬ q.before p := by
  simp only [before] at *
  omega

theorem not_before_self (p : Position) : ¬ p.before p := fun h => before_asymm h h

theorem eq_of_not_before {p q : Position} (h : ¬ p.before q) (h' : ¬ q.before p) : p = q := by
  obtain ⟨line, byte⟩ := p
  obtain ⟨line', byte'⟩ := q
  simp only [before] at h h'
  rw [mk.injEq]
  omega

end Position

namespace Text

open Cluster

section

variable [Segmentation] {t : Text} {p q r last : Position} {before rest ls : List Text} {b i : Nat}

/-- At a word cluster that starts the line or stands behind a cluster that is none. -/
def WordBegins (t : Text) (p : Position) : Prop :=
  ∃ before g after, t.lineClusters p.line = before ++ g :: after ∧
    p.byte = byteLength before.flatten ∧ isWord g ∧ ∀ x ∈ before.getLast?, isWord x = false

def lastPosition (t : Text) : Position :=
  ⟨t.lineCount - 1, t.contentLength (t.lineCount - 1)⟩

/-- The first of these places at which a word begins; the end of the text when there is none. -/
inductive FirstWord (t : Text) (S : Position → Prop) : Position → Prop
  | word {q : Position} : WordBegins t q → S q → (∀ r, WordBegins t r → S r → ¬ r.before q) →
      FirstWord t S q
  | none : (∀ r, WordBegins t r → ¬ S r) → FirstWord t S t.lastPosition

theorem FirstWord.congr {S S' : Position → Prop} (h : FirstWord t S q)
    (hS : ∀ r, WordBegins t r → (S r ↔ S' r)) : FirstWord t S' q := by
  cases h with
  | word hq hSq hfirst =>
    exact .word hq ((hS q hq).1 hSq) fun r hr hSr => hfirst r hr ((hS r hr).2 hSr)
  | none hnone => exact .none fun r hr hSr => hnone r hr ((hS r hr).2 hSr)

theorem WordBegins.line_lt (h : WordBegins t p) : p.line < t.lineCount := by
  obtain ⟨before, g, after, hline, -⟩ := h
  exact lt_lineCount_of_lineClusters_ne_nil (by simp [hline])

theorem WordBegins.byte_lt (h : WordBegins t p) : p.byte < t.contentLength p.line := by
  obtain ⟨before, g, after, hline, hbyte, -⟩ := h
  rw [hbyte]
  exact byteLength_lt_contentLength hline (List.cons_ne_nil g after)

theorem WordBegins.exists_dropWhile {c : Nat} (h : WordBegins t ⟨i, c⟩)
    (hline : t.lineClusters i = before ++ rest) (hlt : byteLength before.flatten < c) :
    ∃ y g after, rest.dropWhile isWord = y ++ g :: after ∧ isWord g ∧
      c = byteLength before.flatten + byteLength (rest.takeWhile isWord).flatten +
        byteLength y.flatten := by
  obtain ⟨before', g, after, hline', rfl, hg, hlast⟩ := h
  obtain ⟨x, hx, rfl, rfl⟩ := exists_append_of_lt (hline.symm.trans hline') hlt
  rw [List.getLast?_append_of_ne_nil _ hx] at hlast
  obtain ⟨hdrop, htake⟩ := dropWhile_isWord_append (g :: after) hx hlast
  refine ⟨_, g, after, hdrop, hg, ?_⟩
  rw [Nat.add_assoc, ← byteLength_append, ← List.flatten_append, htake, List.flatten_append,
    byteLength_append]

theorem wordBegins_of_firstWord? (hline : t.lineClusters i = before ++ rest)
    (hsome : firstWord? (rest.dropWhile isWord)
      (byteLength before.flatten + byteLength (rest.takeWhile isWord).flatten) = some b) :
    WordBegins t ⟨i, b⟩ ∧ byteLength before.flatten < b ∧
      ∀ c, WordBegins t ⟨i, c⟩ → byteLength before.flatten < c → b ≤ c := by
  obtain ⟨skipped, g, after, hsplit, hskipped, hg, rfl⟩ := firstWord?_eq_some hsome
  have hne : skipped ≠ [] := by
    rintro rfl
    have hhead := List.head?_dropWhile_not isWord rest
    simp [hsplit, hg] at hhead
  have hclusters : t.lineClusters i =
      before ++ (rest.takeWhile isWord ++ skipped) ++ g :: after := by
    rw [hline, List.append_assoc, List.append_assoc, ← hsplit, List.takeWhile_append_dropWhile]
  refine ⟨⟨before ++ (rest.takeWhile isWord ++ skipped), g, after, hclusters, ?_, hg, ?_⟩, ?_, ?_⟩
  · simp [Nat.add_assoc]
  · intro x hx
    rw [List.getLast?_append_of_ne_nil _ (by simp [hne]),
      List.getLast?_append_of_ne_nil _ hne] at hx
    exact hskipped x (List.mem_of_getLast? hx)
  · obtain ⟨y, skipped, rfl⟩ := List.exists_cons_of_ne_nil hne
    have hy : 0 < byteLength y :=
      byteLength_pos (t.lineClusters_ne_nil (i := i) (by simp [hclusters]))
    rw [List.flatten_cons, byteLength_append]
    omega
  · intro c hc hlt
    obtain ⟨x, g', after', hsplit', hg', rfl⟩ := hc.exists_dropWhile hline hlt
    exact Nat.add_le_add_left
      (byteLength_skipped_le (hsplit.symm.trans hsplit') hskipped hg') _

theorem not_wordBegins_of_firstWord? (hline : t.lineClusters i = before ++ rest)
    (hnone : firstWord? (rest.dropWhile isWord) b = none) {c : Nat} (hc : WordBegins t ⟨i, c⟩) :
    c ≤ byteLength before.flatten := by
  by_contra hlt
  obtain ⟨x, g, after, hsplit, hg, -⟩ := hc.exists_dropWhile hline (Nat.lt_of_not_le hlt)
  rw [firstWord?_eq_none hnone g (by simp [hsplit])] at hg
  cases hg

theorem wordBegins_first (hsome : firstWord? (t.lineClusters i) 0 = some b) :
    WordBegins t ⟨i, b⟩ ∧ ∀ c, WordBegins t ⟨i, c⟩ → b ≤ c := by
  obtain ⟨skipped, g, after, hsplit, hskipped, hg, rfl⟩ := firstWord?_eq_some hsome
  refine ⟨⟨skipped, g, after, hsplit, Nat.zero_add _, hg, ?_⟩, ?_⟩
  · exact fun x hx => hskipped x (List.mem_of_getLast? hx)
  · rintro c ⟨before, g', after', hsplit', rfl, hg', -⟩
    rw [Nat.zero_add]
    exact byteLength_skipped_le (hsplit.symm.trans hsplit') hskipped hg'

theorem not_wordBegins (hnone : firstWord? (t.lineClusters i) 0 = none) (c : Nat) :
    ¬ WordBegins t ⟨i, c⟩ := by
  rintro ⟨before, g, after, hsplit, -, hg, -⟩
  rw [firstWord?_eq_none hnone g (by simp [hsplit])] at hg
  cases hg

omit [Segmentation] in
theorem eq_lastPosition (h : i < t.lineCount)
    (hnil : (t.lines.drop (i + 1)).map dropLineFeed = []) :
    ⟨i, t.contentLength i⟩ = t.lastPosition := by
  have hlength : t.lines.length ≤ i + 1 := by simpa using hnil
  rw [← lineCount] at hlength
  rw [lastPosition, show t.lineCount - 1 = i by omega]

omit [Segmentation] in
theorem eq_lastPosition_of_lineEnd (h : p.line < t.lineCount)
    (hend : p.byte = t.contentLength p.line) (hline : ¬ p.line + 1 < t.lineCount) :
    p = t.lastPosition := by
  have hlast : t.lineCount - 1 = p.line := by omega
  rw [lastPosition, hlast, ← hend]

theorem firstWord_wordBelow (hls : ls = (t.lines.drop i).map dropLineFeed)
    (hlast : ls = [] → last = t.lastPosition) :
    FirstWord t (i ≤ ·.line) (wordBelow ls i last) := by
  induction ls generalizing i last with
  | nil =>
    have hi : t.lines.length ≤ i := by simpa using hls.symm
    rw [wordBelow, hlast rfl]
    exact .none fun r hr => Nat.not_le_of_lt (Nat.lt_of_lt_of_le hr.line_lt hi)
  | cons l ls ih =>
    have hi : i < t.lines.length := by
      by_contra hle
      simp [List.drop_eq_nil_of_le (Nat.le_of_not_lt hle)] at hls
    rw [← List.getElem_cons_drop hi, List.map_cons, List.cons.injEq] at hls
    have hl : l = t.content i := by
      rw [hls.1, content, line?, List.getElem?_eq_getElem hi]
    subst hl
    rw [wordBelow]
    cases hword : firstWord? (t.content i).clusters 0 with
    | some b =>
      obtain ⟨hb, hfirst⟩ := wordBegins_first hword
      refine .word hb (Nat.le_refl i) fun r hr hir hbefore => ?_
      obtain ⟨line, c⟩ := r
      rcases hbefore with hlt | ⟨rfl, hlt⟩
      · exact Nat.not_le_of_lt hlt hir
      · exact Nat.not_le_of_lt hlt (hfirst c hr)
    | none =>
      refine (ih hls.2 fun hnil => ?_).congr fun r hr => ?_
      · exact eq_lastPosition hi (hls.2.symm.trans hnil)
      · refine ⟨Nat.le_of_succ_le, fun hle => Nat.lt_of_le_of_ne hle ?_⟩
        rintro rfl
        exact not_wordBegins hword r.byte hr

def wordAfter (t : Text) (p : Position) : Position :=
  let gs := restFrom (t.lineClusters p.line) p.byte
  let word := gs.takeWhile isWord
  match firstWord? (gs.dropWhile isWord) (p.byte + byteLength word.flatten) with
  | some b => ⟨p.line, b⟩
  | none =>
    wordBelow ((t.lines.drop (p.line + 1)).map dropLineFeed) (p.line + 1)
      ⟨p.line, t.contentLength p.line⟩

theorem firstWord_wordAfter (h : AtBoundary t p) : FirstWord t p.before (t.wordAfter p) := by
  obtain ⟨hline, before, rest, hclusters, hbyte⟩ := h
  simp only [wordAfter, hbyte, restFrom_lineClusters hclusters]
  cases hword : firstWord? (rest.dropWhile isWord)
      (byteLength before.flatten + byteLength (rest.takeWhile isWord).flatten) with
  | some b =>
    obtain ⟨hb, hlt, hfirst⟩ := wordBegins_of_firstWord? hclusters hword
    rw [← hbyte] at hlt hfirst
    refine .word hb (.inr ⟨rfl, hlt⟩) fun ⟨line, c⟩ hr hpr hbefore => ?_
    rcases hpr with hp | ⟨rfl, hp⟩
    · rcases hbefore with hlt' | ⟨rfl, -⟩
      · exact Nat.lt_asymm hp hlt'
      · exact Nat.lt_irrefl _ hp
    · rcases hbefore with hlt' | ⟨-, hlt'⟩
      · exact Nat.lt_irrefl _ hlt'
      · exact Nat.not_le_of_lt hlt' (hfirst c hr hp)
  | none =>
    refine (firstWord_wordBelow rfl (eq_lastPosition hline)).congr fun ⟨line, c⟩ hr => ?_
    refine ⟨.inl, fun hbefore => ?_⟩
    rcases hbefore with hlt | ⟨rfl, hlt⟩
    · exact hlt
    · rw [hbyte] at hlt
      exact absurd (not_wordBegins_of_firstWord? hclusters hword hr) (Nat.not_le_of_lt hlt)

theorem nextWord?_of_lt (h : p.byte < t.contentLength p.line) :
    t.nextWord? p = some (t.wordAfter p) := by
  rw [nextWord?, if_pos h]
  rfl

theorem nextWord?_of_lineEnd (h : p.byte = t.contentLength p.line)
    (hline : p.line + 1 < t.lineCount) :
    t.nextWord? p = some (t.wordAfter ⟨p.line + 1, 0⟩) := by
  rw [nextWord?, if_neg (Nat.not_lt_of_le (Nat.le_of_eq h.symm)), if_pos hline]
  rfl

theorem nextWord?_of_lastLine (h : p.byte = t.contentLength p.line)
    (hline : ¬ p.line + 1 < t.lineCount) : t.nextWord? p = none := by
  rw [nextWord?, if_neg (Nat.not_lt_of_le (Nat.le_of_eq h.symm)), if_neg hline]
  rfl

theorem WordBegins.before_iff (hr : WordBegins t r) (h : p.byte = t.contentLength p.line) :
    p.before r ↔ r = ⟨p.line + 1, 0⟩ ∨ Position.before ⟨p.line + 1, 0⟩ r := by
  obtain ⟨line, byte⟩ := r
  constructor
  · rintro (hlt | ⟨rfl, hlt⟩)
    · rcases Nat.lt_or_eq_of_le (Nat.succ_le_of_lt hlt) with hlt | rfl
      · exact .inr (.inl hlt)
      · rcases Nat.eq_zero_or_pos byte with rfl | hpos
        · exact .inl rfl
        · exact .inr (.inr ⟨rfl, hpos⟩)
    · exact absurd hlt (Nat.not_lt_of_lt (h ▸ hr.byte_lt))
  · rintro (heq | hlt | ⟨rfl, -⟩)
    · exact .inl (by simp [(Position.mk.inj heq).1])
    · exact .inl (Nat.lt_of_succ_lt hlt)
    · exact .inl (Nat.lt_succ_self _)

namespace FirstWord

variable {S : Position → Prop} {q' : Position}

theorem unique (h : FirstWord t S q) (h' : FirstWord t S q') : q = q' := by
  cases h with
  | word hq hS hfirst =>
    cases h' with
    | word hq' hS' hfirst' => exact Position.eq_of_not_before (hfirst' q hq hS) (hfirst q' hq' hS')
    | none hnone => exact absurd hS (hnone q hq)
  | none hnone =>
    cases h' with
    | word hq' hS' => exact absurd hS' (hnone q' hq')
    | none => rfl

theorem of_forall {P : Position → Prop} (h : FirstWord t S q)
    (hS : ∀ r, WordBegins t r → S r → P r) (hlast : P t.lastPosition) : P q := by
  cases h with
  | word hq hSq => exact hS q hq hSq
  | none => exact hlast

theorem ne_of_wordBegins (h : FirstWord t p.before q) (hp : WordBegins t p) : q ≠ p := by
  rintro rfl
  cases h with
  | word _ hbefore => exact q.not_before_self hbefore
  | none => exact Nat.lt_irrefl _ hp.byte_lt

end FirstWord

omit [Segmentation] in
theorem before_lastPosition (h : p.line < t.lineCount)
    (hp : p.byte < t.contentLength p.line ∨ p.line + 1 < t.lineCount) :
    p.before t.lastPosition := by
  by_cases hline : p.line + 1 < t.lineCount
  · exact .inl (Nat.lt_sub_of_add_lt hline)
  · have hlast : p.line = t.lineCount - 1 := by omega
    refine .inr ⟨hlast, ?_⟩
    rw [lastPosition, ← hlast]
    exact hp.resolve_right hline

theorem firstWord_of_lineEnd (hend : p.byte = t.contentLength p.line)
    (hstart : WordBegins t ⟨p.line + 1, 0⟩) : FirstWord t p.before ⟨p.line + 1, 0⟩ := by
  refine .word hstart (.inl (Nat.lt_succ_self _)) fun r hr hbefore => ?_
  rcases (hr.before_iff hend).1 hbefore with rfl | hbefore
  · exact Position.not_before_self _
  · exact Position.before_asymm hbefore

theorem firstWord_of_lastLine (h : p.line < t.lineCount) (hend : p.byte = t.contentLength p.line)
    (hline : ¬ p.line + 1 < t.lineCount) : FirstWord t p.before p := by
  have hp := eq_lastPosition_of_lineEnd h hend hline
  have hnone : ∀ r, WordBegins t r → ¬ p.before r := by
    intro r hr hbefore
    have hlt := hr.line_lt
    rcases (hr.before_iff hend).1 hbefore with rfl | hlt' | ⟨heq, -⟩
    · exact hline hlt
    · exact hline (Nat.lt_trans hlt' hlt)
    · exact hline (lt_of_eq_of_lt heq hlt)
  rw [hp] at hnone ⊢
  exact .none hnone

/-- From a boundary the motion goes to the first word behind it, or to the end of the text, and
fails only there; except from the end of a line when a word starts the line below: then it goes to
the first word behind the start of that one. -/
theorem nextWord?_iff (h : AtBoundary t p) :
    (FirstWord t p.before ((t.nextWord? p).getD p) ↔
      ¬ (p.byte = t.contentLength p.line ∧ WordBegins t ⟨p.line + 1, 0⟩)) ∧
    (p.byte = t.contentLength p.line → WordBegins t ⟨p.line + 1, 0⟩ →
      FirstWord t (Position.before ⟨p.line + 1, 0⟩) ((t.nextWord? p).getD p)) ∧
    ((t.nextWord? p).isSome ↔ (t.nextWord? p).getD p ≠ p) := by
  rcases Nat.lt_or_eq_of_le h.byte_le with hlt | hend
  · have hword := firstWord_wordAfter h
    have hne : t.wordAfter p ≠ p := by
      have hbefore := hword.of_forall (fun _ _ hr => hr) (before_lastPosition h.1 (.inl hlt))
      exact fun heq => p.not_before_self (by rwa [heq] at hbefore)
    simp [nextWord?_of_lt hlt, hword, hne, Nat.ne_of_lt hlt]
  · by_cases hline : p.line + 1 < t.lineCount
    · have hword := firstWord_wordAfter (atBoundary_lineStart hline)
      have hfirst : FirstWord t p.before (t.wordAfter ⟨p.line + 1, 0⟩) ↔
          ¬ WordBegins t ⟨p.line + 1, 0⟩ := by
        constructor
        · intro hword' hstart
          exact hword.ne_of_wordBegins hstart (hword'.unique (firstWord_of_lineEnd hend hstart))
        · intro hstart
          refine hword.congr fun r hr => ?_
          rw [hr.before_iff hend, or_iff_right]
          rintro rfl
          exact hstart hr
      have hne : t.wordAfter ⟨p.line + 1, 0⟩ ≠ p := by
        have hbefore := hword.of_forall (fun r hr hbehind => (hr.before_iff hend).2 (.inr hbehind))
          (before_lastPosition h.1 (.inr hline))
        exact fun heq => p.not_before_self (by rwa [heq] at hbefore)
      simp [nextWord?_of_lineEnd hend hline, hword, hfirst, hne, hend]
    · have hword := firstWord_of_lastLine h.1 hend hline
      have hstart : ¬ WordBegins t ⟨p.line + 1, 0⟩ := fun hr => hline hr.line_lt
      simp [nextWord?_of_lastLine hend hline, hword, hstart]

end

theorem nextWord?_iff_below :
    let t : Text := "ab, \n\n-c".toList
    AtBoundary t ⟨0, 1⟩ ∧ t.nextWord? ⟨0, 1⟩ = some ⟨2, 1⟩ ∧
      FirstWord t (Position.before ⟨0, 1⟩) ⟨2, 1⟩ := by
  intro t
  have hboundary : AtBoundary t ⟨0, 1⟩ :=
    ⟨by decide, [['a']], [['b'], [','], [' ']], by decide +kernel, by decide⟩
  have hnext : t.nextWord? ⟨0, 1⟩ = some ⟨2, 1⟩ := by decide +kernel
  have hfirst := (nextWord?_iff hboundary).1.2 fun hend => absurd hend.1 (by decide)
  rw [hnext] at hfirst
  exact ⟨hboundary, hnext, hfirst⟩

/-- From an empty line the motion misses the word that the line below starts with. -/
theorem exists_nextWord?_not_first :
    let t : Text := "\na b".toList
    AtBoundary t ⟨0, 0⟩ ∧ t.nextWord? ⟨0, 0⟩ = some ⟨1, 2⟩ ∧
      ¬ FirstWord t (Position.before ⟨0, 0⟩) ⟨1, 2⟩ ∧
      FirstWord t (Position.before ⟨0, 0⟩) ⟨1, 0⟩ := by
  intro t
  have hstart : WordBegins t ⟨1, 0⟩ :=
    ⟨[], ['a'], [[' '], ['b']], by decide +kernel, rfl, by decide +kernel, nofun⟩
  have hfirst : FirstWord t (Position.before ⟨0, 0⟩) ⟨1, 0⟩ :=
    firstWord_of_lineEnd (p := ⟨0, 0⟩) (by decide) hstart
  exact ⟨atBoundary_lineStart (by decide), by decide +kernel,
    fun h => absurd (h.unique hfirst) (by decide), hfirst⟩

end Text

end ModalEditor
