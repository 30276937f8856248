import Mathlib.Data.List.Chain
import ModalEditor.Proofs.Motion.Neighbour

namespace ModalEditor

/-- Until it fails, the step leads from the place through just these places. -/
inductive Visits {α : Type} (step : α → Option α) : α → List α → Prop
  | stop {a : α} : step a = none → Visits step a [a]
  | go {a b : α} {l : List α} : step a = some b → Visits step b l → Visits step a (a :: l)

theorem Visits.of_isChain {α : Type} {step : α → Option α} {a : α} {l : List α}
    (hchain : l.IsChain (step · = some ·)) (hhead : l.head? = some a)
    (hlast : ∀ z ∈ l.getLast?, step z = none) : Visits step a l := by
  induction l generalizing a with
  | nil => cases hhead
  | cons b l ih =>
    obtain rfl : b = a := Option.some.inj hhead
    cases l with
    | nil => exact .stop (hlast b rfl)
    | cons c l =>
      obtain ⟨hstep, hchain⟩ := List.isChain_cons_cons.1 hchain
      exact .go hstep (ih hchain rfl fun z hz => hlast z (by simpa using hz))

instance : IsTrans Position Position.before where
  trans p q r hpq hqr := by
    simp only [Position.before] at *
    omega

namespace Text

open Cluster

section

variable [Segmentation] {t : Text} {p q : Position} {i n : Nat} {before gs : List Text}

def placesOn (t : Text) (i : Nat) : List Position :=
  (starts (t.lineClusters i) 0 ++ [t.contentLength i]).map (⟨i, ·⟩)

def places (t : Text) : List Position :=
  (List.range t.lineCount).flatMap t.placesOn

omit [Segmentation] in
theorem mem_starts_append_iff (gs : List Text) (start b : Nat) :
    b ∈ starts gs start ++ [start + byteLength gs.flatten] ↔
      ∃ before after, gs = before ++ after ∧ b = start + byteLength before.flatten := by
  rw [List.mem_append, List.mem_singleton]
  constructor
  · rintro (h | rfl)
    · exact exists_of_mem_starts h
    · exact ⟨gs, [], (List.append_nil gs).symm, rfl⟩
  · rintro ⟨before, after, rfl, rfl⟩
    cases after with
    | nil => exact .inr (by simp)
    | cons g after => exact .inl (by simp [starts_append, starts])

theorem mem_placesOn : p ∈ t.placesOn i ↔ p.line = i ∧ ∃ before after,
    t.lineClusters i = before ++ after ∧ p.byte = byteLength before.flatten := by
  have hmem (b : Nat) := mem_starts_append_iff (t.lineClusters i) 0 b
  simp only [Nat.zero_add, ← contentLength_eq] at hmem
  simp only [placesOn, List.mem_map, hmem]
  constructor
  · rintro ⟨b, hb, rfl⟩
    exact ⟨rfl, hb⟩
  · rintro ⟨rfl, hb⟩
    exact ⟨p.byte, hb, rfl⟩

theorem mem_places : p ∈ t.places ↔ AtBoundary t p := by
  simp only [places, List.mem_flatMap, List.mem_range, mem_placesOn]
  constructor
  · rintro ⟨i, hi, rfl, hp⟩
    exact ⟨hi, hp⟩
  · rintro ⟨hline, hp⟩
    exact ⟨p.line, hline, rfl, hp⟩

theorem isChain_starts (h : t.lineClusters i = before ++ gs) :
    ((starts gs (byteLength before.flatten) ++ [t.contentLength i]).map (Position.mk i)).IsChain
      (Adjacent t) := by
  induction gs generalizing before with
  | nil => exact .singleton _
  | cons g gs ih =>
    have hclusters : t.lineClusters i = (before ++ [g]) ++ gs := by simpa using h
    have hrest := ih hclusters
    have hbyte : byteLength (before ++ [g]).flatten = byteLength before.flatten + byteLength g := by
      simp
    have hstep := Adjacent.cluster h
    rw [hbyte] at hrest hstep
    refine List.isChain_cons.2 ⟨fun q hq => ?_, hrest⟩
    -- What comes next is the start of the next cluster, or the end of the line: the same byte.
    cases gs with
    | nil =>
      rw [contentLength_eq, h, hbyte] at hq
      exact Option.some.inj hq ▸ hstep
    | cons g' gs => exact Option.some.inj hq ▸ hstep

theorem isChain_placesOn (t : Text) (i : Nat) : (t.placesOn i).IsChain (Adjacent t) :=
  isChain_starts (List.nil_append (t.lineClusters i)).symm

theorem head?_placesOn (t : Text) (i : Nat) : (t.placesOn i).head? = some ⟨i, 0⟩ := by
  rw [placesOn, contentLength_eq]
  cases t.lineClusters i <;> rfl

theorem getLast?_placesOn (t : Text) (i : Nat) :
    (t.placesOn i).getLast? = some ⟨i, t.contentLength i⟩ := by
  simp [placesOn]

theorem getLast?_flatMap_placesOn (t : Text) (n : Nat) :
    ((List.range (n + 1)).flatMap t.placesOn).getLast? = some ⟨n, t.contentLength n⟩ := by
  rw [List.range_succ, List.flatMap_append, List.flatMap_singleton, List.getLast?_append,
    getLast?_placesOn, Option.some_or]

theorem isChain_flatMap_placesOn (h : n ≤ t.lineCount) :
    ((List.range n).flatMap t.placesOn).IsChain (Adjacent t) := by
  induction n with
  | zero => exact .nil
  | succ n ih =>
    rw [List.range_succ, List.flatMap_append, List.flatMap_singleton, List.isChain_append]
    refine ⟨ih (Nat.le_of_succ_le h), t.isChain_placesOn n, fun p hp q hq => ?_⟩
    rw [head?_placesOn] at hq
    cases n with
    | zero => cases hp
    | succ n =>
      rw [getLast?_flatMap_placesOn] at hp
      cases hp
      cases hq
      exact .line h

theorem getLast?_places (t : Text) : t.places.getLast? = some t.lastPosition := by
  obtain ⟨n, hn⟩ := Nat.exists_eq_succ_of_ne_zero (Nat.ne_of_gt t.lineCount_pos)
  rw [places, lastPosition, hn, getLast?_flatMap_placesOn]
  rfl

theorem head?_places (t : Text) : t.places.head? = some .origin := by
  obtain ⟨n, hn⟩ := Nat.exists_eq_succ_of_ne_zero (Nat.ne_of_gt t.lineCount_pos)
  rw [places, hn, List.range_succ_eq_map, List.flatMap_cons, List.head?_append, head?_placesOn,
    Option.some_or]
  rfl

theorem isChain_places (t : Text) : t.places.IsChain (Adjacent t) :=
  isChain_flatMap_placesOn (Nat.le_refl _)

/-- Steps to the right lead from the start of the text through all boundaries, each one once and in
their order, to the end of the text. Steps to the left lead from there through all of them backwards.
A step that is possible is taken back by the one the other way. -/
theorem places_tour (t : Text) :
    Visits t.right? .origin t.places ∧ Visits t.left? t.lastPosition t.places.reverse ∧
      (∀ p, p ∈ t.places ↔ AtBoundary t p) ∧ t.places.Pairwise Position.before ∧
      t.places.head? = some .origin ∧ t.places.getLast? = some t.lastPosition ∧
      ∀ p, AtBoundary t p → ∀ q, (t.right? p = some q → t.left? q = some p) ∧
        (t.left? p = some q → t.right? q = some p) := by
  have hchain := t.isChain_places
  have hfirst := t.head?_places
  have hlast := t.getLast?_places
  refine ⟨.of_isChain (hchain.imp fun _ _ => Adjacent.right?_eq) hfirst ?_,
    .of_isChain ?_ (by rwa [List.head?_reverse]) ?_, fun p => mem_places, ?_, hfirst, hlast, ?_⟩
  · rintro z hz
    obtain rfl := Option.some.inj (hlast.symm.trans hz)
    exact t.right?_lastPosition
  · exact List.isChain_reverse.2 (hchain.imp fun _ _ => Adjacent.left?_eq)
  · rintro z hz
    rw [List.getLast?_reverse] at hz
    obtain rfl := Option.some.inj (hfirst.symm.trans hz)
    exact t.left?_origin
  · exact List.isChain_iff_pairwise.1 (hchain.imp fun _ _ => Adjacent.before)
  · exact fun p hp q => ⟨fun hq => (hp.right?_eq_some_iff.1 hq).left?_eq,
      fun hq => (hp.left?_eq_some_iff.1 hq).right?_eq⟩

end

theorem places_tour_lines :
    let t : Text := "e\u0301\r\n\n\u6f22".toList
    t.places = [⟨0, 0⟩, ⟨0, 3⟩, ⟨0, 4⟩, ⟨1, 0⟩, ⟨2, 0⟩, ⟨2, 3⟩] ∧
      Visits t.right? .origin t.places ∧ Visits t.left? ⟨2, 3⟩ t.places.reverse ∧
      AtBoundary t ⟨0, 4⟩ ∧ t.right? ⟨0, 4⟩ = some ⟨1, 0⟩ ∧ t.left? ⟨1, 0⟩ = some ⟨0, 4⟩ := by
  intro t
  obtain ⟨hright, hleft, hmem, -, -, -, hback⟩ := places_tour t
  have hplaces : t.places = [⟨0, 0⟩, ⟨0, 3⟩, ⟨0, 4⟩, ⟨1, 0⟩, ⟨2, 0⟩, ⟨2, 3⟩] := by decide +kernel
  have hlast : t.lastPosition = ⟨2, 3⟩ := by decide +kernel
  have hboundary : AtBoundary t ⟨0, 4⟩ := (hmem _).1 (by simp [hplaces])
  have hstep : t.right? ⟨0, 4⟩ = some ⟨1, 0⟩ := by decide +kernel
  exact ⟨hplaces, hright, hlast ▸ hleft, hboundary, hstep, (hback _ hboundary _).1 hstep⟩

end Text

end ModalEditor
