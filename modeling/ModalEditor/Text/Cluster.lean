import ModalEditor.Text.Basic
import ModalEditor.Unicode.ClusterBreak

/-! Grapheme clusters: what a reader takes for one character. A text is divided from left to right;
whether a character joins the cluster before it depends on its class and on what stands before. -/

namespace ModalEditor

open Unicode

namespace Cluster

inductive Conjunct
  | none
  | begun
  | linked
  deriving DecidableEq, Repr

structure Context where
  last : ClusterBreak
  pictograph : Bool
  oddIndicator : Bool
  conjunct : Conjunct
  deriving DecidableEq, Repr

namespace Context

def first (c : Char) : Context :=
  let k := ClusterBreak.ofChar c
  { last := k
    pictograph := k = .pictograph
    oddIndicator := k = .regionalIndicator
    conjunct := if k = .consonant then .begun else .none }

def conjunctAfter (x : Context) (c : Char) (k : ClusterBreak) : Conjunct :=
  if k = .consonant then .begun
  else if x.conjunct = .none then .none
  else if isConjunctLinker c then .linked
  else if k = .joiner ∨ k = .extend ∧ c.toNat ≠ 0x200C then x.conjunct
  else .none

def push (x : Context) (c : Char) : Context :=
  let k := ClusterBreak.ofChar c
  { last := k
    pictograph := k = .pictograph ||
      (x.pictograph && x.last ≠ .joiner && (k = .extend || k = .joiner))
    oddIndicator := k = .regionalIndicator && !x.oddIndicator
    conjunct := x.conjunctAfter c k }

def isolated : ClusterBreak → Bool
  | .carriageReturn | .lineFeed | .control => true
  | _ => false

def joins (x : Context) (k : ClusterBreak) : Bool :=
  match x.last, k with
  | .carriageReturn, .lineFeed => true
  | p, k =>
    if isolated p || isolated k then false
    else match p, k with
      | .leadingJamo, .leadingJamo | .leadingJamo, .vowelJamo
      | .leadingJamo, .openSyllable | .leadingJamo, .closedSyllable
      | .openSyllable, .vowelJamo | .openSyllable, .trailingJamo
      | .vowelJamo, .vowelJamo | .vowelJamo, .trailingJamo
      | .closedSyllable, .trailingJamo | .trailingJamo, .trailingJamo => true
      | _, .extend | _, .joiner | _, .spacingMark => true
      | .prepend, _ => true
      | .joiner, .pictograph => x.pictograph
      | .regionalIndicator, .regionalIndicator => x.oddIndicator
      | _, .consonant => x.conjunct = .linked
      | _, _ => false

end Context

def divide (x : Context) : Text → Text × List Text
  | [] => ([], [])
  | c :: cs =>
    let (g, gs) := divide (x.push c) cs
    if x.joins (ClusterBreak.ofChar c) then (c :: g, gs) else ([], (c :: g) :: gs)

theorem divide_flatten (x : Context) (t : Text) :
    (divide x t).1 ++ (divide x t).2.flatten = t := by
  induction t generalizing x with
  | nil => rfl
  | cons c cs ih =>
    have h := ih (x.push c)
    simp only [divide]
    split <;> simp [h]

theorem divide_ne_nil (x : Context) (t : Text) : ∀ g ∈ (divide x t).2, g ≠ [] := by
  induction t generalizing x with
  | nil => simp [divide]
  | cons c cs ih =>
    have h := ih (x.push c)
    simp only [divide]
    split
    · exact h
    · intro g hg
      simp only [List.mem_cons] at hg
      rcases hg with rfl | hg
      · simp
      · exact h g hg

end Cluster

namespace Text

def graphemes : Text → List Text
  | [] => []
  | c :: cs =>
    let (g, gs) := Cluster.divide (.first c) cs
    (c :: g) :: gs

@[simp] theorem flatten_graphemes (t : Text) : t.graphemes.flatten = t := by
  cases t with
  | nil => rfl
  | cons c cs => simp [graphemes, Cluster.divide_flatten]

theorem graphemes_ne_nil {t g : Text} (h : g ∈ t.graphemes) : g ≠ [] := by
  cases t with
  | nil => simp [graphemes] at h
  | cons c cs =>
    simp only [graphemes, List.mem_cons] at h
    rcases h with rfl | h
    · simp
    · exact Cluster.divide_ne_nil _ _ g h

end Text

end ModalEditor
