import Mathlib.Data.List.Infix
import Mathlib.Data.List.SplitBy
import ModalEditor.Proofs.Editor.WellFormed

namespace ModalEditor

inductive HistoryOperation
  | push (s : Snapshot)
  | pop
  | clear

namespace History

def stack (h : History) (s : Snapshot) : History :=
  match h with
  | [] => [s]
  | newest :: _ => if newest.text = s.text then h else s :: h

section

variable (push : History → Snapshot → History)

def step (h : History) : HistoryOperation → History
  | .push s => push h s
  | .pop => h.tail
  | .clear => []

def run (h : History) : List HistoryOperation → History
  | [] => h
  | x :: xs => run (h.step push x) xs

def pops (h : History) : List HistoryOperation → List (Option Snapshot)
  | [] => []
  | .pop :: xs => h.head? :: pops h.tail xs
  | x :: xs => pops (h.step push x) xs

end

/-- The first states of all stretches with one text. -/
def merged (ss : List Snapshot) : List Snapshot :=
  (ss.splitBy fun s s' => s.text == s'.text).filterMap List.head?

variable {h : History} {s : Snapshot} {ss : List Snapshot} {xs : List HistoryOperation}

theorem stack_of_ne (hs : ∀ x ∈ h.head?, x.text ≠ s.text) : h.stack s = s :: h := by
  match h with
  | [] => rfl
  | newest :: rest => rw [stack, if_neg (hs newest rfl)]

theorem push_take (h : History) (s : Snapshot) :
    push (h.take capacity) s = (h.stack s).take capacity := by
  match h with
  | [] => rfl
  | newest :: rest =>
    rw [stack, capacity, List.take_succ_cons, push]
    split
    · rfl
    · simp [capacity, List.take_take]

theorem foldl_push_take (h : History) (ss : List Snapshot) :
    ss.foldl push (h.take capacity) = (ss.foldl stack h).take capacity := by
  induction ss generalizing h with
  | nil => rfl
  | cons s ss ih => rw [List.foldl_cons, List.foldl_cons, push_take, ih]

theorem foldl_stack_stretch (hs : ∀ x ∈ h.head?, x.text ≠ s.text)
    (hss : ∀ s' ∈ ss, s.text = s'.text) : (s :: ss).foldl stack h = s :: h := by
  rw [List.foldl_cons, stack_of_ne hs]
  induction ss with
  | nil => rfl
  | cons s' ss ih =>
    obtain ⟨hs', hss⟩ := List.forall_mem_cons.1 hss
    rw [List.foldl_cons, stack, if_pos hs', ih hss]

structure Stretches (rs : List (List Snapshot)) : Prop where
  ne_nil : [] ∉ rs
  alike : ∀ r ∈ rs, ∀ s ∈ r, ∀ s' ∈ r, s.text = s'.text
  apart : rs.IsChain fun r r' => ∀ s ∈ r, ∀ s' ∈ r', s.text ≠ s'.text

theorem stretches_splitBy (ss : List Snapshot) :
    Stretches (ss.splitBy fun s s' => s.text == s'.text) := by
  have halike : ∀ r ∈ ss.splitBy (fun s s' => s.text == s'.text),
      ∀ s ∈ r, ∀ s' ∈ r, s.text = s'.text := by
    intro r hr
    have hchain : r.IsChain fun s s' => s.text = s'.text := by
      simpa using List.isChain_of_mem_splitBy hr
    have htrans : IsTrans Snapshot fun s s' => s.text = s'.text := ⟨fun _ _ _ => Eq.trans⟩
    exact (List.isChain_iff_pairwise.1 hchain).forall_of_forall (fun _ _ => rfl)
  refine ⟨List.nil_notMem_splitBy _ ss, halike, ?_⟩
  have hends := List.isChain_getLast_head_splitBy (fun s s' => s.text == s'.text) ss
  refine hends.imp_of_mem_imp fun r r' hr hr' hrr' s hs s' hs' => ?_
  obtain ⟨hne, hne', hlast⟩ := hrr'
  rw [halike r hr s hs _ (r.getLast_mem hne), halike r' hr' s' hs' _ (r'.head_mem hne')]
  simpa using hlast

theorem foldl_stack_stretches {rs : List (List Snapshot)} (hrs : Stretches rs)
    (hs : ∀ x ∈ h.head?, ∀ r ∈ rs.head?, ∀ s ∈ r, x.text ≠ s.text) :
    rs.flatten.foldl stack h = (rs.filterMap List.head?).reverse ++ h := by
  induction rs generalizing h with
  | nil => rfl
  | cons r rs ih =>
    obtain ⟨hne, halike, hapart⟩ := hrs
    match r with
    | [] => exact absurd List.mem_cons_self hne
    | s :: ss =>
      have hfirst : (s :: ss).foldl stack h = s :: h :=
        foldl_stack_stretch (fun x hx => hs x hx _ rfl s List.mem_cons_self)
          fun s' hs' => halike _ List.mem_cons_self s List.mem_cons_self s'
            (List.mem_cons_of_mem s hs')
      have hrest : Stretches rs :=
        ⟨fun hnil => hne (List.mem_cons_of_mem _ hnil),
          fun r hr => halike r (List.mem_cons_of_mem _ hr), hapart.tail⟩
      have hnext : ∀ x ∈ (s :: h).head?, ∀ r ∈ rs.head?, ∀ s' ∈ r, x.text ≠ s'.text := by
        rintro _ ⟨⟩ r hr
        exact (List.isChain_cons.1 hapart).1 r hr s List.mem_cons_self
      rw [List.flatten_cons, List.foldl_append, hfirst, ih hrest hnext]
      simp

theorem foldl_push_eq (ss : List Snapshot) :
    ss.foldl push [] = (merged ss).reverse.take capacity := by
  -- the bound only cuts off the old end of what the stack without one holds
  have hstack : ss.foldl stack [] = (merged ss).reverse := by
    have hflatten := foldl_stack_stretches (h := []) (stretches_splitBy ss) nofun
    rwa [List.flatten_splitBy, List.append_nil] at hflatten
  rw [← hstack, ← foldl_push_take]
  rfl

theorem pops_map_push (h : History) (ss : List Snapshot) (xs : List HistoryOperation) :
    pops push h (ss.map .push ++ xs) = pops push (ss.foldl push h) xs := by
  induction ss generalizing h with
  | nil => rfl
  | cons s ss ih => exact ih (push h s)

theorem pops_replicate (h : History) (n : Nat) :
    pops push h (List.replicate n .pop) = (List.range n).map (h[·]?) := by
  induction n generalizing h with
  | zero => rfl
  | succ n ih =>
    rw [List.replicate_succ, pops, ih, List.range_succ_eq_map, List.map_cons, List.map_map,
      List.head?_eq_getElem?]
    simp [Function.comp_def]

theorem Compact.step (hh : h.Compact) (x : HistoryOperation) : (h.step History.push x).Compact := by
  cases x with
  | push s => exact hh.push s
  | pop => exact hh.tail
  | clear => exact .nil

theorem Compact.run (hh : h.Compact) (xs : List HistoryOperation) :
    (h.run History.push xs).Compact := by
  induction xs generalizing h with
  | nil => exact hh
  | cons x xs ih => exact ih (hh.step x)

theorem push_eq_stack (hh : h.length ≤ capacity) (hs : (h.stack s).length ≤ capacity) :
    h.push s = h.stack s := by
  rw [← List.take_of_length_le hs, ← push_take, List.take_of_length_le hh]

theorem step_push_eq (x : HistoryOperation) (hh : h.length ≤ capacity)
    (hx : (h.step stack x).length ≤ capacity) : h.step push x = h.step stack x := by
  cases x with
  | push s => exact push_eq_stack hh hx
  | pop => rfl
  | clear => rfl

theorem pops_cons_congr (x : HistoryOperation) {push push' : History → Snapshot → History}
    (hx : h.step push x = h.step push' x)
    (hxs : pops push (h.step push x) xs = pops push' (h.step push x) xs) :
    pops push h (x :: xs) = pops push' h (x :: xs) := by
  cases x with
  | pop => exact congrArg (h.head? :: ·) hxs
  | push s => exact hxs.trans (congrArg (pops push' · xs) hx)
  | clear => exact hxs

theorem pops_push_eq (hh : ∀ ys, ys <+: xs → (h.run stack ys).length ≤ capacity) :
    pops push h xs = pops stack h xs := by
  induction xs generalizing h with
  | nil => rfl
  | cons x xs ih =>
    have hstep : h.step push x = h.step stack x :=
      step_push_eq x (hh [] List.nil_prefix) (hh [x] (by simp))
    refine pops_cons_congr x hstep ?_
    rw [hstep]
    exact ih fun ys hys => hh (x :: ys) ((List.prefix_cons_inj x).2 hys)

/-- Pops after pushes bring back, the newest first, the last states of those that merging the
stretches with one text leaves, as many as there is room for, and then nothing. In any order of
operations no two neighbours have one text and the depth stays within the capacity; and the pops
bring back what those of a stack without a bound bring back, if that one never holds more. -/
theorem pops_bounded :
    (∀ (ss : List Snapshot) (n : Nat),
        pops push [] (ss.map .push ++ List.replicate n .pop) =
          (List.range n).map (((merged ss).reverse.take capacity)[·]?)) ∧
      ∀ xs : List HistoryOperation, Compact (run push [] xs) ∧
        ((∀ ys, ys <+: xs → (run stack [] ys).length ≤ capacity) →
          pops push [] xs = pops stack [] xs) := by
  refine ⟨fun ss n => ?_, fun xs => ⟨Compact.nil.run xs, pops_push_eq⟩⟩
  rw [pops_map_push, pops_replicate, foldl_push_eq]

theorem pops_bounded_merged :
    let a : Snapshot := ⟨['a'], .caret 0⟩
    let a' : Snapshot := ⟨['a'], .caret 1⟩
    let b : Snapshot := ⟨['b'], .caret 1⟩
    let xs : List HistoryOperation := [.push a, .push a', .push b, .pop, .push b, .pop, .pop, .pop]
    (∀ ys, ys <+: xs → (run stack [] ys).length ≤ capacity) ∧
      pops push [] xs = [some b, some b, some a, none] ∧
      pops push [] ([a, a', b].map .push ++ List.replicate 3 .pop) = [some b, some a, none] := by
  intro a a' b xs
  have hinits : ∀ ys ∈ xs.inits, (run stack [] ys).length ≤ capacity := by decide
  have hroom : ∀ ys, ys <+: xs → (run stack [] ys).length ≤ capacity := fun ys hys =>
    hinits ys ((List.mem_inits ys xs).2 hys)
  obtain ⟨hpushed, hany⟩ := pops_bounded
  exact ⟨hroom, ((hany xs).2 hroom).trans rfl, (hpushed _ _).trans (by decide)⟩

end History

namespace Editor

end Editor

end ModalEditor
