import Mathlib.Data.List.Chain
import Mathlib.Logic.Function.Iterate
import ModalEditor.Proofs.Editor.Operation

namespace ModalEditor

theorem History.push_of_ne {h : History} {s : Snapshot} (hs : ∀ x ∈ h.head?, x.text ≠ s.text) :
    h.push s = (s :: h).take capacity := by
  match h with
  | [] => rfl
  | newest :: rest => rw [push, if_neg (hs newest rfl)]

namespace Editor

inductive Edited : Editor → Prop
  | ofText (name : String) (text : Text) : Edited (.ofText name text)
  | move {e : Editor} {x : EditorOperation} : Edited e → x.isMove → Edited (e.apply x)
  | undo {e : Editor} : Edited e → Edited e.undo
  | edit {e : Editor} {x : EditorOperation} : Edited e → x.isEdit → (e.apply x).text ≠ e.text →
      Edited (e.apply x)

/-- A run of edits that each change the text, with any moves before, between and after them. The
list holds the states that the edits found, in order. -/
inductive EditRun (e : Editor) : List Snapshot → Editor → Prop
  | refl : EditRun e [] e
  | move {e' : Editor} {ss : List Snapshot} {x : EditorOperation} : EditRun e ss e' → x.isMove →
      EditRun e ss (e'.apply x)
  | edit {e' : Editor} {ss : List Snapshot} {x : EditorOperation} : EditRun e ss e' → x.isEdit →
      (e'.apply x).text ≠ e'.text → EditRun e (ss ++ [e'.snapshot]) (e'.apply x)

variable {e e' : Editor} {ss : List Snapshot}

theorem EditRun.edited (he : e.Edited) (h : EditRun e ss e') : e'.Edited := by
  induction h with
  | refl => exact he
  | move _ hx ih => exact ih.move hx
  | edit _ hx ht ih => exact ih.edit hx ht

structure Alternating (e : Editor) : Prop where
  texts : (e.text :: e.history.map Snapshot.text).IsChain (· ≠ ·)
  depth : e.history.length ≤ History.capacity

namespace Alternating

theorem ofText (name : String) (text : Text) : (ofText name text).Alternating where
  texts := List.isChain_singleton text
  depth := Nat.zero_le _

theorem move (h : e.Alternating) {x : EditorOperation} (hx : x.isMove) :
    (e.apply x).Alternating := by
  obtain ⟨c, hc⟩ := apply_of_isMove (e := e) hx
  rw [hc]
  exact ⟨h.texts, h.depth⟩

theorem undo (h : e.Alternating) : e.undo.Alternating := by
  obtain ⟨htexts, hdepth⟩ := h
  rw [Editor.undo]
  split
  · exact ⟨htexts, hdepth⟩
  · rename_i s rest hs
    rw [hs] at htexts hdepth
    exact ⟨htexts.tail, Nat.le_of_succ_le hdepth⟩

theorem push_snapshot (h : e.Alternating) :
    e.history.push e.snapshot = (e.snapshot :: e.history).take History.capacity := by
  refine History.push_of_ne fun s hs => ?_
  have hs : s.text ∈ (e.history.map Snapshot.text).head? := by
    rw [List.head?_map]
    exact Option.mem_map_of_mem _ hs
  exact ((List.isChain_cons.1 h.texts).1 s.text hs).symm

theorem edit (h : e.Alternating) {x : EditorOperation} (hx : x.isEdit)
    (ht : (e.apply x).text ≠ e.text) : (e.apply x).Alternating := by
  have hhistory := history_of_isEdit hx ht
  constructor
  · -- the new texts are the front of the old ones behind the text of the edited editor
    have hlong : ((e.apply x).text :: e.text :: e.history.map Snapshot.text).IsChain (· ≠ ·) :=
      List.isChain_cons_cons.2 ⟨ht, h.texts⟩
    have hfront := hlong.take (History.capacity + 1)
    rw [hhistory, h.push_snapshot, List.map_take]
    exact hfront
  · rw [hhistory]
    exact History.length_push_le _ h.depth

end Alternating

theorem Edited.alternating (h : e.Edited) : e.Alternating := by
  induction h with
  | ofText name text => exact .ofText name text
  | move _ hx ih => exact ih.move hx
  | undo _ ih => exact ih.undo
  | edit _ hx ht ih => exact ih.edit hx ht

theorem EditRun.history_eq (he : e.Edited) (h : EditRun e ss e') :
    e'.history = (ss.reverse ++ e.history).take History.capacity := by
  induction h with
  | refl => exact (List.take_of_length_le he.alternating.depth).symm
  | @move e₁ _ x _ hx ih =>
    obtain ⟨c, hc⟩ := apply_of_isMove (e := e₁) hx
    rw [hc]
    exact ih
  | @edit e₁ ss x hrun hx ht ih =>
    rw [history_of_isEdit hx ht, (hrun.edited he).alternating.push_snapshot, ih,
      List.reverse_concat, List.cons_append, History.capacity, List.take_succ_cons,
      List.take_succ_cons, List.take_take]
    rfl

theorem EditRun.getElem?_history (he : e.Edited) (h : EditRun e ss e')
    (hlength : ss.length ≤ History.capacity) {n : Nat} (hn : n < ss.length) :
    e'.history[n]? = ss[ss.length - 1 - n]? := by
  have hreverse : n < ss.reverse.length := by rwa [List.length_reverse]
  rw [h.history_eq he, List.getElem?_take_of_lt (Nat.lt_of_lt_of_le hn hlength),
    List.getElem?_append_left hreverse, List.getElem?_reverse hn]

theorem undoTimes_eq_iterate (e : Editor) (n : Nat) : e.undoTimes n = undo^[n] e := by
  induction n generalizing e with
  | zero => rfl
  | succ n ih =>
    rw [undoTimes, Function.iterate_succ_apply]
    split
    · rename_i hempty
      have hundo : e.undo = e := by rw [undo, List.isEmpty_iff.1 hempty]
      rw [hundo, Function.iterate_fixed hundo]
    · exact ih e.undo

@[simp] theorem history_undo (e : Editor) : e.undo.history = e.history.tail := by
  rw [undo]
  split <;> simp_all

@[simp] theorem clipboard_undo (e : Editor) : e.undo.clipboard = e.clipboard := by
  rw [undo]
  split <;> rfl

theorem history_undo_iterate (e : Editor) (n : Nat) :
    (undo^[n] e).history = e.history.drop n := by
  induction n generalizing e with
  | zero => rfl
  | succ n ih => rw [Function.iterate_succ_apply, ih, history_undo, List.drop_tail]

theorem clipboard_undo_iterate (e : Editor) (n : Nat) :
    (undo^[n] e).clipboard = e.clipboard := by
  induction n generalizing e with
  | zero => rfl
  | succ n ih => rw [Function.iterate_succ_apply, ih, clipboard_undo]

theorem snapshot_undo_iterate {n : Nat} {s : Snapshot} (h : e.history[n]? = some s) :
    (undo^[n + 1] e).snapshot = s := by
  have hhistory := history_undo_iterate e n
  rw [List.drop_eq_getElem?_toList_append, h] at hhistory
  rw [Function.iterate_succ_apply', undo, hhistory]
  rfl

/-- After a run of edits that each changed the text, no longer than the history, undos bring back
one after the other the states that the edits found. -/
theorem undo_restores_run (he : e.Edited) (h : EditRun e ss e')
    (hlength : ss.length ≤ History.capacity) :
    e'.history.length ≤ History.capacity ∧
      ∀ k ≤ ss.length,
        (0 < k → ss[ss.length - k]? = some (undo^[k] e').snapshot) ∧
          (undo^[k] e').clipboard = e'.clipboard ∧
          (undo^[k] e').history.length ≤ History.capacity ∧
          e'.undoTimes k = undo^[k] e' := by
  have hdepth := (h.edited he).alternating.depth
  refine ⟨hdepth, fun k hk => ⟨fun hpos => ?_, clipboard_undo_iterate e' k, ?_,
    undoTimes_eq_iterate e' k⟩⟩
  · obtain ⟨n, rfl⟩ := Nat.exists_eq_add_one.2 hpos
    have hs : e'.history[n]? = ss[ss.length - (n + 1)]? := by
      rw [h.getElem?_history he hlength hk, Nat.sub_sub, Nat.add_comm 1 n]
    have hlt : ss.length - (n + 1) < ss.length := Nat.sub_lt (Nat.lt_of_lt_of_le hpos hk) hpos
    rw [List.getElem?_eq_getElem hlt] at hs ⊢
    rw [snapshot_undo_iterate hs]
  · rw [history_undo_iterate, List.length_drop]
    exact Nat.le_trans (Nat.sub_le _ _) hdepth

theorem undo_restores_insert_and_cut :
    let e := ((ofText "notes" "ab".toList).apply (.insert ['x'])).undo
    let selected := (e.apply (.insert ['c'])).apply (.setCursor ⟨3, 1⟩)
    let e' := selected.apply .cut
    e.Edited ∧ EditRun e [e.snapshot, selected.snapshot] e' ∧ e'.text = ['c'] ∧
      (undo^[1] e').snapshot = ⟨"cab".toList, ⟨3, 1⟩⟩ ∧
      (undo^[2] e').snapshot = ⟨"ab".toList, .caret 0⟩ := by
  intro e selected e'
  have he : e.Edited := .undo (.edit (.ofText "notes" "ab".toList) rfl (by decide))
  have hrun : EditRun e [e.snapshot, selected.snapshot] e' :=
    .edit (.move (.edit .refl rfl (by decide)) rfl) rfl (by decide)
  have hundo := (undo_restores_run he hrun (by decide)).2
  have hcut := (hundo 1 (by decide)).1 (by decide)
  have hinsert := (hundo 2 (by decide)).1 (by decide)
  exact ⟨he, hrun, by decide, (Option.some.inj hcut).symm, (Option.some.inj hinsert).symm⟩

end Editor

end ModalEditor
