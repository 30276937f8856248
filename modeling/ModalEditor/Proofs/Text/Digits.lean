import Mathlib.Data.List.Induction
import Mathlib.Data.List.TakeWhile
import ModalEditor.Text.Digits

namespace ModalEditor.Text

theorem decimal_append_singleton (ds : Text) (c : Char) :
    decimal (ds ++ [c]) = 10 * ds.decimal + digitValue c := by
  simp [decimal]

theorem eq_zero_of_isDigit {c : Char} (h : isDigit c) (hv : digitValue c = 0) : c = '0' := by
  simp only [isDigit, Bool.and_eq_true, decide_eq_true_eq, Char.le_def, UInt32.le_iff_toNat_le] at h
  apply Char.ext
  apply UInt32.toNat_inj.1
  have hc : c.val.toNat - 48 = 0 := hv
  have h0 : ('0' : Char).val.toNat = 48 := rfl
  omega

theorem decimal_eq_zero_iff {ds : Text} (h : ∀ c ∈ ds, isDigit c) :
    ds.decimal = 0 ↔ ∀ c ∈ ds, c = '0' := by
  induction ds using List.reverseRecOn with
  | nil => simp [decimal]
  | append_singleton ds c ih =>
    have hds : ∀ d ∈ ds, isDigit d := fun d hd => h d (List.mem_append_left _ hd)
    have hc : isDigit c := h c (by simp)
    rw [decimal_append_singleton]
    constructor
    · intro hz d hd
      cases List.mem_append.1 hd with
      | inl hd => exact (ih hds).1 (by omega) d hd
      | inr hd =>
        obtain rfl := List.mem_singleton.1 hd
        exact eq_zero_of_isDigit hc (by omega)
    · intro hz
      have hd : decimal ds = 0 := (ih hds).2 fun d hd => hz d (List.mem_append_left _ hd)
      have hv : digitValue c = 0 := by rw [hz c (by simp)]; rfl
      omega

theorem decimalUpTo?_eq (bound : Nat) (ds : Text) :
    ds.decimalUpTo? bound = if ds.decimal ≤ bound then some ds.decimal else none := by
  induction ds using List.reverseRecOn with
  | nil => simp [decimalUpTo?, decimal]
  | append_singleton ds c ih =>
    rw [decimalUpTo?, List.foldlM_append, ← decimalUpTo?, ih, decimal_append_singleton]
    by_cases h : decimal ds ≤ bound
    · simp [h]
    · have : ¬ 10 * decimal ds + digitValue c ≤ bound := by omega
      simp [h, this]

theorem takeWhile_dropWhile_append {p : Char → Bool} {u v : Text} (hu : ∀ c ∈ u, p c)
    (hv : ∀ c ∈ v.head?, ¬ p c) : (u ++ v).takeWhile p = u ∧ (u ++ v).dropWhile p = v := by
  rw [List.takeWhile_append_of_pos hu, List.dropWhile_append_of_pos hu]
  cases v with
  | nil => simp
  | cons c cs =>
    have hc : ¬ p c := hv c rfl
    simp [hc]

theorem digitRun_append {ds rest : Text} (hd : ∀ c ∈ ds, isDigit c)
    (hr : ∀ c ∈ rest.head?, ¬ isDigit c) : (ds ++ rest).digitRun = ds :=
  (takeWhile_dropWhile_append hd hr).1

theorem isDigit_of_mem_digitRun {t : Text} {c : Char} (h : c ∈ t.digitRun) : isDigit c :=
  List.mem_takeWhile_imp h

theorem not_of_mem_head?_dropWhile {α : Type} {p : α → Bool} {l : List α} {a : α}
    (h : a ∈ (l.dropWhile p).head?) : ¬ p a := by
  have hnot := List.head?_dropWhile_not p l
  rw [show (l.dropWhile p).head? = some a from h] at hnot
  simp [hnot]

theorem not_isDigit_of_mem_head?_afterDigits {t : Text} {c : Char}
    (h : c ∈ t.afterDigits.head?) : ¬ isDigit c :=
  not_of_mem_head?_dropWhile h

end ModalEditor.Text
