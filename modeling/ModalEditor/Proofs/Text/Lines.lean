import Mathlib.Data.List.Basic
import ModalEditor.Text.Line

/-! Which lists of texts are the lines of one: all lines but the last end with a break and have no
other, the last has none, and no carriage return that ends a line stands before a line feed. So the
lines of a text that is put together from parts can be told from the parts. -/

namespace ModalEditor.Text

variable {t s b k l : Text} {pre post ls : List Text} {c : Char}

def Unbroken (t : Text) : Prop :=
  ∀ c ∈ t, isLineBreak c = false

instance (t : Text) : Decidable (Unbroken t) :=
  List.decidableBAll (isLineBreak · = false) t

inductive Break : Text → Prop
  | pair : Break ['\r', '\n']
  | single {c : Char} : isLineBreak c → Break [c]

inductive Ended : Text → Prop
  | append {b k : Text} : Unbroken b → Break k → Ended (b ++ k)

def Meet (s t : Text) : Prop :=
  s.getLast? = some '\r' ∧ t.head? = some '\n'

instance (s t : Text) : Decidable (Meet s t) :=
  inferInstanceAs (Decidable (_ ∧ _))

inductive Lined : List Text → Prop
  | last {l : Text} : Unbroken l → Lined [l]
  | cons {l : Text} {ls : List Text} : Ended l → ¬ Meet l ls.flatten → Lined ls → Lined (l :: ls)

theorem unbroken_nil : Unbroken [] := nofun

@[simp] theorem unbroken_cons : Unbroken (c :: t) ↔ isLineBreak c = false ∧ Unbroken t :=
  List.forall_mem_cons

@[simp] theorem unbroken_append : Unbroken (s ++ t) ↔ Unbroken s ∧ Unbroken t :=
  List.forall_mem_append

theorem meet_append_left (hne : s ≠ []) : Meet (b ++ s) t ↔ Meet s t := by
  rw [Meet, Meet, List.getLast?_append_of_ne_nil b hne]

theorem meet_append_right (hne : s ≠ []) : Meet b (s ++ t) ↔ Meet b s := by
  obtain ⟨c, s, rfl⟩ := List.exists_cons_of_ne_nil hne
  exact Iff.rfl

theorem not_meet_of_unbroken (hb : Unbroken b) (hne : b ≠ []) : ¬ Meet s (b ++ t) := by
  obtain ⟨c, b, rfl⟩ := List.exists_cons_of_ne_nil hne
  rintro ⟨-, hn⟩
  obtain rfl : c = '\n' := Option.some.inj hn
  exact absurd (unbroken_cons.1 hb).1 (by decide)

theorem not_meet_unbroken_append (hb : Unbroken b) (h : ¬ Meet s t) : ¬ Meet s (b ++ t) := by
  cases b with
  | nil => exact h
  | cons c b => exact not_meet_of_unbroken hb (List.cons_ne_nil c b)

theorem Break.ne_nil (h : Break k) : k ≠ [] := by
  cases h <;> simp

theorem Ended.ne_nil (h : Ended l) : l ≠ [] := by
  cases h with
  | append _ hk => simp [hk.ne_nil]

theorem Break.ended (h : Break k) : Ended k := .append unbroken_nil h

theorem Ended.cons (hc : isLineBreak c = false) (h : Ended l) : Ended (c :: l) := by
  cases h with
  | append hb hk => exact .append (unbroken_cons.2 ⟨hc, hb⟩) hk

theorem lines_cons (hc : isLineBreak c = false) : lines (c :: t) = extendFirst c (lines t) := by
  rw [lines, if_neg (by simp [hc])]
  intro cs hr
  simp [hr, isLineBreak] at hc

theorem Lined.extendFirst (hc : isLineBreak c = false) (h : Lined ls) :
    Lined (extendFirst c ls) := by
  cases h with
  | last hl => exact .last (unbroken_cons.2 ⟨hc, hl⟩)
  | cons hl hmeet hls =>
    refine .cons (hl.cons hc) ?_ hls
    rwa [← List.singleton_append, meet_append_left hl.ne_nil]

theorem lined_lines (t : Text) : Lined t.lines := by
  fun_induction lines t with
  | case1 => exact .last unbroken_nil
  | case2 cs ih => exact .cons Break.pair.ended (by simp [Meet]) ih
  | case3 c cs hcs hc ih =>
    refine .cons (Break.single hc).ended ?_ ih
    rintro ⟨hr, hn⟩
    rw [flatten_lines] at hn
    obtain ⟨cs, rfl⟩ := List.head?_eq_some_iff.1 hn
    exact hcs cs (Option.some.inj hr) rfl
  | case4 c cs _ hc ih => exact ih.extendFirst (by simpa using hc)

theorem lines_of_unbroken (h : Unbroken b) : lines b = [b] := by
  induction b with
  | nil => rfl
  | cons c b ih =>
    obtain ⟨hc, hb⟩ := unbroken_cons.1 h
    rw [lines_cons hc, ih hb, Text.extendFirst]

theorem lines_break_append (hk : Break k) (h : ¬ Meet k t) : lines (k ++ t) = k :: lines t := by
  cases hk with
  | pair => rfl
  | single hc =>
    rw [List.singleton_append, lines, if_pos hc]
    exact fun cs hr hn => h ⟨congrArg some hr, congrArg List.head? hn⟩

theorem lines_ended_append (hl : Ended l) (h : ¬ Meet l t) : lines (l ++ t) = l :: lines t := by
  obtain ⟨hb, hk⟩ := hl
  rw [meet_append_left hk.ne_nil] at h
  rename_i b k
  induction b with
  | nil => exact lines_break_append hk h
  | cons c b ih =>
    obtain ⟨hc, hb⟩ := unbroken_cons.1 hb
    simp only [List.cons_append, lines_cons hc, ih hb, extendFirst]

theorem Lined.lines_flatten (h : Lined ls) : lines ls.flatten = ls := by
  induction h with
  | last hl => simpa using lines_of_unbroken hl
  | cons hl hmeet _ ih => rw [List.flatten_cons, lines_ended_append hl hmeet, ih]

theorem lines_eq_iff : t.lines = ls ↔ Lined ls ∧ ls.flatten = t := by
  constructor
  · rintro rfl
    exact ⟨t.lined_lines, t.flatten_lines⟩
  · rintro ⟨hls, rfl⟩
    exact hls.lines_flatten

theorem dropLineFeed_append (hb : Unbroken b) : dropLineFeed (b ++ k) = b ++ dropLineFeed k := by
  induction b with
  | nil => rfl
  | cons c b ih =>
    obtain ⟨hc, hb⟩ := unbroken_cons.1 hb
    rw [List.cons_append, dropLineFeed, ih hb, List.cons_append]
    rintro rfl
    exact absurd hc (by decide)

namespace Lined

theorem ne_nil (h : Lined ls) : ls ≠ [] := by
  cases h <;> simp

theorem cons_iff (hls : ls ≠ []) :
    Lined (l :: ls) ↔ Ended l ∧ ¬ Meet l ls.flatten ∧ Lined ls := by
  constructor
  · intro h
    cases h with
    | last => exact absurd rfl hls
    | cons hl hmeet h => exact ⟨hl, hmeet, h⟩
  · rintro ⟨hl, hmeet, h⟩
    exact .cons hl hmeet h

theorem append_iff (h : Lined (pre ++ post)) (hpost : post ≠ []) (hls : ls ≠ []) :
    Lined (pre ++ ls) ↔ Lined ls ∧ ¬ Meet pre.flatten ls.flatten := by
  induction pre with
  | nil => simp [Meet]
  | cons l pre ih =>
    obtain ⟨hl, hmeet, h⟩ := (cons_iff (by simp [hpost])).1 h
    rw [List.cons_append, cons_iff (by simp [hls]), ih h]
    cases pre with
    | nil => simp [hl, Meet, and_comm]
    | cons m pre =>
      have hm : (m :: pre).flatten ≠ [] := by
        simp [((cons_iff (by simp [hpost])).1 h).1.ne_nil]
      rw [List.append_eq, List.flatten_append, meet_append_right hm] at hmeet
      rw [List.flatten_append, meet_append_right hm, List.flatten_cons (l := l),
        meet_append_left hm]
      exact ⟨fun h => h.2.2, fun h => ⟨hl, hmeet, h⟩⟩

end Lined

/-- What may end a line that is followed by these lines. -/
inductive Ending : Text → List Text → Prop
  | last : Ending [] []
  | break {k : Text} {post : List Text} : Break k → ¬ Meet k post.flatten → Lined post →
      Ending k post

theorem Ending.lined (hb : Unbroken b) (hk : Ending k post) : Lined ((b ++ k) :: post) := by
  cases hk with
  | last => exact .last (by simpa using hb)
  | «break» hk hmeet hpost =>
    exact .cons (.append hb hk) (by rwa [meet_append_left hk.ne_nil]) hpost

theorem Lined.exists_ending (h : Lined (l :: post)) :
    ∃ b k, l = b ++ k ∧ Unbroken b ∧ Ending k post := by
  cases h with
  | last hl => exact ⟨l, [], (List.append_nil l).symm, hl, .last⟩
  | cons hl hmeet hpost =>
    obtain ⟨hb, hk⟩ := hl
    rw [meet_append_left hk.ne_nil] at hmeet
    exact ⟨_, _, rfl, hb, .break hk hmeet hpost⟩

/-- Between the lines `pre` and `post` the text has a line that consists of `b` and its break. -/
structure HasLine (t : Text) (pre : List Text) (b k : Text) (post : List Text) : Prop where
  lines_eq : t.lines = pre ++ (b ++ k) :: post
  unbroken : Unbroken b
  ending : Ending k post

theorem exists_hasLine (h : t.lines = pre ++ l :: post) :
    ∃ b k, l = b ++ k ∧ HasLine t pre b k post := by
  have hlined := t.lined_lines
  rw [h] at hlined
  have hline := (Lined.append_iff hlined (List.cons_ne_nil _ _) (List.cons_ne_nil _ _)).1 hlined
  obtain ⟨b, k, rfl, hb, hk⟩ := hline.1.exists_ending
  exact ⟨b, k, rfl, h, hb, hk⟩

namespace HasLine

theorem exists_above (h : HasLine t (pre ++ [l]) b k post) :
    ∃ b' k', l = b' ++ k' ∧ HasLine t pre b' k' ((b ++ k) :: post) :=
  exists_hasLine (by rw [h.lines_eq, List.append_assoc, List.singleton_append])

theorem eq_append (h : HasLine t pre b k post) :
    t = pre.flatten ++ (b ++ k ++ post.flatten) := by
  rw [← t.flatten_lines, h.lines_eq, List.flatten_append, List.flatten_cons]

theorem lined (h : HasLine t pre b k post) : Lined (pre ++ (b ++ k) :: post) :=
  h.lines_eq ▸ t.lined_lines

theorem not_meet (h : HasLine t pre b k post) : ¬ Meet pre.flatten (b ++ k ++ post.flatten) :=
  ((Lined.append_iff h.lined (List.cons_ne_nil _ _) (List.cons_ne_nil _ _)).1 h.lined).2

theorem lines_flatten_append (h : HasLine t pre b k post) (hmeet : ¬ Meet pre.flatten s) :
    lines (pre.flatten ++ s) = pre ++ lines s := by
  refine lines_eq_iff.2 ⟨?_, by simp⟩
  rw [Lined.append_iff h.lined (List.cons_ne_nil _ _) s.lines_ne_nil, flatten_lines]
  exact ⟨s.lined_lines, hmeet⟩

theorem lines_prefix_append (h : HasLine t pre b k post) (hl : l <+: b ++ k) (hne : l ≠ [])
    (s : Text) : lines (pre.flatten ++ (l ++ s)) = pre ++ lines (l ++ s) := by
  obtain ⟨x, hx⟩ := hl
  have hmeet := h.not_meet
  rw [← hx, List.append_assoc, meet_append_right hne] at hmeet
  exact h.lines_flatten_append (by rwa [meet_append_right hne])

theorem lines_body_append (h : HasLine t pre b k post) {b' : Text} (hb' : Unbroken b') :
    lines (b' ++ k ++ post.flatten) = (b' ++ k) :: post :=
  (h.ending.lined hb').lines_flatten

theorem length_lt_lineCount (h : HasLine t pre b k post) : pre.length < t.lineCount := by
  rw [lineCount, h.lines_eq]
  simp

theorem lineStart_eq (h : HasLine t pre b k post) :
    t.lineStart pre.length = pre.flatten.length := by
  rw [lineStart, h.lines_eq, List.take_left]

theorem lineStart_succ (h : HasLine t pre b k post) :
    t.lineStart (pre.length + 1) = pre.flatten.length + (b ++ k).length := by
  rw [lineStart, h.lines_eq, List.take_length_add_append, List.take_succ_cons, List.take_zero,
    List.flatten_append, List.length_append, List.flatten_singleton]

theorem line?_eq (h : HasLine t pre b k post) : t.line? pre.length = some (b ++ k) := by
  rw [line?, h.lines_eq]
  simp

theorem content_eq (h : HasLine t pre b k post) :
    t.content pre.length = b ++ dropLineFeed k := by
  simp only [content, h.line?_eq, dropLineFeed_append h.unbroken]

end HasLine

end ModalEditor.Text
