import ModalEditor.Editor.Basic
import ModalEditor.Proofs.Motion.NextWord
import ModalEditor.Proofs.Motion.WordEnd
import ModalEditor.Proofs.Text.RoundTrip

/-! Counts of the motions by clusters and words add up, also when the cursor rests in between: each
step leads from a place between two characters of a line to another one, and these places are those
of their offsets, as long as all breaks of the text end with a line feed. -/

namespace ModalEditor

namespace Motion

def isLocal : Motion → Bool
  | left | right | nextWord | wordEnd => true
  | _ => false

theorem repeatStep_add {α : Type} [DecidableEq α] (step : α → Option α) (j k : Nat) (a : α) :
    let r := repeatStep step j a
    repeatStep step (j + k) a = ((repeatStep step k r.1).1, r.2 && (repeatStep step k r.1).2) := by
  induction j generalizing a with
  | zero => simp [repeatStep]
  | succ j ih =>
    rw [Nat.succ_add, repeatStep, repeatStep]
    cases hstep : step a with
    -- a step that fails, or leads nowhere, does so again
    | none => cases k <;> simp [repeatStep, hstep]
    | some b =>
      by_cases hb : b = a
      · subst hb
        cases k <;> simp [repeatStep, hstep]
      · simpa [hb] using ih b

end Motion

namespace Text

open Cluster

variable [Segmentation] {t : Text} {p q : Position} {S : Position → Prop} {i j : Nat}

omit [Segmentation] in
theorem AtCharacter.ahead (h : AtCharacter t p) : t.Ahead p.line 0 p := by
  obtain ⟨-, j, hj, hbyte⟩ := h
  exact ⟨j, Nat.zero_le j, hj, by rw [← hbyte]⟩

omit [Segmentation] in
theorem Ahead.atCharacter (h : t.Ahead i j p) (hi : i < t.lineCount) : AtCharacter t p := by
  obtain ⟨m, -, hm, rfl⟩ := h
  exact ⟨hi, m, hm, rfl⟩

theorem atBoundary_left? (h : p.line < t.lineCount) (hq : t.left? p = some q) :
    AtBoundary t q := by
  rw [left?] at hq
  split at hq
  · split at hq
    · cases hq
    · cases Option.some.inj hq
      exact atBoundary_lineEnd (Nat.lt_of_le_of_lt (Nat.sub_le _ _) h)
  · cases Option.some.inj hq
    exact ⟨h, exists_boundaryBefore _ _⟩

theorem atBoundary_right? (h : p.line < t.lineCount) (hq : t.right? p = some q) :
    AtBoundary t q := by
  rw [right?] at hq
  split at hq
  · cases Option.some.inj hq
    exact ⟨h, exists_boundaryAfter _ _⟩
  · split at hq
    · cases Option.some.inj hq
      exact atBoundary_lineStart ‹_›
    · cases hq

theorem WordBegins.atBoundary (h : WordBegins t p) : AtBoundary t p := by
  have hline := h.line_lt
  obtain ⟨before, g, after, hclusters, hbyte, -⟩ := h
  exact ⟨hline, before, g :: after, hclusters, hbyte⟩

theorem FirstWord.atBoundary (h : FirstWord t S p) : AtBoundary t p :=
  h.of_forall (fun _ hr _ => hr.atBoundary)
    (atBoundary_lineEnd (Nat.sub_lt t.lineCount_pos Nat.one_pos))

theorem AtCharacter.wordAfter (h : AtCharacter t p) : AtCharacter t (t.wordAfter p) := by
  have hline := h.1
  rw [Text.wordAfter]
  split
  · rename_i b hb
    obtain ⟨skipped, g, after, hrest, -, -, rfl⟩ := firstWord?_eq_some hb
    have hpassed := (List.takeWhile_append_dropWhile (p := isWord)
      (l := restFrom (t.lineClusters p.line) p.byte)).symm
    rw [hrest, ← List.append_assoc] at hpassed
    have hpass := (h.ahead.pass ⟨g :: after, hpassed.symm⟩).atCharacter hline
    rwa [List.flatten_append, byteLength_append, ← Nat.add_assoc] at hpass
  · exact (firstWord_wordBelow rfl (eq_lastPosition hline)).atBoundary.atCharacter

theorem AtCharacter.nextWord? (h : AtCharacter t p) (hq : t.nextWord? p = some q) :
    AtCharacter t q := by
  rcases Nat.lt_or_eq_of_le h.byte_le with hlt | hend
  · rw [nextWord?_of_lt hlt] at hq
    exact Option.some.inj hq ▸ h.wordAfter
  · by_cases hline : p.line + 1 < t.lineCount
    · rw [nextWord?_of_lineEnd hend hline] at hq
      exact Option.some.inj hq ▸ (atBoundary_lineStart hline).atCharacter.wordAfter
    · rw [nextWord?_of_lastLine hend hline] at hq
      cases hq

theorem AtCharacter.step? {m : Motion} (hm : m.isLocal) {w w' : Walker}
    (h : AtCharacter t w.position) (hw : m.step? t w = some w') :
    AtCharacter t w'.position ∧ w'.column = w.column := by
  cases m with
  | left =>
    obtain ⟨q, hq, rfl⟩ := Option.map_eq_some_iff.1 hw
    exact ⟨(atBoundary_left? h.1 hq).atCharacter, rfl⟩
  | right =>
    obtain ⟨q, hq, rfl⟩ := Option.map_eq_some_iff.1 hw
    exact ⟨(atBoundary_right? h.1 hq).atCharacter, rfl⟩
  | nextWord =>
    obtain ⟨q, hq, rfl⟩ := Option.map_eq_some_iff.1 hw
    exact ⟨h.nextWord? hq, rfl⟩
  | wordEnd =>
    obtain ⟨q, hq, rfl⟩ := Option.map_eq_some_iff.1 hw
    exact ⟨(h.ahead.wordEnd? hq).atCharacter h.1, rfl⟩
  | _ => cases hm

end Text

namespace Motion

variable [Segmentation] {t : Text} {m : Motion} {p : Position}

theorem walker_of_isLocal (hm : m.isLocal) (h : t.AtCharacter p) (count : Nat) :
    t.AtCharacter (m.walk t count p).1 ∧
      (repeatStep (fun w => m.step? t w) count ⟨p, none⟩).1 = ⟨(m.walk t count p).1, none⟩ := by
  let last := (repeatStep (fun w => m.step? t w) count ⟨p, none⟩).1
  have hlast : t.AtCharacter last.position ∧ last.column = none := by
    refine repeatStep_induction (P := fun w : Walker => t.AtCharacter w.position ∧ w.column = none)
      ?_ ⟨h, rfl⟩ count
    rintro w w' ⟨hw, hcolumn⟩ hstep
    obtain ⟨hw', hcolumn'⟩ := hw.step? hm hstep
    exact ⟨hw', hcolumn'.trans hcolumn⟩
  exact ⟨hlast.1, congrArg (Walker.mk _) hlast.2⟩

theorem walk_add (hm : m.isLocal) (h : t.AtCharacter p) (j k : Nat) :
    let r := m.walk t j p
    m.walk t (j + k) p = ((m.walk t k r.1).1, r.2 && (m.walk t k r.1).2) := by
  have hadd := repeatStep_add (fun w => m.step? t w) j k ⟨p, none⟩
  -- The second walk starts without a column, and the first one ends without one.
  simp only [(walker_of_isLocal hm h j).2] at hadd
  exact congrArg (fun r : Walker × Bool => (r.1.position, r.2)) hadd

end Motion

namespace Editor

/-- Where all breaks end with a line feed, two counted moves by clusters or words, one after the
other, are one move by the sum of the counts, which completes if and only if both do. -/
theorem move_add [Segmentation] {e : Editor} (hbreaks : ∀ i, ¬ e.text.KeepsBreak i) {m : Motion}
    (hm : m.isLocal)
    (a : Anchor) (j k : Nat) :
    let moved := e.move m a j
    e.move m a (j + k) = ((moved.1.move m a k).1, moved.2 && (moved.1.move m a k).2) := by
  have hstart := e.text.atCharacter_positionAt e.cursor.position
  have hrest := (Motion.walker_of_isLocal hm hstart j).1.positionAt_offsetAt
    fun hk => absurd hk (hbreaks _)
  have hadd := Motion.walk_add hm hstart j k
  cases a <;> simp only [move, hadd, hrest]

theorem move_add_words :
    let e : Editor := { ofText "" "e\u0301a b\r\nc".toList with cursor := ⟨1, 4⟩ }
    let moved := e.move .nextWord .keep 2
    (∀ i, ¬ e.text.KeepsBreak i) ∧ Motion.nextWord.isLocal ∧
      moved = ({ e with cursor := ⟨4, 4⟩ }, true) ∧
      e.move .nextWord .keep (2 + 3) = ((moved.1.move .nextWord .keep 3).1, false) ∧
      (moved.1.move .nextWord .keep 3).1.cursor = ⟨8, 4⟩ := by
  intro e moved
  have hbreaks : ∀ i, ¬ e.text.KeepsBreak i := by
    intro i hi
    have hlines : ∀ i < e.text.lineCount, ¬ e.text.KeepsBreak i := by decide +kernel
    exact hlines i hi.lt_lineCount hi
  have hmoved : moved = ({ e with cursor := ⟨4, 4⟩ }, true) := by decide +kernel
  have hrest : moved.1.move .nextWord .keep 3 = ({ e with cursor := ⟨8, 4⟩ }, false) := by
    rw [hmoved]
    decide +kernel
  refine ⟨hbreaks, rfl, hmoved, ?_, by rw [hrest]⟩
  rw [move_add hbreaks rfl .keep 2 3]
  exact Prod.ext rfl (by rw [hrest, Bool.and_false])

end Editor

end ModalEditor
