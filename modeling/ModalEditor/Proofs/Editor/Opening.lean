import ModalEditor.Proofs.Editor.Between
import ModalEditor.Proofs.Text.Body
import ModalEditor.Proofs.Workspace.Every

namespace ModalEditor

inductive Opening
  | lineEnd
  | below
  | above
  deriving DecidableEq, Repr

namespace Opening

open Text Editor

def token : Opening → Text
  | lineEnd => ['A']
  | below => ['o']
  | above => ['O']

def change : Opening → Editor → Editor
  | lineEnd => (·.go .lineEnd 1)
  | below => openLineBelow
  | above => openLineAbove

def place (ls : List Text) (i : Nat) (s : Text) : Opening → List Text
  | lineEnd => ls.modify i (· ++ s)
  | below => ls.insertIdx (i + 1) s
  | above => ls.insertIdx i s

/-- No break near the line is in the way. -/
def Clear (t : Text) (i : Nat) : Opening → Prop
  | lineEnd => t.breakAt i = [] ∨ t.breakAt i = ['\n']
  | below => t.breakAt i = ['\n'] ∨ t.breakAt i = ['\r', '\n'] ∨
      t.breakAt i = [] ∧ (t.bodyAt i = [] → ¬ t.BehindReturn i)
  | above => ¬ t.BehindReturn i

instance (t : Text) (i : Nat) : (x : Opening) → Decidable (x.Clear t i)
  | lineEnd => inferInstanceAs (Decidable (_ ∨ _))
  | below => inferInstanceAs (Decidable (_ ∨ _))
  | above => inferInstanceAs (Decidable (¬ _))

theorem dispatchKey_token (w : Workspace) (x : Opening) (count : Nat) :
    w.dispatchKey x.token count = (Plan.insert x.change).carryOut w := by
  cases x <;> rfl

def beside (b s : Text) : Opening → List Text
  | lineEnd => [b ++ s]
  | below => [b, s]
  | above => [s, b]

theorem insertIdx_append (ls ms : List Text) (s : Text) :
    (ls ++ ms).insertIdx ls.length s = ls ++ s :: ms := by
  induction ls with
  | nil => rfl
  | cons l ls ih => simpa using ih

theorem place_append (ls ms : List Text) (b s : Text) (x : Opening) :
    x.place (ls ++ b :: ms) ls.length s = ls ++ (x.beside b s ++ ms) := by
  cases x with
  | lineEnd => simp [place, beside, List.modify_eq_take_cons_drop]
  | below => simpa [place, beside] using insertIdx_append (ls ++ [b]) ms s
  | above => exact insertIdx_append ls (b :: ms) s

/-- Whatever is inserted after the key, without a break in it, goes where the key says. -/
def Opens (x : Opening) (e : Editor) (i : Nat) : Prop :=
  ∀ s, Unbroken s → ((x.change e).insert s).text.bodies = x.place e.text.bodies i s

variable {e : Editor} {b k f : Text} {pre post : List Text} {j : Nat} {c : Char}

theorem opens_iff (h : HasLine e.text pre b k post) (x : Opening) :
    x.Opens e pre.length ↔ ∀ s, Unbroken s →
      ((x.change e).insert s).text.bodies = pre.map body ++ (x.beside b s ++ post.map body) := by
  have hlength : pre.length = (pre.map body).length := (List.length_map body).symm
  simp only [Opens, h.bodies_eq, hlength, place_append]

section

variable (h : Place e.text e.cursor.position pre b k post j)
include h

theorem not_opens_lineEnd (hc : isLineBreak c = true) (hk : dropLineFeed k = [c])
    (hf : k = [c] ++ f) : ¬ lineEnd.Opens e pre.length := by
  rw [opens_iff h.toHasLine]
  intro hopens
  have htext := ((h.between_lineEnd (by rwa [hk])).insert ['x']).text_eq
  have hprefix : b ++ [c] <+: b ++ k := by
    rw [hf, ← List.append_assoc]
    exact List.prefix_append _ f
  have hlines : (((e.go .lineEnd 1).insert ['x']).text).lines =
      pre ++ (b ++ [c]) :: lines ('x' :: (f ++ post.flatten)) := by
    rw [htext, hk, List.append_assoc, List.append_assoc, h.lines_prefix_append hprefix (by simp),
      lines_ended_append (.append h.unbroken (.single hc)) (by simp [Meet])]
    rfl
  have hbodies := hopens ['x'] (by decide)
  rw [change, bodies, hlines, List.map_append, List.append_cancel_left_eq, List.map_cons,
    body_append h.unbroken (.single hc)] at hbodies
  simp [beside] at hbodies

theorem opens_lineEnd_iff : lineEnd.Opens e pre.length ↔ lineEnd.Clear e.text pre.length := by
  rw [Clear, h.breakAt_eq]
  rcases h.ending.dropLineFeed_cases with ⟨hk, hd⟩ | ⟨hk, hd⟩ | ⟨c, hc, hn, hk, hd⟩
  · refine iff_of_true ((opens_iff h.toHasLine _).2 fun s hs => ?_) hk
    have htext := ((h.between_lineEnd (f := k) (by rw [hd]; rfl)).insert s).text_eq
    have hb : Unbroken (b ++ s) := unbroken_append.2 ⟨h.unbroken, hs⟩
    have hlines : ((e.go .lineEnd 1).insert s).text.lines = pre ++ (b ++ s ++ k) :: post := by
      rw [htext, hd, ← h.lines_body hb (h.not_meet_body_append hs)]
      simp
    rw [change, bodies, hlines, List.map_append, List.map_cons, h.ending.body_append hb]
    rfl
  · exact iff_of_false (not_opens_lineEnd h (f := ['\n']) rfl hd hk) (by simp [hk])
  · exact iff_of_false (not_opens_lineEnd h (f := []) hc hd hk) (by simp [hk, hn])

theorem opens_below (hf : k = dropLineFeed k ++ f)
    (hk' : Break (dropLineFeed k ++ ['\n'])) (hfeed : Ending f post)
    (hmeet : ¬ Meet pre.flatten (b ++ dropLineFeed k ++ ['\n'])) :
    below.Opens e pre.length := by
  refine (opens_iff h.toHasLine _).2 fun s hs => ?_
  have htext := (((h.between_lineEnd hf).insert ['\n']).insert s).text_eq
  have hlines : ((below.change e).insert s).text.lines =
      pre ++ (b ++ (dropLineFeed k ++ ['\n'])) :: (s ++ f) :: post := by
    rw [← h.lines_insert_line (.append h.unbroken hk') (by simp) (by rwa [← List.append_assoc]) hs
      hfeed, change, openLineBelow, htext]
    simp
  rw [bodies, hlines, List.map_append, List.map_cons, List.map_cons, body_append h.unbroken hk',
    hfeed.body_append hs]
  rfl

theorem not_opens_below_of_meet (hk : dropLineFeed k = [])
    (hmeet : Meet pre.flatten (b ++ ['\n'])) : ¬ below.Opens e pre.length := by
  intro hopens
  obtain rfl : b = [] := by_contra fun hb => not_meet_of_unbroken h.unbroken hb hmeet
  have htext := (((h.between_lineEnd (f := k) (by simp [hk])).insert ['\n']).insert []).text_eq
  have hbodies := congrArg List.length ((opens_iff h.toHasLine _).1 hopens [] unbroken_nil)
  have hrest : lines (k ++ post.flatten) = k :: post := h.lines_body_append unbroken_nil
  have hlineFeed := h.lineCount_lineFeed (h.meet_lineFeed_iff.1 hmeet) (k ++ post.flatten)
  rw [lineCount, lineCount, hrest] at hlineFeed
  simp [change, openLineBelow, htext, hk, bodies, hlineFeed, beside] at hbodies

theorem not_opens_below (hc : isLineBreak c = true) (hn : c ≠ '\n') (hk : k = [c]) :
    ¬ below.Opens e pre.length := by
  subst hk
  have hd : dropLineFeed [c] = [c] := by simp [dropLineFeed, hn]
  have htext (s : Text) :=
    (((h.between_lineEnd (f := []) (by simp [hd])).insert ['\n']).insert s).text_eq
  rw [opens_iff h.toHasLine]
  intro hopens
  by_cases hr : c = '\r'
  · subst hr
    have hbodies := congrArg List.length (hopens [] unbroken_nil)
    have hlines : ((below.change e).insert []).text.lines = pre ++ (b ++ ['\r', '\n']) :: post := by
      cases h.ending with
      | «break» _ _ hpost =>
        rw [change, openLineBelow, htext, hd]
        simpa [hpost.lines_flatten] using h.lines_lineFeed post.flatten
    rw [bodies, hlines] at hbodies
    simp [beside] at hbodies
  · have hlines : ((below.change e).insert ['x']).text.lines =
        pre ++ (b ++ [c]) :: ['\n'] :: lines ('x' :: post.flatten) := by
      have hrest : ¬ Meet ['\n'] ('x' :: post.flatten) := by simp [Meet]
      rw [← lines_break_append (.single rfl) hrest,
        ← lines_ended_append (.append h.unbroken (.single hc)) (by simp [Meet, hr]),
        ← h.lines_prefix_append (List.prefix_refl _) (by simp), change, openLineBelow, htext, hd]
      simp
    have hbodies := hopens ['x'] (by decide)
    have hempty : body ['\n'] = [] := rfl
    rw [bodies, hlines, List.map_append, List.append_cancel_left_eq, List.map_cons, List.map_cons,
      body_append h.unbroken (.single hc), hempty] at hbodies
    simp [beside] at hbodies

theorem opens_below_iff : below.Opens e pre.length ↔ below.Clear e.text pre.length := by
  rw [Clear, h.breakAt_eq, h.bodyAt_eq]
  rcases h.ending.dropLineFeed_cases with ⟨hk, hd⟩ | ⟨rfl, hd⟩ | ⟨c, hc, hn, hk, hd⟩
  · by_cases hmeet : Meet pre.flatten (b ++ ['\n'])
    · refine iff_of_false (not_opens_below_of_meet h hd hmeet) ?_
      obtain rfl : b = [] := by_contra fun hb => not_meet_of_unbroken h.unbroken hb hmeet
      rcases hk with rfl | rfl
      · simpa [← h.meet_lineFeed_iff (s := [])] using hmeet
      · exact absurd hmeet h.not_meet
    · refine iff_of_true (opens_below h (f := k) (by simp [hd]) ?_ h.ending ?_) ?_
      · rw [hd]
        exact .single rfl
      · simpa [hd] using hmeet
      · rcases hk with rfl | rfl
        · refine .inr (.inr ⟨rfl, ?_⟩)
          rintro rfl
          rwa [← h.meet_lineFeed_iff (s := [])]
        · exact .inl rfl
  · have hmeet := h.not_meet
    rw [meet_append_right (by simp)] at hmeet
    refine iff_of_true (opens_below h (f := ['\n']) rfl .pair ?_ (by simpa [hd] using hmeet))
      (.inr (.inl rfl))
    cases h.ending with
    | «break» _ _ hpost => exact ending_lineFeed hpost
  · exact iff_of_false (not_opens_below h hc hn hk) (by simp [hk, hn])

theorem opens_above_iff : above.Opens e pre.length ↔ above.Clear e.text pre.length := by
  have hstart := (h.between_lineStart).insert ['\n']
  rw [Clear]
  by_cases hr : e.text.BehindReturn pre.length
  · refine iff_of_false (fun hopens => ?_) (not_not.2 hr)
    have hbodies := congrArg List.length ((opens_iff h.toHasLine _).1 hopens [] unbroken_nil)
    have hrest := h.lines_body_append h.unbroken
    rw [change, openLineAbove, text_insert_nil_go, hstart.text_eq, List.append_assoc, bodies,
      List.length_map, ← lineCount, List.singleton_append, h.lineCount_lineFeed hr, lineCount,
      hrest] at hbodies
    simp [beside] at hbodies
  · refine iff_of_true ((opens_iff h.toHasLine _).2 fun s hs => ?_) hr
    rw [← h.meet_lineFeed_iff (s := [])] at hr
    have hline : ((e.go .lineStart 1).insert ['\n']).text.HasLine (pre ++ [['\n']]) b k post := by
      refine ⟨?_, h.unbroken, h.ending⟩
      have hlines := h.lines_insert_line (l := ['\n']) (Break.single rfl).ended rfl hr h.unbroken
        h.ending
      rw [hstart.text_eq, List.append_assoc, hlines]
      simp
    have htext := (Between.go_up (by simpa using hstart) hline |>.insert s).text_eq
    have hmeet : ¬ Meet pre.flatten (s ++ ['\n']) := not_meet_unbroken_append hs hr
    have hlines : ((above.change e).insert s).text.lines =
        pre ++ (s ++ ['\n']) :: (b ++ k) :: post := by
      rw [← h.lines_insert_line (.append hs (.single rfl)) (by simp) hmeet h.unbroken h.ending,
        change, openLineAbove, htext]
      simp
    rw [bodies, hlines, List.map_append, List.map_cons, List.map_cons, body_append hs (.single rfl),
      h.ending.body_append h.unbroken]
    rfl

theorem opens_iff_clear (x : Opening) : x.Opens e pre.length ↔ x.Clear e.text pre.length := by
  cases x with
  | lineEnd => exact opens_lineEnd_iff h
  | below => exact opens_below_iff h
  | above => exact opens_above_iff h

end

/-- Each of the three keys hands over the focus and leaves the other documents alone. Whatever is
inserted then goes where the key says, if and only if no break near the line is in the way. -/
theorem dispatchKey_opens_iff {w : Workspace} (he : w.editor? = some e)
    (hle : e.cursor.position ≤ e.text.length) (x : Opening) (count : Nat) :
    ∃ e', w.dispatchKey x.token count = (.ok .editor, w.updateEditor fun _ => e') ∧
      e'.focused = true ∧
      ((∀ s, Unbroken s → (e'.insert s).text.bodies =
          x.place e.text.bodies (e.text.positionAt e.cursor.position).line s) ↔
        x.Clear e.text (e.text.positionAt e.cursor.position).line) := by
  obtain ⟨pre, b, k, post, j, h⟩ := exists_place hle
  refine ⟨(x.change e).takeFocus, ?_, rfl, ?_⟩
  · rw [dispatchKey_token, Plan.insert, Plan.carryOut, Workspace.edit_eq_const he]
  · have htext (s : Text) :
        ((x.change e).takeFocus.insert s).text = ((x.change e).insert s).text := rfl
    simp only [htext, h.positionAt_eq]
    exact opens_iff_clear h x

theorem dispatchKey_opens_below :
    let w := (Workspace.ofFiles (.empty [])).withDocument "" "a\r\nb".toList
    ∃ e', w.dispatchKey ['o'] 1 = (.ok .editor, w.updateEditor fun _ => e') ∧
      ∀ s, Unbroken s → (e'.insert s).text.bodies = [['a'], s, ['b']] := by
  intro w
  obtain ⟨e', hdispatch, -, hopens⟩ := dispatchKey_opens_iff (w := w)
    (e := .ofText "" "a\r\nb".toList) rfl (by decide) below 1
  exact ⟨e', hdispatch, hopens.2 (by decide +kernel)⟩

/-- At the end of a line that ends with a carriage return and a line feed, the text goes between the
two. -/
theorem exists_lineEnd_not_opens :
    let w := (Workspace.ofFiles (.empty [])).withDocument "" "a\r\nb".toList
    let after := (w.dispatchKey ['A'] 1).2.updateEditor (·.insert ['x'])
    after.editor?.map (·.text) = some "a\rx\nb".toList ∧
      after.editor?.map (·.text.bodies) = some [['a'], ['x'], ['b']] ∧
      lineEnd.place (bodies "a\r\nb".toList) 0 ['x'] = [['a', 'x'], ['b']] := by
  decide +kernel

end Opening

end ModalEditor
