import Mathlib.Data.List.Basic
import ModalEditor.Dispatch
import ModalEditor.Proofs.Key.Grammar

namespace ModalEditor

namespace Key

def spelling (symbols : List (Char × String)) (c : Char) : Text :=
  ((symbols.lookup c).map String.toList).getD [c]

theorem spelling_eq_singleton {symbols : List (Char × String)} {c : Char}
    (h : symbols.lookup c = none) : spelling symbols c = [c] := by
  rw [spelling, h]
  rfl

theorem foldl_spellOut {symbols : List (Char × String)}
    (h : ∀ e ∈ symbols, ∀ c ∈ e.2.toList, symbols.lookup c = none) (t : Text) :
    symbols.foldl (fun t (symbol, name) => spellOut symbol name t) t =
      t.flatMap (spelling symbols) := by
  induction symbols generalizing t with
  | nil => exact (List.flatMap_singleton' t).symm
  | cons e symbols ih =>
    obtain ⟨symbol, name⟩ := e
    have hrest {c : Char} (hc : List.lookup c ((symbol, name) :: symbols) = none) :
        symbols.lookup c = none :=
      List.lookup_eq_none_iff.2 fun p hp =>
        List.lookup_eq_none_iff.1 hc p (List.mem_cons_of_mem _ hp)
    have hname : name.toList.flatMap (spelling symbols) = name.toList := by
      rw [List.flatMap_congr fun c hc =>
        spelling_eq_singleton (hrest (h _ List.mem_cons_self c hc)), List.flatMap_singleton']
    have hsymbols : ∀ e ∈ symbols, ∀ c ∈ e.2.toList, symbols.lookup c = none :=
      fun e he c hc => hrest (h e (List.mem_cons_of_mem _ he) c hc)
    have hspell := ih hsymbols (spellOut symbol name t)
    rw [List.foldl_cons, hspell, spellOut, List.flatMap_assoc]
    refine List.flatMap_congr fun c _ => ?_
    by_cases hc : c = symbol
    · simp [hc, hname, spelling]
    · have hc' : (c == symbol) = false := beq_eq_false_iff_ne.2 hc
      simp [hc, hc', spelling, List.lookup_cons]

theorem nameOf_eq_flatMap (t : Text) : nameOf t = t.flatMap (spelling symbolNames) := by
  have hplain : ∀ e ∈ symbolNames, e.2.toList.all fun c => (symbolNames.lookup c).isNone := by
    decide
  exact foldl_spellOut (fun e he c hc => by simpa using List.all_eq_true.1 (hplain e he) c hc) t

theorem nameOf_append (s t : Text) : nameOf (s ++ t) = nameOf s ++ nameOf t := by
  rw [nameOf_eq_flatMap, nameOf_eq_flatMap, nameOf_eq_flatMap, List.flatMap_append]

theorem spelling_cases (c : Char) :
    (∃ name, (c, name) ∈ symbolNames ∧ spelling symbolNames c = name.toList) ∨
      spelling symbolNames c = [c] := by
  cases h : symbolNames.lookup c with
  | none => exact .inr (spelling_eq_singleton h)
  | some name =>
    obtain ⟨before, after, hsplit, -⟩ := List.lookup_eq_some_iff.1 h
    refine .inl ⟨name, by simp [hsplit], ?_⟩
    rw [spelling, h]
    rfl

theorem spelling_ne_nil (c : Char) : spelling symbolNames c ≠ [] := by
  rcases spelling_cases c with ⟨name, hmem, h⟩ | h
  · have hne : ∀ e ∈ symbolNames, e.2.toList ≠ [] := by decide
    exact h ▸ hne _ hmem
  · simp [h]

theorem spelling_injective : Function.Injective (spelling symbolNames) := by
  have hlong : ∀ e ∈ symbolNames, 1 < e.2.toList.length := by decide
  have hname : ∀ e ∈ symbolNames, ∀ e' ∈ symbolNames, e.2.toList = e'.2.toList → e.1 = e'.1 := by
    decide
  intro c d h
  rcases spelling_cases c with ⟨name, hmem, hc⟩ | hc <;>
    rcases spelling_cases d with ⟨name', hmem', hd⟩ | hd <;>
    rw [hc, hd] at h
  · exact hname _ hmem _ hmem' h
  · have := hlong _ hmem
    simp [h] at this
  · have := hlong _ hmem'
    simp [← h] at this
  · exact List.singleton_inj.1 h

end Key

namespace KeySequence

open Key

/-- A pending key with any other, or a single key that is not pending. -/
inductive IsToken : Text → Prop
  | single {k : Char} : k ∉ pendingKeys → IsToken [k]
  | pair {k c : Char} : k ∈ pendingKeys → IsToken [k, c]

instance : (t : Text) → Decidable (IsToken t)
  | [] => isFalse nofun
  | [k] => decidable_of_iff (k ∉ pendingKeys) ⟨.single, fun | .single h => h⟩
  | [k, _] => decidable_of_iff (k ∈ pendingKeys) ⟨.pair, fun | .pair h => h⟩
  | _ :: _ :: _ :: _ => isFalse nofun

theorem IsToken.head?_eq_underscore_iff {t : Text} (h : IsToken t) :
    t.head? = some '_' ↔ t = ['_'] := by
  cases h with
  | single => simp
  | @pair k c hk =>
    have hne : k ≠ '_' := by
      rintro rfl
      exact absurd hk (by decide)
    simp [hne]

theorem isToken_of_parse? {t : Text} {s : KeySequence} (h : parse? t = some s) :
    IsToken s.token := by
  cases reads_of_parse? h with
  | zero => exact .single (by decide)
  | single _ _ hp _ => exact .single hp
  | pair _ hp => exact .pair hp

theorem spelling_ne_append {k p c : Char} (hk : k ∉ pendingKeys) (hp : p ∈ pendingKeys) :
    spelling symbolNames k ≠ spelling symbolNames p ++ spelling symbolNames c := by
  -- of the keys of their own only zero has a name that starts like that of a pending key
  have hstart : ∀ e ∈ symbolNames, e.1 ∉ pendingKeys → pendingKeys.all fun p =>
      decide (spelling symbolNames p <+: e.2.toList →
        e.2.toList = spelling symbolNames p ++ ['E', 'R', 'O']) := by
    decide
  have hrest : ∀ e ∈ symbolNames, e.2.toList ≠ ['E', 'R', 'O'] := by decide
  intro h
  rcases spelling_cases k with ⟨name, hmem, hname⟩ | hname
  · rw [hname] at h
    have hc := of_decide_eq_true (List.all_eq_true.1 (hstart _ hmem hk) p hp)
      (h ▸ List.prefix_append _ _)
    rw [h] at hc
    replace hc := List.append_cancel_left hc
    rcases spelling_cases c with ⟨name', hmem', hname'⟩ | hname'
    · exact hrest _ hmem' (hname'.symm.trans hc)
    · simp [hname'] at hc
  · rw [hname] at h
    have hlength := congrArg List.length h
    have hp := List.length_pos_iff.2 (spelling_ne_nil p)
    have hc := List.length_pos_iff.2 (spelling_ne_nil c)
    simp only [List.length_append, List.length_singleton] at hlength
    omega

theorem eq_of_spelling_append {p q c d : Char} (hp : p ∈ pendingKeys) (hq : q ∈ pendingKeys)
    (h : spelling symbolNames p ++ spelling symbolNames c =
      spelling symbolNames q ++ spelling symbolNames d) : p = q ∧ c = d := by
  have hstart : pendingKeys.all fun p => pendingKeys.all fun q =>
      decide ((spelling symbolNames p).head? = (spelling symbolNames q).head? → p = q) := by
    decide
  have hhead := congrArg List.head? h
  rw [List.head?_append_of_ne_nil _ (spelling_ne_nil p),
    List.head?_append_of_ne_nil _ (spelling_ne_nil q)] at hhead
  obtain rfl := of_decide_eq_true
    (List.all_eq_true.1 (List.all_eq_true.1 hstart p hp) q hq) hhead
  exact ⟨rfl, spelling_injective (List.append_cancel_left h)⟩

theorem IsToken.eq_of_nameOf_eq {s t : Text} (hs : IsToken s) (ht : IsToken t)
    (h : nameOf s = nameOf t) : s = t := by
  rw [nameOf_eq_flatMap, nameOf_eq_flatMap] at h
  cases hs with
  | single hk =>
    cases ht with
    | single =>
      obtain rfl := spelling_injective (by simpa using h)
      rfl
    | pair hp => exact absurd (by simpa using h) (spelling_ne_append hk hp)
  | pair hp =>
    cases ht with
    | single hk => exact absurd (by simpa using h.symm) (spelling_ne_append hk hp)
    | pair hq =>
      obtain ⟨rfl, rfl⟩ := eq_of_spelling_append hp hq (by simpa using h)
      rfl

example : nameOf "DOLLAR".toList = nameOf ['$'] := by decide

end KeySequence

namespace Key

open KeySequence

def tokens : List (Text × Key) :=
  [(['h'], left), (['j'], down), (['k'], up), (['l'], right), (['w'], nextWord), ([' '], right),
    (['$'], lineEnd), (['0'], lineStart), (['i'], insert), (['a'], append),
    (['A'], appendAtLineEnd), (['o'], openBelow), (['O'], openAbove), (['u'], undo),
    (['d', 'd'], deleteLine), (['D'], deleteToLineEnd), (['d', 'w'], deleteWord),
    (['Z', 'Z'], saveAndClose)]

theorem map_nameOf_tokens :
    tokens.map (fun e => (String.ofList (nameOf e.1), e.2)) = bindings := by
  decide

theorem ofName?_of_mem_tokens {t : Text} {k : Key} (h : (t, k) ∈ tokens) :
    ofName? (nameOf t) = some k := by
  have hall : ∀ e ∈ tokens, ofName? (nameOf e.1) = some e.2 := by decide +kernel
  exact hall (t, k) h

theorem isToken_of_mem_tokens {t : Text} {k : Key} (h : (t, k) ∈ tokens) : IsToken t := by
  have hall : ∀ e ∈ tokens, IsToken e.1 := by decide
  exact hall (t, k) h

theorem ofName?_nameOf_iff {t : Text} {k : Key} (h : IsToken t) :
    ofName? (nameOf t) = some k ↔ (t, k) ∈ tokens := by
  refine ⟨fun hk => ?_, ofName?_of_mem_tokens⟩
  obtain ⟨before, after, hsplit, -⟩ := List.lookup_eq_some_iff.1 hk
  have hmem : (String.ofList (nameOf t), k) ∈ bindings := by simp [hsplit]
  rw [← map_nameOf_tokens] at hmem
  obtain ⟨⟨t', k'⟩, hmem', heq⟩ := List.mem_map.1 hmem
  obtain ⟨hname, rfl⟩ := Prod.mk.inj heq
  rwa [h.eq_of_nameOf_eq (isToken_of_mem_tokens hmem') (String.ofList_injective hname).symm]

end Key

namespace Workspace

open Key KeySequence

theorem dispatchKey_of_mem_tokens {t : Text} {k : Key} (h : (t, k) ∈ tokens) (w : Workspace)
    (count : Nat) : w.dispatchKey t count = w.press count k := by
  have hall : ∀ e ∈ tokens, e.1.head? ≠ some '_' := by decide
  exact w.dispatchKey_of_key count (hall (t, k) h) (ofName?_of_mem_tokens h)

theorem dispatchKey_of_not_mem_tokens {t : Text} (h : IsToken t) (hk : ∀ k, (t, k) ∉ tokens)
    (w : Workspace) (count : Nat) :
    w.dispatchKey t count =
      (.error (if t = ['_'] then .privateKey t else .unknownKey (nameOf t)), w) := by
  have hname : ofName? (nameOf t) = none :=
    Option.eq_none_iff_forall_ne_some.2 fun k hname => hk k ((ofName?_nameOf_iff h).1 hname)
  by_cases hprivate : t = ['_']
  · rw [if_pos hprivate, w.dispatchKey_of_private count (h.head?_eq_underscore_iff.2 hprivate)]
  · rw [if_neg hprivate,
      w.dispatchKey_of_unknown count (mt h.head?_eq_underscore_iff.1 hprivate) hname]

theorem press_eq_error {w : Workspace} {count : Nat} {k : Key} {e : DispatchError}
    (h : (w.press count k).1 = .error e) : e = .noEditor ∨ ∃ cause, e = .action cause := by
  have hedit (focus : Focus) (f : Editor → Editor) (h : (w.edit focus f).1 = .error e) :
      e = .noEditor ∨ ∃ cause, e = .action cause := by
    simp only [edit] at h
    split at h
    · exact .inl (Except.error.inj h).symm
    · cases h
  cases k with
  | saveAndClose =>
    simp only [press, Key.plan, Plan.carryOut, run, Dispatch.ofPerformed] at h
    split at h
    · cases h
    · exact .inr ⟨_, (Except.error.inj h).symm⟩
  | _ => exact hedit _ _ h

/-- Names are spelled character by character, and those of tokens tell the tokens apart. So the
token of a key sequence has the name of a key if and only if it is the very token that the key is
bound to, and that key is pressed then. No other token presses a key: it is refused, and all stays
as it is. -/
theorem dispatchKey_resolves :
    (∀ s t : Text, nameOf (s ++ t) = nameOf s ++ nameOf t) ∧
      (∀ t : Text, nameOf t = t.flatMap (spelling symbolNames)) ∧
      (∀ t t' s s', parse? t = some s → parse? t' = some s' → nameOf s.token = nameOf s'.token →
        s.token = s'.token) ∧
      ∀ t s, parse? t = some s →
        (∀ k, ofName? (nameOf s.token) = some k ↔ (s.token, k) ∈ tokens) ∧
          (∀ k, (s.token, k) ∈ tokens → ∀ (w : Workspace) (count : Nat),
            w.dispatchKey s.token count = w.press count k ∧
              ∀ e, (w.dispatchKey s.token count).1 = .error e →
                e = .noEditor ∨ ∃ cause, e = .action cause) ∧
          ((∀ k, (s.token, k) ∉ tokens) → ∀ (w : Workspace) (count : Nat),
            w.dispatchKey s.token count =
              (.error (if s.token = ['_'] then .privateKey s.token
                else .unknownKey (nameOf s.token)), w)) := by
  refine ⟨nameOf_append, nameOf_eq_flatMap, fun t t' s s' hs hs' hname => ?_, fun t s hs => ?_⟩
  · exact (isToken_of_parse? hs).eq_of_nameOf_eq (isToken_of_parse? hs') hname
  have htoken := isToken_of_parse? hs
  refine ⟨fun k => ofName?_nameOf_iff htoken, fun k hk w count => ?_, fun hk => ?_⟩
  · have hpress := dispatchKey_of_mem_tokens hk w count
    exact ⟨hpress, fun e he => press_eq_error (hpress ▸ he)⟩
  · exact dispatchKey_of_not_mem_tokens htoken hk

end Workspace

end ModalEditor
