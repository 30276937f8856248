import ModalEditor.Files.Tree

namespace ModalEditor.FileTree

variable {t t' : FileTree} {l l' : Location} {path : String}

theorem lookup_filter_ne (entries : List (Location × FileEntry)) (h : l' ≠ l) :
    (entries.filter (·.1 ≠ l)).lookup l' = entries.lookup l' := by
  induction entries with
  | nil => rfl
  | cons entry entries ih =>
    obtain ⟨name, e⟩ := entry
    by_cases hname : name = l
    · have hne : (l' == name) = false := beq_eq_false_iff_ne.2 (hname ▸ h)
      rw [List.filter_cons_of_neg (by simp [hname]), ih, List.lookup_cons, hne]
    · rw [List.filter_cons_of_pos (by simpa using hname), List.lookup_cons, List.lookup_cons, ih]

theorem get?_set_self (e : FileEntry) (h : l ≠ []) : (t.set l e).get? l = some e := by
  simp [get?, set, h]

theorem get?_set_of_ne (e : FileEntry) (h : l' ≠ l) : (t.set l e).get? l' = t.get? l' := by
  have hne : (l' == l) = false := beq_eq_false_iff_ne.2 h
  simp only [get?, set, erase, List.lookup_cons, hne, lookup_filter_ne t.entries h]

theorem follow_cons_eq_ok {here : Location} {name : String} {rest : List String}
    (h : t.follow here (name :: rest) = .ok l) :
    t.get? here = some .directory ∧ t.follow (enter here name) rest = .ok l := by
  simp only [follow] at h
  split at h
  · cases h
  · cases h
  · rename_i hhere
    exact ⟨hhere, h⟩

theorem follow_set {e : FileEntry} (hl : t.get? l ≠ some .directory) {here : Location}
    {names : List String} (h : t.follow here names = .ok l') :
    (t.set l e).follow here names = .ok l' := by
  induction names generalizing here with
  | nil => exact h
  | cons name rest ih =>
    obtain ⟨hhere, hrest⟩ := follow_cons_eq_ok h
    have hne : here ≠ l := by
      rintro rfl
      exact hl hhere
    simp only [follow, get?_set_of_ne e hne, hhere]
    exact ih hrest

theorem resolve_set {e : FileEntry} (hl : t.get? l ≠ some .directory)
    (h : t.resolve path = .ok l') : (t.set l e).resolve path = .ok l' := by
  simp only [resolve] at h ⊢
  split at h
  · cases h
  · rename_i hpath
    rw [if_neg hpath]
    exact follow_set hl h

theorem read_of_resolve {bytes : ByteArray} (hl : t.resolve path = .ok l)
    (h : t.get? l = some (.file bytes)) : t.read path = .ok bytes := by
  simp [read, hl, h, bind, Except.bind]

theorem write_eq_ok {bytes : ByteArray} (h : t.write path bytes = .ok t') :
    ∃ l, t.resolve path = .ok l ∧ t.get? l ≠ some .directory ∧ l ∉ t.locked ∧
      t' = t.set l (.file bytes) := by
  simp only [write] at h
  cases hl : t.resolve path with
  | error e => simp [hl, bind, Except.bind] at h
  | ok l =>
    simp only [hl, bind, Except.bind] at h
    split at h
    · cases h
    · rename_i hdirectory
      split at h
      · cases h
      · rename_i hlocked
        exact ⟨l, rfl, hdirectory, hlocked, (Except.ok.inj h).symm⟩

structure Rewritten (t : FileTree) (path : String) (bytes : ByteArray) (t' : FileTree) : Prop where
  read : t'.read path = .ok bytes
  others : ∃ l, t.resolve path = .ok l ∧ t'.resolve path = .ok l ∧
    ∀ l' ≠ l, t'.get? l' = t.get? l'

theorem write_rewritten {bytes : ByteArray} (h : t.write path bytes = .ok t') :
    t.Rewritten path bytes t' := by
  obtain ⟨l, hl, hdirectory, -, rfl⟩ := write_eq_ok h
  have hroot : l ≠ [] := by
    rintro rfl
    exact hdirectory rfl
  have hresolve := resolve_set (e := .file bytes) hdirectory hl
  exact ⟨read_of_resolve hresolve (get?_set_self _ hroot),
    l, hl, hresolve, fun l' hl' => get?_set_of_ne _ hl'⟩

theorem readText_of_read {text : Text} (h : t.read path = .ok (String.ofList text).toUTF8) :
    t.readText path = .ok text := by
  simp [readText, h, bind, Except.bind]

end ModalEditor.FileTree
