import ModalEditor.Proofs.Plugin.BlockCursor
import ModalEditor.Proofs.Workspace.OnlyCurrent

namespace ModalEditor

def Editor.HasBlockCursor (e : Editor) : Prop :=
  e.highlights.get CommandLine.cursorOwner ≠ []

namespace CommandLine

variable {c : CommandLine}

theorem not_hasBlockCursor_clearHighlight (e : Editor) :
    ¬ (e.clearHighlight cursorOwner).HasBlockCursor :=
  fun h => h (Highlights.get_clear ..)

structure HidesElsewhere (c : CommandLine) : Prop where
  onlyCurrent : c.workspace.OnlyCurrent Editor.HasBlockCursor
  inEditor : c.focus = .editor → c.workspace.Every (¬ ·.HasBlockCursor)

structure Tidy (c : CommandLine) : Prop extends HidesElsewhere c where
  unlessBlock : c.style.block = false → c.workspace.Every (¬ ·.HasBlockCursor)

namespace HidesElsewhere

theorem of_every (h : c.workspace.Every (¬ ·.HasBlockCursor)) : c.HidesElsewhere :=
  ⟨h.onlyCurrent, fun _ => h⟩

theorem of_commandLine (hc : c.focus = .commandLine)
    (h : c.workspace.OnlyCurrent Editor.HasBlockCursor) : c.HidesElsewhere where
  onlyCurrent := h
  inEditor hf := by
    rw [hc] at hf
    cases hf

theorem focusOut (h : c.workspace.OnlyCurrent Editor.HasBlockCursor) :
    c.focusOut.HidesElsewhere :=
  .of_every (h.every_updateEditor not_hasBlockCursor_clearHighlight)

theorem settle (hc : c.focus = .commandLine) {o : Dispatch}
    (h : o.2.OnlyCurrent Editor.HasBlockCursor) : (c.settle o).HidesElsewhere := by
  by_cases ho : o.1 = .ok .editor
  · rw [settle_editor hc ho]
    exact focusOut h
  · obtain ⟨reports, hsettle⟩ := settle_of_ne_editor (c := c) ho
    rw [hsettle]
    exact .of_commandLine hc h

theorem runSequences (h : c.HidesElsewhere) : c.runSequences.HidesElsewhere := by
  refine runSequences_of_runSequence (fun c s hc h => ?_) h
  obtain ⟨x, hx, hne⟩ := c.workspace.changed_dispatchKey s.token s.count
  exact settle (c := { c with buffer := s.rest }) hc
    (h.onlyCurrent.changed hx fun happend => absurd happend hne)

theorem refresh (hc : c.focus = .commandLine) (h : c.HidesElsewhere) : c.refresh.Tidy where
  toHidesElsewhere := .of_commandLine hc (Workspace.onlyCurrent_updateEditor.2 h.onlyCurrent)
  unlessBlock hblock := by
    refine h.onlyCurrent.every_updateEditor fun e he => he ?_
    rw [get_showCursor, if_neg]
    exact Bool.eq_false_iff.1 hblock

theorem refreshIfFocused (h : c.HidesElsewhere) : c.refreshIfFocused.Tidy := by
  rw [CommandLine.refreshIfFocused]
  split
  · rename_i hc
    exact h.refresh hc
  · rename_i hc
    exact ⟨h, fun _ => h.inEditor (Focus.eq_editor hc)⟩

end HidesElsewhere

/-- Return adds a document while the cursor is shown in another one. -/
structure LeavesCursorBehind (c : CommandLine) : Prop where
  focus : c.focus = .commandLine
  block : c.style.block
  isOpen : c.workspace.documents ≠ []
  length_lt : c.workspace.documents.length < c.enter.workspace.documents.length

theorem length_documents_refreshIfFocused (c : CommandLine) :
    c.refreshIfFocused.workspace.documents.length = c.workspace.documents.length :=
  workspace_refreshIfFocused (P := (·.documents.length = c.workspace.documents.length))
    (fun w x hw => (w.length_updateEditor (·.apply x)).trans hw) rfl

theorem onlyCurrent_refreshIfFocused {Q : Editor → Prop} :
    c.refreshIfFocused.workspace.OnlyCurrent Q ↔ c.workspace.OnlyCurrent Q := by
  rw [refreshIfFocused]
  split
  · exact Workspace.onlyCurrent_updateEditor
  · exact Iff.rfl

namespace Tidy

theorem focusIn (h : c.Tidy) : c.focusIn.Tidy :=
  HidesElsewhere.refresh rfl
    (.of_commandLine rfl (Workspace.onlyCurrent_updateEditor.2 h.onlyCurrent))

theorem enter (h : c.Tidy) (hleaves : ¬ c.LeavesCursorBehind) : c.enter.Tidy := by
  rcases c.enter_cases with ⟨line, reports, -, he⟩ | ⟨reports, -, he⟩ | ⟨-, he⟩
  · rw [he]
    refine HidesElsewhere.refreshIfFocused ?_
    by_cases hc : c.focus = .commandLine
    · obtain ⟨x, hx⟩ := c.workspace.changed_dispatchCommand line
      refine .of_commandLine hc (h.onlyCurrent.changed hx fun happend => ?_)
      -- the new document would be on top of one with a highlight, or none has one
      subst happend
      cases hblock : c.style.block with
      | false => exact h.unlessBlock hblock
      | true =>
        intro d hd
        refine absurd ⟨hc, hblock, List.ne_nil_of_mem hd, ?_⟩ hleaves
        rw [he, length_documents_refreshIfFocused]
        exact hx.length_lt
    · exact .of_every (.dispatchCommand (fun _ _ hb => hb rfl) (fun _ _ he => he)
        (fun _ _ he => he) (h.inEditor (Focus.eq_editor hc)) line)
  · rw [he]
    exact HidesElsewhere.refreshIfFocused ⟨h.onlyCurrent, h.inEditor⟩
  · rw [he]
    exact h

theorem handle (h : c.Tidy) {x : Event} (hleaves : x = .enter → ¬ c.LeavesCursorBehind) :
    (c.handle x).Tidy := by
  cases x with
  | textChanged t =>
    exact (HidesElsewhere.runSequences (c := { c with buffer := t })
      ⟨h.onlyCurrent, h.inEditor⟩).refreshIfFocused
  | enter => exact h.enter (hleaves rfl)
  | focusIn | escape => exact h.focusIn
  | focusOut =>
    have hout := HidesElsewhere.focusOut h.onlyCurrent
    exact ⟨hout, fun _ => hout.inEditor rfl⟩
  | setLabel => exact ⟨⟨h.onlyCurrent, h.inEditor⟩, h.unlessBlock⟩
  | setStyle style =>
    exact HidesElsewhere.refreshIfFocused (c := { c with style }) ⟨h.onlyCurrent, h.inEditor⟩

end Tidy

theorem LeavesCursorBehind.not_onlyCurrent (h : c.LeavesCursorBehind)
    (hvalid : c.workspace.Valid) (hshows : c.ShowsCursor) :
    ¬ c.enter.workspace.OnlyCurrent Editor.HasBlockCursor := by
  obtain ⟨e, he⟩ := hvalid.exists_editor h.isOpen
  have hshown : e.HasBlockCursor := by
    rw [Editor.HasBlockCursor, hshows h.focus e he, if_pos h.block]
    exact List.cons_ne_nil _ _
  have hlt := h.length_lt
  rcases c.enter_cases with ⟨line, reports, -, henter⟩ | ⟨reports, -, henter⟩ | ⟨-, henter⟩
  · obtain ⟨x, hx⟩ := c.workspace.changed_dispatchCommand line
    rw [henter, length_documents_refreshIfFocused] at hlt
    obtain rfl := hx.eq_append hlt
    rw [henter, onlyCurrent_refreshIfFocused]
    exact hx.not_onlyCurrent he hshown
  · rw [henter, length_documents_refreshIfFocused] at hlt
    exact absurd hlt (Nat.lt_irrefl _)
  · rw [henter] at hlt
    exact absurd hlt (Nat.lt_irrefl _)

theorem textChanged_insert {e : Editor} (hc : c.focus = .commandLine)
    (he : c.workspace.editor? = some e) :
    c.textChanged ['i'] = focusOut { c with
      buffer := []
      workspace := c.workspace.updateEditor Editor.takeFocus } := by
  have hparse : KeySequence.parse? ['i'] = some ⟨1, ['i'], []⟩ := by decide
  have hdispatch : c.workspace.dispatchKey ['i'] 1 =
      (.ok .editor, c.workspace.updateEditor Editor.takeFocus) :=
    Workspace.edit_of_editor? he _ _
  rw [textChanged, runSequences_of_some (c := { c with buffer := ['i'] }) hc hparse, runSequence,
    hdispatch, settle_editor (c := { c with buffer := [] }) hc rfl, runSequences_of_editor rfl,
    refreshIfFocused, if_neg (by simp [focusOut])]

theorem LeavesCursorBehind.insert (h : c.LeavesCursorBehind) (hvalid : c.workspace.Valid)
    (henter : c.enter.workspace.Valid) (hshows : c.ShowsCursor) :
    (c.enter.textChanged ['i']).focus = .editor ∧
      ∃ d ∈ (c.enter.textChanged ['i']).workspace.documents, d.editor.HasBlockCursor := by
  have hopen : c.enter.workspace.documents ≠ [] :=
    List.ne_nil_of_length_pos (Nat.zero_lt_of_lt h.length_lt)
  obtain ⟨e, he⟩ := henter.exists_editor hopen
  rw [textChanged_insert (c.focus_enter.trans h.focus) he]
  refine ⟨rfl, ?_⟩
  by_contra hnone
  have hevery : Workspace.Every (¬ ·.HasBlockCursor)
      ((c.enter.workspace.updateEditor Editor.takeFocus).updateEditor
        (·.clearHighlight cursorOwner)) :=
    fun d hd hshown => hnone ⟨d, hd, hshown⟩
  -- the key takes the highlight of the new document only, so the old one had none either
  have honly := hevery.onlyCurrent
  rw [Workspace.onlyCurrent_updateEditor, Workspace.onlyCurrent_updateEditor] at honly
  exact h.not_onlyCurrent hvalid hshows honly

end CommandLine

namespace Plugin

open CommandLine (cursorOwner)

variable {p : Plugin} {w : Workspace} {s : Settings} {xs : List Event}

theorem tidy_handle (h : p.commandLine.Tidy) {x : Event}
    (hx : x = .commandLine .enter → ¬ p.commandLine.LeavesCursorBehind) :
    (p.handle x).commandLine.Tidy :=
  commandLine_handle (fun _ _ hy hc => hc.handle fun he => absurd he hy)
    (fun he => h.enter (hx he)) h

theorem tidy_handleAll (h : p.commandLine.Tidy)
    (hxs : ∀ front back, xs = front ++ .commandLine .enter :: back →
      ¬ (p.handleAll front).commandLine.LeavesCursorBehind) :
    (p.handleAll xs).commandLine.Tidy := by
  induction xs using List.reverseRecOn with
  | nil => exact h
  | append_singleton xs x ih =>
    rw [handleAll_concat]
    refine tidy_handle (ih fun front back hfront => ?_) fun hx => ?_
    · exact hxs front (back ++ [x]) (by rw [hfront, List.append_assoc, List.cons_append])
    · exact hxs xs [] (by rw [hx])

/-- Once the editor has the focus no document has a highlight of the cursor, as long as none has
been left behind with one. This is needed: wherever return leaves one behind, the key for inserting
gives the focus to the editor with the highlight still there. -/
theorem blockCursor_left_behind
    (hw : ∀ d ∈ w.documents, d.editor.highlights.get cursorOwner = []) :
    ((∀ front back, xs = front ++ .commandLine .enter :: back →
        ¬ ((ofSettings w s).handleAll front).commandLine.LeavesCursorBehind) →
      ((ofSettings w s).handleAll xs).commandLine.focus = .editor →
      ∀ d ∈ ((ofSettings w s).handleAll xs).commandLine.workspace.documents,
        d.editor.highlights.get cursorOwner = []) ∧
    (w.Valid → ((ofSettings w s).handleAll xs).commandLine.LeavesCursorBehind →
      let c := (((ofSettings w s).handleAll xs).commandLine.handle .enter).handle
        (.textChanged ['i'])
      c.focus = .editor ∧ ∃ d ∈ c.workspace.documents, d.editor.highlights.get cursorOwner ≠ []) := by
  constructor
  · intro hxs hf d hd
    have hstart : (ofSettings w s).commandLine.HidesElsewhere :=
      .of_every fun d hd hshown => hshown (hw d hd)
    have htidy := tidy_handleAll (p := ofSettings w s) ⟨hstart, fun _ => hstart.inEditor rfl⟩ hxs
    exact not_not.1 (htidy.inEditor hf d hd)
  · intro hvalid hleaves
    have henter := valid_handleAll (p := ofSettings w s) hvalid (xs ++ [.commandLine .enter])
    rw [handleAll_concat] at henter
    exact hleaves.insert (valid_handleAll (p := ofSettings w s) hvalid xs) henter
      (showsCursor_handleAll (p := ofSettings w s) nofun xs)

theorem blockCursor_left_behind_close :
    let w := (Workspace.withDocument (.ofFiles (.empty [])) "notes" ['x']).newDocument
    let close : List Event := [.commandLine .focusIn, .commandLine (.textChanged [':', 'q'])]
    let xs := close ++ .commandLine .enter :: [.commandLine (.textChanged ['i'])]
    let c := ((ofSettings w .standard).handleAll xs).commandLine
    let new : List Event := [.commandLine .focusIn, .commandLine (.textChanged [':', 'n'])]
    let b := ((ofSettings w .standard).handleAll new).commandLine
    (∀ d ∈ w.documents, d.editor.highlights.get cursorOwner = []) ∧ w.Valid ∧
      (∀ front back, xs = front ++ .commandLine .enter :: back →
        ¬ ((ofSettings w .standard).handleAll front).commandLine.LeavesCursorBehind) ∧
      (c.focus = .editor ∧
        ∀ d ∈ c.workspace.documents, d.editor.highlights.get cursorOwner = []) ∧
      b.LeavesCursorBehind ∧
        ∃ d ∈ ((b.handle .enter).handle (.textChanged ['i'])).workspace.documents,
          d.editor.highlights.get cursorOwner ≠ [] := by
  intro w close xs c new b
  have hw : ∀ d ∈ w.documents, d.editor.highlights.get cursorOwner = [] := by decide +kernel
  have hvalid : w.Valid :=
    (Workspace.Changed.append _ rfl rfl).valid (Workspace.Reachable.withDocument _ _ _).valid
  have hxs : ∀ front back, xs = front ++ .commandLine .enter :: back →
      ¬ ((ofSettings w .standard).handleAll front).commandLine.LeavesCursorBehind := by
    intro front back hfront hleaves
    have hparts : front = close ∧ back = [.commandLine (.textChanged ['i'])] := by
      simpa [xs, close, List.cons_eq_append_iff] using hfront
    have hlt := hleaves.length_lt
    rw [hparts.1] at hlt
    exact absurd hlt (by decide +kernel)
  have hf : c.focus = .editor := by decide +kernel
  have hb : b.LeavesCursorBehind :=
    ⟨by decide +kernel, by decide +kernel, by decide +kernel, by decide +kernel⟩
  exact ⟨hw, hvalid, hxs, ⟨hf, (blockCursor_left_behind hw).1 hxs hf⟩, hb,
    ((blockCursor_left_behind hw).2 hvalid hb).2⟩

theorem exists_blockCursor_left_behind :
    let w := Workspace.withDocument (.ofFiles (.empty [])) "notes" ['x']
    let xs := [.commandLine .focusIn, .commandLine (.textChanged [':', 'n']), .commandLine .enter,
      .commandLine (.textChanged ['i'])]
    let c := ((ofSettings w .standard).handleAll xs).commandLine
    (∀ d ∈ w.documents, d.editor.highlights.get cursorOwner = []) ∧ c.focus = .editor ∧
      c.workspace.documents.map (·.editor.highlights.get cursorOwner) =
        [[⟨0, 1, "white", "black"⟩], []] := by
  decide +kernel

end Plugin

end ModalEditor
