import ModalEditor.Proofs.Plugin.Event
import ModalEditor.Proofs.Workspace.Stack

namespace ModalEditor

namespace CommandLine

variable {c : CommandLine}

theorem get_showCursor (style : CursorStyle) (e : Editor) :
    (showCursor style e).highlights.get cursorOwner =
      if style.block then [blockCursor style e] else [] := by
  rw [showCursor]
  split
  · exact Highlights.get_set ..
  · exact Highlights.get_clear ..

@[simp] theorem blockCursor_showCursor (style : CursorStyle) (e : Editor) :
    blockCursor style (showCursor style e) = blockCursor style e := by
  rw [showCursor]
  split <;> rfl

@[simp] theorem style_refresh (c : CommandLine) : c.refresh.style = c.style := rfl

def ShowsCursor (c : CommandLine) : Prop :=
  c.focus = .commandLine → ∀ e, c.workspace.editor? = some e →
    e.highlights.get cursorOwner = if c.style.block then [blockCursor c.style e] else []

theorem showsCursor_refresh (c : CommandLine) : c.refresh.ShowsCursor := by
  intro _ e he
  rw [refresh, Workspace.editor?_updateEditor] at he
  obtain ⟨e, -, rfl⟩ := Option.map_eq_some_iff.1 he
  rw [get_showCursor, style_refresh, blockCursor_showCursor]

theorem showsCursor_refreshIfFocused (c : CommandLine) : c.refreshIfFocused.ShowsCursor := by
  rw [refreshIfFocused]
  split
  · exact c.showsCursor_refresh
  · rename_i hc
    exact fun hf => absurd hf hc

theorem ShowsCursor.handle (h : c.ShowsCursor) (x : Event) : (c.handle x).ShowsCursor := by
  cases x with
  | textChanged t => exact showsCursor_refreshIfFocused _
  | enter =>
    rcases c.enter_cases with ⟨line, reports, -, he⟩ | ⟨reports, -, he⟩ | ⟨-, he⟩
    all_goals rw [CommandLine.handle, he]
    · exact showsCursor_refreshIfFocused _
    · exact showsCursor_refreshIfFocused _
    -- nothing has been drawn anew, but nothing has changed either
    · exact h
  | focusIn | escape => exact showsCursor_refresh _
  | focusOut =>
    intro hf
    cases hf
  | setLabel => exact h
  | setStyle => exact showsCursor_refreshIfFocused _

end CommandLine

namespace Plugin

open CommandLine (cursorOwner)

variable {w : Workspace} {s : Settings} {xs : List Event}

theorem valid_handleAll {p : Plugin} (h : p.commandLine.workspace.Valid) (xs : List Event) :
    (p.handleAll xs).commandLine.workspace.Valid :=
  commandLine_handleAll (P := (·.workspace.Valid))
    (fun _ x hc => CommandLine.workspace_handle (fun _ i hw => hw.apply (.input i))
      (fun _ x hw => hw.updateEditor (·.apply x)) hc x) h xs

theorem showsCursor_handleAll {p : Plugin} (h : p.commandLine.ShowsCursor) (xs : List Event) :
    (p.handleAll xs).commandLine.ShowsCursor :=
  commandLine_handleAll (fun _ x hc => hc.handle x) h xs

/-- Whatever the plugin has been told, while the command line has the focus and a document is open,
the current one has just one highlight, at the cursor and in the colours that were last asked for;
or none if that style has no block. -/
theorem blockCursor_at_cursor (hw : w.Valid)
    (hf : ((ofSettings w s).handleAll xs).commandLine.focus = .commandLine)
    (hopen : ((ofSettings w s).handleAll xs).commandLine.workspace.documents ≠ []) :
    ∃ e, ((ofSettings w s).handleAll xs).commandLine.workspace.editor? = some e ∧
      e.highlights.get cursorOwner =
        let style := (xs.filterMap Event.style?).getLastD s.cursor
        if style.block then
          [{ first := e.cursor.position
             last := min (e.cursor.position + 1) e.text.length
             foreground := style.foreground
             background := style.background }]
        else [] := by
  have hvalid := valid_handleAll (p := ofSettings w s) hw xs
  have hshows := showsCursor_handleAll (p := ofSettings w s) nofun xs
  have hstyle := style_handleAll (ofSettings w s) xs
  obtain ⟨e, he⟩ := hvalid.exists_editor hopen
  refine ⟨e, he, ?_⟩
  rw [hshows hf e he, hstyle]
  rfl

theorem blockCursor_at_cursor_moved :
    let w := Workspace.withDocument (.ofFiles (.empty [])) "notes" ['a', 'b']
    let red : Settings := { Settings.standard with cursor := ⟨true, "red", "blue"⟩ }
    let xs := [.commandLine .focusIn, .settings red, .commandLine (.textChanged ['l'])]
    let c := ((ofSettings w .standard).handleAll xs).commandLine
    w.Valid ∧ c.focus = .commandLine ∧ c.workspace.documents ≠ [] ∧
      ∃ e, c.workspace.editor? = some e ∧
        e.highlights.get cursorOwner = [⟨1, 2, "red", "blue"⟩] := by
  intro w red xs c
  have hw : w.Valid := (Workspace.Reachable.withDocument _ _ _).valid
  have hf : c.focus = .commandLine := by decide +kernel
  have hopen : c.workspace.documents ≠ [] := by decide +kernel
  have hplace : c.workspace.editor?.map (fun e => (e.cursor.position, e.text.length)) =
      some (1, 2) := by decide +kernel
  obtain ⟨e, he, hshown⟩ := blockCursor_at_cursor hw hf hopen
  rw [he, Option.map_some, Option.some.injEq, Prod.mk.injEq] at hplace
  rw [hplace.1, hplace.2] at hshown
  exact ⟨hw, hf, hopen, e, he, hshown⟩

end Plugin

end ModalEditor
