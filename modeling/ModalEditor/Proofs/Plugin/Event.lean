import ModalEditor.Plugin
import ModalEditor.Proofs.CommandLine.Event

namespace ModalEditor.Plugin

inductive Event
  | commandLine (x : CommandLine.Event)
  | shortcut (name : String)
  | settings (s : Settings)
  deriving DecidableEq, Repr

def handle (p : Plugin) : Event → Plugin
  | .commandLine x => p.update (·.handle x)
  | .shortcut name => p.shortcut name
  | .settings s => p.applySettings s

def handleAll (p : Plugin) (xs : List Event) : Plugin :=
  xs.foldl handle p

@[simp] theorem handleAll_concat (p : Plugin) (xs : List Event) (x : Event) :
    p.handleAll (xs ++ [x]) = (p.handleAll xs).handle x := by
  simp [handleAll]

section Kept

variable {P : CommandLine → Prop} {p : Plugin}

theorem commandLine_handle {x : Event} (hstep : ∀ c y, y ≠ .enter → P c → P (c.handle y))
    (henter : x = .commandLine .enter → P p.commandLine.enter) (h : P p.commandLine) :
    P (p.handle x).commandLine := by
  cases x with
  | commandLine y =>
    by_cases hy : y = .enter
    · subst hy
      exact henter rfl
    · exact hstep _ y hy h
  | shortcut name =>
    rw [handle, shortcut]
    split
    · exact hstep _ .escape nofun h
    · exact h
  | settings s => exact hstep _ (.setStyle s.cursor) nofun (hstep _ (.setLabel s.label) nofun h)

theorem commandLine_handleAll (hstep : ∀ c y, P c → P (c.handle y)) (h : P p.commandLine)
    (xs : List Event) : P (p.handleAll xs).commandLine := by
  induction xs using List.reverseRecOn with
  | nil => exact h
  | append_singleton xs x ih =>
    rw [handleAll_concat]
    exact commandLine_handle (fun c y _ => hstep c y) (fun _ => hstep _ .enter ih) ih

end Kept

def Event.style? : Event → Option CursorStyle
  | .commandLine x => x.style?
  | .shortcut _ => none
  | .settings s => some s.cursor

theorem style_handle (p : Plugin) (x : Event) :
    (p.handle x).commandLine.style = x.style?.getD p.commandLine.style := by
  cases x with
  | commandLine y => exact p.commandLine.style_handle y
  | shortcut name =>
    rw [handle, shortcut]
    split <;> rfl
  | settings s => exact (p.commandLine.setLabel s.label).style_handle (.setStyle s.cursor)

theorem style_handleAll (p : Plugin) (xs : List Event) :
    (p.handleAll xs).commandLine.style =
      (xs.filterMap Event.style?).getLastD p.commandLine.style := by
  induction xs generalizing p with
  | nil => rfl
  | cons x xs ih =>
    rw [handleAll, List.foldl_cons, ← handleAll, ih, style_handle, List.filterMap_cons]
    cases x.style? with
    | none => rfl
    | some style => rw [Option.getD_some, List.getLastD_cons]

end ModalEditor.Plugin
