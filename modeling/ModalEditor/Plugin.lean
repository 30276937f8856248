import ModalEditor.CommandLine

namespace ModalEditor

structure Plugin where
  commandLine : CommandLine
  escapeShortcut : String

structure Registration where
  widgets : List String
  shortcuts : List String
  deriving DecidableEq, Repr

namespace Plugin

def title : String := "Vim"

def icon : Option String := none

def actions : List String := []

def allowsClosing (_cancelable : Bool) : Bool := true

def ofSettings (w : Workspace) (s : Settings) : Plugin :=
  { commandLine := .ofSettings w s, escapeShortcut := s.escapeShortcut }

def registration (p : Plugin) : Registration :=
  { widgets := [p.commandLine.label], shortcuts := [p.escapeShortcut] }

def update (p : Plugin) (f : CommandLine → CommandLine) : Plugin :=
  { p with commandLine := f p.commandLine }

def applySettings (p : Plugin) (s : Settings) : Plugin :=
  { commandLine := (p.commandLine.setLabel s.label).setStyle s.cursor
    escapeShortcut := s.escapeShortcut }

def shortcut (p : Plugin) (name : String) : Plugin :=
  if name = p.escapeShortcut then p.update .escape else p

end Plugin

end ModalEditor
