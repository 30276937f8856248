namespace ModalEditor

structure CursorStyle where
  block : Bool
  foreground : String
  background : String
  deriving DecidableEq, Repr

structure Settings where
  label : String
  escapeShortcut : String
  cursor : CursorStyle
  deriving DecidableEq, Repr

def CursorStyle.standard : CursorStyle :=
  { block := true, foreground := "white", background := "black" }

def Settings.standard : Settings :=
  { label := "Vim:", escapeShortcut := "Esc", cursor := .standard }

end ModalEditor
