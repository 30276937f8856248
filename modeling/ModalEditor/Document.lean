import ModalEditor.Editor.Basic
import ModalEditor.Files.Tree

namespace ModalEditor

structure Document where
  path : Option String
  editor : Editor
  deriving DecidableEq, Repr

inductive Action
  | save
  | close
  | new
  | openQueued
  | reload
  deriving DecidableEq, Repr

inductive ActionError
  | noDocument
  | noFileName (name : String)
  | neverSaved (name : String)
  | reading (path : String) (cause : FileError)
  | writing (path : String) (cause : FileError)
  | reloading (path : String) (cause : FileError)
  deriving DecidableEq, Repr

namespace ActionError

def message : ActionError → String
  | noDocument => "no document open"
  | noFileName name => "no file name for " ++ name
  | neverSaved name => name ++ " has never been saved"
  | reading path cause => "reading " ++ path ++ ": " ++ cause.message
  | writing path cause => "writing " ++ path ++ ": " ++ cause.message
  | reloading path cause => "reloading " ++ path ++ ": " ++ cause.message

end ActionError

namespace Action

def name : Action → String
  | save => "save"
  | close => "close"
  | new => "new"
  | openQueued => "open"
  | reload => "reload"

end Action

end ModalEditor
