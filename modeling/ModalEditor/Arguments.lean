namespace ModalEditor

structure Arguments where
  path : Option String
  settings : Option String
  deriving DecidableEq, Repr

inductive Invocation
  | edit (a : Arguments)
  | version
  | help
  | misuse
  deriving DecidableEq, Repr

namespace Arguments

def none : Arguments := ⟨.none, .none⟩

def setPath? (a : Arguments) (value : String) : Option Arguments :=
  if value.isEmpty ∨ a.path.isSome then .none else some { a with path := some value }

def setSettings? (a : Arguments) (value : String) : Option Arguments :=
  if value.isEmpty ∨ a.settings.isSome then .none else some { a with settings := some value }

def isPlain (arg : String) : Bool := arg == "-" || !arg.startsWith "-"

def parsePaths (a : Arguments) : List String → Invocation
  | [] => .edit a
  | arg :: rest =>
    match a.setPath? arg with
    | some a => a.parsePaths rest
    | .none => .misuse

def parseAll (a : Arguments) : List String → Invocation
  | [] => .edit a
  | "--" :: rest => a.parsePaths rest
  | "--config" :: value :: rest =>
    if isPlain value then
      match a.setSettings? value with
      | some a => a.parseAll rest
      | .none => .misuse
    else .misuse
  | arg :: rest =>
    if isPlain arg then
      match a.setPath? arg with
      | some a => a.parseAll rest
      | .none => .misuse
    else if arg.startsWith "--config=" then
      match a.setSettings? (arg.drop 9).toString with
      | some a => a.parseAll rest
      | .none => .misuse
    else if arg = "--version" ∨ arg.startsWith "-V" then .version
    else if arg = "--help" ∨ arg.startsWith "-h" then .help
    else .misuse

def parse (args : List String) : Invocation := none.parseAll args

end Arguments

end ModalEditor
