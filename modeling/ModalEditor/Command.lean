import ModalEditor.Text.Blank
import ModalEditor.Text.Digits

namespace ModalEditor

inductive FileCommand
  | write
  | quit
  | writeQuit
  | new
  | edit
  deriving DecidableEq, Repr

namespace FileCommand

def bindings : List (String × FileCommand) :=
  [("w", write), ("q", quit), ("wq", writeQuit), ("n", new), ("e", edit)]

def ofName? (name : Text) : Option FileCommand :=
  bindings.lookup (.ofList name)

def names : List String :=
  (bindings.map (·.1)).mergeSort (fun a b => decide (a ≤ b))

end FileCommand

inductive Command
  | ignored
  | goToLine (number : Nat)
  | named (name arguments : Text)
  deriving DecidableEq, Repr

namespace Command

/-- The greatest number of 64 bits; greater line numbers count as this one. -/
def maxLineNumber : Nat := 18446744073709551615

def parse (line : Text) : Command :=
  let body := line.trimFront
  let name := body.takeWhile (!isBlank ·)
  if name.isEmpty || name.head? == some '_' then ignored
  else if name.all Text.isDigit then
    goToLine ((Text.decimalUpTo? maxLineNumber name).getD maxLineNumber)
  else named name (Text.trimFront (body.dropWhile (!isBlank ·)))

end Command

end ModalEditor
