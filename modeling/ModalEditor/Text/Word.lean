import ModalEditor.Text.Blank
import ModalEditor.Unicode.Alphanumeric

namespace ModalEditor.Cluster

open Unicode

def isWord : Text → Bool
  | [] => false
  | c :: _ => c = '_' || isAlphanumeric c

def isBlank (g : Text) : Bool :=
  g.all ModalEditor.isBlank

end ModalEditor.Cluster
