import ModalEditor.Toml.Value

/-! Building TOML tables from keys and headers. A table is opened at most once, and a value is set
at most once; dotted keys only add to tables that dotted keys or longer headers have named. -/

namespace ModalEditor.Toml

structure Assignment where
  path : List Text
  value : Value

structure Section where
  path : List Text
  isArray : Bool
  assignments : List Assignment

namespace Entries

/-- Sets a new value below a dotted key. The last table on the way must be one that may take
values there: the table of the line itself, or one that dotted keys have named. -/
def assign? (v : Value) (open? : Bool) : List Text → Entries → Option Entries
  | [], _ => none
  | [k], es => if open? && (es.get? k).isNone then some (es.set k v) else none
  | k :: path, es =>
    match es.get? k with
    | none => (assign? v true path []).map fun sub => es.set k (.table .dotted sub)
    | some (.table .dotted sub) =>
      (assign? v true path sub).map fun sub => es.set k (.table .dotted sub)
    | some (.table .implied sub) =>
      (assign? v false path sub).map fun sub => es.set k (.table .implied sub)
    | some (.array true items) =>
      match items.getLast? with
      | some (.table kind sub) =>
        (assign? v false path sub).map fun sub =>
          es.set k (.array true (items.dropLast ++ [.table kind sub]))
      | _ => none
    | some _ => none

def assignAll? (es : Entries) (assignments : List Assignment) : Option Entries :=
  assignments.foldlM (fun es a => assign? a.value true a.path es) es

def openTable? (isArray : Bool) (assignments : List Assignment) :
    List Text → Entries → Option Entries
  | [], _ => none
  | [k], es =>
    match isArray, es.get? k with
    | false, none =>
      (assignAll? [] assignments).map fun sub => es.set k (.table .opened sub)
    | false, some (.table .implied sub) =>
      (assignAll? sub assignments).map fun sub => es.set k (.table .opened sub)
    | true, none =>
      (assignAll? [] assignments).map fun sub => es.set k (.array true [.table .opened sub])
    | true, some (.array true items) =>
      (assignAll? [] assignments).map fun sub =>
        es.set k (.array true (items ++ [.table .opened sub]))
    | _, some _ => none
  | k :: path, es =>
    match es.get? k with
    | none =>
      (openTable? isArray assignments path []).map fun sub => es.set k (.table .implied sub)
    | some (.table .inline _) => none
    | some (.table kind sub) =>
      (openTable? isArray assignments path sub).map fun sub => es.set k (.table kind sub)
    | some (.array true items) =>
      match items.getLast? with
      | some (.table kind sub) =>
        (openTable? isArray assignments path sub).map fun sub =>
          es.set k (.array true (items.dropLast ++ [.table kind sub]))
      | _ => none
    | some _ => none

def addSection? (es : Entries) (s : Section) : Option Entries :=
  openTable? s.isArray s.assignments s.path es

end Entries

end ModalEditor.Toml
