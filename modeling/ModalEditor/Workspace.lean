import ModalEditor.Document

namespace ModalEditor

structure Workspace where
  documents : List Document
  current : Option Nat
  openQueue : List String
  actions : List Action
  untitled : Nat
  files : FileTree

namespace Workspace

def ofFiles (files : FileTree) : Workspace :=
  { documents := [], current := none, openQueue := [], actions := [], untitled := 0, files }

def document? (w : Workspace) : Option Document :=
  w.current.bind (w.documents[·]?)

def editor? (w : Workspace) : Option Editor :=
  w.document?.map (·.editor)

def updateEditor (w : Workspace) (f : Editor → Editor) : Workspace :=
  match w.current with
  | none => w
  | some i =>
    { w with documents := w.documents.modify i fun d => { d with editor := f d.editor } }

@[simp] theorem current_updateEditor (w : Workspace) (f : Editor → Editor) :
    (w.updateEditor f).current = w.current := by
  simp only [updateEditor]
  split <;> simp_all

@[simp] theorem document?_updateEditor (w : Workspace) (f : Editor → Editor) :
    (w.updateEditor f).document? = w.document?.map fun d => { d with editor := f d.editor } := by
  simp only [document?, current_updateEditor]
  cases h : w.current with
  | none => rfl
  | some i => simp [updateEditor, h]

@[simp] theorem editor?_updateEditor (w : Workspace) (f : Editor → Editor) :
    (w.updateEditor f).editor? = w.editor?.map f := by
  simp [editor?, Function.comp_def]

theorem updateEditor_updateEditor (w : Workspace) (f g : Editor → Editor) :
    (w.updateEditor f).updateEditor g = w.updateEditor (g ∘ f) := by
  cases h : w.current with
  | none => simp [updateEditor, h]
  | some i => simp [updateEditor, h, List.modify_modify_eq, Function.comp_def]

def add (w : Workspace) (d : Document) : Workspace :=
  { w with documents := w.documents ++ [d], current := some w.documents.length }

def withDocument (w : Workspace) (name : String) (text : Text) : Workspace :=
  w.add ⟨none, .ofText name text⟩

/-- Whether all went well, and the workspace that there is in either case. -/
abbrev Performed := Except ActionError Unit × Workspace

def openFile (w : Workspace) (path : String) : Performed :=
  match w.files.readText path with
  | .error e => (.error (.reading path e), w)
  | .ok text => (.ok (), w.add ⟨some path, .ofText (FileTree.fileName path) text⟩)

def openPath (w : Workspace) (path : String) : Except ActionError Workspace :=
  (w.openFile path).1.map fun _ => (w.openFile path).2

def queuePath (w : Workspace) (path : String) : Workspace :=
  { w with openQueue := w.openQueue ++ [path] }

/-- The path leaves the queue, whether or not it can be opened. -/
def openQueued (w : Workspace) : Performed :=
  match w.openQueue with
  | [] => (.ok (), w)
  | path :: openQueue => openFile { w with openQueue } path

def save (w : Workspace) : Performed :=
  match w.document? with
  | none => (.error .noDocument, w)
  | some d =>
    match d.path with
    | none => (.error (.noFileName d.editor.name), w)
    | some path =>
      match w.files.writeText path d.editor.text with
      | .error e => (.error (.writing path e), w)
      | .ok files => (.ok (), { w with files })

/-- Removes the current document; the one that takes its place becomes current, or the last. -/
def close (w : Workspace) : Performed :=
  match w.current with
  | none => (.error .noDocument, w)
  | some i =>
    let documents := w.documents.eraseIdx i
    let current := if documents.isEmpty then none else some (min i (documents.length - 1))
    (.ok (), { w with documents, current })

def newDocument (w : Workspace) : Workspace :=
  let w := { w with untitled := w.untitled + 1 }
  w.withDocument ("untitled" ++ toString w.untitled) []

def reload (w : Workspace) : Performed :=
  match w.document? with
  | none => (.error .noDocument, w)
  | some d =>
    match d.path with
    | none => (.error (.neverSaved d.editor.name), w)
    | some path =>
      match w.files.readText path with
      | .error e => (.error (.reloading path e), w)
      | .ok text => (.ok (), w.updateEditor (·.replaceText text))

def effect (w : Workspace) : Action → Performed
  | .save => w.save
  | .close => w.close
  | .new => (.ok (), w.newDocument)
  | .openQueued => w.openQueued
  | .reload => w.reload

def request (w : Workspace) (a : Action) : Workspace :=
  { w with actions := w.actions ++ [a] }

def perform (w : Workspace) (a : Action) : Performed :=
  (w.request a).effect a

def performAll (w : Workspace) : List Action → Performed
  | [] => (.ok (), w)
  | a :: as =>
    match w.perform a with
    | (.ok (), w) => w.performAll as
    | (.error e, w) => (.error e, w)

end Workspace

end ModalEditor
