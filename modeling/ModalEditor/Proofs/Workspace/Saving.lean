import ModalEditor.Proofs.Command.Parse
import ModalEditor.Proofs.Files.Write
import ModalEditor.Proofs.Workspace.Failure
import ModalEditor.Proofs.Workspace.Operation

namespace ModalEditor

/-- The command for saving and closing, whatever stands behind it, and the key for it, whatever its
count. -/
inductive Input.SavesAndCloses : Input → Prop
  | command {indent rest : Text} : indent.all isBlank → rest.head?.all isBlank →
      SavesAndCloses (.command (indent ++ "wq".toList ++ rest))
  | key (count : Nat) : SavesAndCloses (.key "ZZ".toList count)

theorem Input.SavesAndCloses.plan_eq {i : Input} (h : i.SavesAndCloses) :
    i.plan = .saveAndClose := by
  cases h with
  | @command indent rest hindent hrest =>
    have hname : "wq".toList.all fun c => !isBlank c := by decide
    have hparse : Command.parse (indent ++ "wq".toList ++ rest) =
        .named "wq".toList rest.trimFront :=
      Command.parse_append (List.all_eq_true.1 hindent) (by simpa using List.all_eq_true.1 hname)
        (by decide) ((Option.all_eq_true _ _).1 hrest)
    simp only [Input.plan, hparse]
    rfl
  | key count => rfl

theorem Editor.Within.replaceText_text {e : Editor} (h : e.Within) :
    e.replaceText e.text = { e with history := [], cursor := .caret e.cursor.position } := by
  rw [Editor.replaceText, Nat.min_eq_left h.cursor.position]

namespace Workspace

variable {v w w' : Workspace} {n : Nat} {d : Document} {path : String} {files : FileTree}

structure Saves (w : Workspace) (n : Nat) (d : Document) (path : String) (files : FileTree) :
    Prop where
  current : w.current = some n
  document : w.documents[n]? = some d
  hasPath : d.path = some path
  written : w.files.Rewritten path (String.ofList d.editor.text).toUTF8 files

theorem saves_of_perform_save (h : w.perform .save = (.ok (), w')) :
    ∃ n d path, w.Saves n d path w'.files ∧ w'.documents = w.documents ∧
      w'.current = w.current := by
  obtain ⟨d, path, files, hd, hpath, hfiles, rfl⟩ := save_eq_ok (w := w.request .save) h
  obtain ⟨n, hn, hd⟩ := Option.bind_eq_some_iff.1 hd
  exact ⟨n, d, path, ⟨hn, hd, hpath, FileTree.write_rewritten hfiles⟩, rfl, rfl⟩

namespace Saves

theorem document? (h : w.Saves n d path files) : w.document? = some d := by
  rw [Workspace.document?, h.current, Option.bind_some, h.document]

theorem readText (h : w.Saves n d path files) : files.readText path = .ok d.editor.text :=
  FileTree.readText_of_read h.written.read

theorem openPath (h : w.Saves n d path v.files) :
    v.openPath path = .ok (v.add ⟨some path, .ofText (FileTree.fileName path) d.editor.text⟩) := by
  rw [openPath_eq_ok_iff, openFile, h.readText]

theorem perform_reload (h : w.Saves n d path v.files) (hd : v.document? = some d)
    (he : d.editor.Within) :
    ∃ w', v.perform .reload = (.ok (), w') ∧ w'.files = v.files ∧ w'.document? = some { d with
      editor := { d.editor with history := [], cursor := .caret d.editor.cursor.position } } := by
  have hasked : (v.request .reload).document? = some d := hd
  have hread : (v.request .reload).files.readText path = .ok d.editor.text := h.readText
  refine ⟨(v.request .reload).updateEditor (·.replaceText d.editor.text), ?_, ?_, ?_⟩
  · simp only [perform, effect, reload, hasked, h.hasPath, hread]
  · simp only [updateEditor]
    split <;> rfl
  · rw [document?_updateEditor, hasked, Option.map_some, he.replaceText_text]

end Saves

theorem saves_of_run_saveAndClose {focus : Focus} (h : w.run [.save, .close] = (.ok focus, w')) :
    ∃ n d path, w.Saves n d path w'.files ∧ w'.documents = w.documents.eraseIdx n := by
  obtain ⟨saved, hsave, hclose⟩ := run_saveAndClose_eq_ok h
  obtain ⟨n, d, path, hsaves, hdocuments, hcurrent⟩ := saves_of_perform_save hsave
  obtain ⟨i, hi, herased, -, hfiles⟩ := close_eq_ok (w := saved.request .close) hclose
  -- saving keeps the current document, so the one that is closed is the one saved
  obtain rfl : i = n := Option.some.inj (hi.symm.trans (hcurrent.trans hsaves.current))
  refine ⟨i, d, path, ?_, herased.trans (congrArg (·.eraseIdx i) hdocuments)⟩
  rw [hfiles]
  exact hsaves

/-- Saving and closing either has written the text of the current document to its file and removed
that document and no other, or fails because saving fails, with all documents and files in place.
After any save the file is read back as the text it was saved from; reading it again into the same
document clears the history and the selection and keeps the cursor where it is. -/
theorem saveAndClose_keeps_text (h : w.Reachable) :
    (∀ i : Input, i.SavesAndCloses →
      (∃ n d path w', w.dispatch i = (.ok .commandLine, w') ∧ w.Saves n d path w'.files ∧
        w'.documents = w.documents.eraseIdx n ∧
        w'.openPath path =
          .ok (w'.add ⟨some path, .ofText (FileTree.fileName path) d.editor.text⟩)) ∨
      ∃ cause w', w.dispatch i = (.error (.action cause), w') ∧ w.Fails .save cause w') ∧
    ∀ w', w.perform .save = (.ok (), w') →
      ∃ n d path, w.Saves n d path w'.files ∧ w'.documents = w.documents ∧
        w'.current = w.current ∧
        w'.openPath path =
          .ok (w'.add ⟨some path, .ofText (FileTree.fileName path) d.editor.text⟩) ∧
        ∃ w'', w'.perform .reload = (.ok (), w'') ∧ w''.files = w'.files ∧
          w''.document? = some { d with
            editor := { d.editor with
              history := [], cursor := .caret d.editor.cursor.position } } := by
  refine ⟨fun i hi => ?_, fun w' hsave => ?_⟩
  · rw [dispatch, hi.plan_eq, Plan.carryOut]
    rcases hdone : w.run [.save, .close] with ⟨e | focus, w'⟩
    · obtain ⟨cause, rfl, hfails⟩ := fails_of_run_saveAndClose hdone
      exact .inr ⟨cause, w', rfl, hfails⟩
    · left
      obtain ⟨n, d, path, hsaves, hdocuments⟩ := saves_of_run_saveAndClose hdone
      obtain rfl := (ofPerformed_eq_ok hdone).2
      exact ⟨n, d, path, w', rfl, hsaves, hdocuments, hsaves.openPath⟩
  · obtain ⟨n, d, path, hsaves, hdocuments, hcurrent⟩ := saves_of_perform_save hsave
    have hd : w'.document? = some d := by
      rw [← hsaves.document?, Workspace.document?, Workspace.document?, hdocuments, hcurrent]
    have hwithin : d.editor.Within := h.within d (document?_mem hsaves.document?)
    exact ⟨n, d, path, hsaves, hdocuments, hcurrent, hsaves.openPath,
      hsaves.perform_reload hd hwithin⟩

theorem saveAndClose_second_of_two :
    let files := (FileTree.empty []).place "t" (.file "old".toUTF8)
    let opened := (((ofFiles files).apply (.action .new)).2.apply (.openPath "t")).2
    let w := (opened.apply (.edit (.insert "\r\n".toList))).2
    w.Reachable ∧ ∃ w', w.dispatch (.command "wq now".toList) = (.ok .commandLine, w') ∧
      w'.files.readText "t" = .ok "\r\nold".toList ∧
      w'.documents.map (·.editor.name) = ["untitled1"] := by
  intro files opened w
  have hw : w.Reachable := .apply (.apply (.apply (.ofFiles files) _) _) _
  have hi : Input.SavesAndCloses (.command ([] ++ "wq".toList ++ " now".toList)) :=
    .command (by decide) (by decide)
  rcases (saveAndClose_keeps_text hw).1 _ hi with
    ⟨n, d, path, w', hdone, hsaves, hdocuments, -⟩ | ⟨e, w', herror, -⟩
  · have hcurrent : w.current = some 1 := by rfl
    obtain rfl : n = 1 := Option.some.inj (hsaves.current.symm.trans hcurrent)
    have hd : w.documents[1]? =
        some ⟨some "t", (Editor.ofText "t" "old".toList).insert "\r\n".toList⟩ := by
      rfl
    obtain rfl := Option.some.inj (hsaves.document.symm.trans hd)
    obtain rfl : "t" = path := Option.some.inj hsaves.hasPath
    refine ⟨hw, w', hdone, hsaves.readText, ?_⟩
    rw [hdocuments]
    decide +kernel
  · have hok : (w.dispatch (.command ([] ++ "wq".toList ++ " now".toList))).1.toOption =
        some .commandLine := by
      decide +kernel
    rw [herror] at hok
    cases hok

end Workspace

end ModalEditor
