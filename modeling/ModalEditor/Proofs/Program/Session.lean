import ModalEditor.Proofs.Program.Reading
import ModalEditor.Proofs.Session.Rows

namespace ModalEditor.Program

open Session (after row)

inductive Stop (w : Workspace) : List UInt8 → ExitCode → Prop
  | closed (rest : List UInt8) : w.documents = [] → Stop w rest .success
  | endOfInput : w.documents ≠ [] → Stop w [] .success
  | unreadable {rest : List UInt8} : w.documents ≠ [] →
      (∀ t, rest.takeWhile (· ≠ lineFeed) ≠ encode t) → Stop w rest .failure

/-- A session has read these lines of its input, each of them while a document was open, and left
the rest. It has printed a row before the first line and one after each, and the last row alone may
be without a document. -/
structure Transcript (p : Plugin) (input : List UInt8) (lines : List Text) (rest : List UInt8)
    (o : Outcome) : Prop where
  reads : Reads input lines rest
  goes_on : ∀ i < lines.length, (after p (lines.take i)).commandLine.workspace.documents ≠ []
  stop : Stop (after p lines).commandLine.workspace rest o.code
  files : o.files = (after p lines).commandLine.workspace.files
  prints : ∃ rows : List String, o.output = String.join rows ∧ rows.length = lines.length + 1 ∧
    (∀ i row, rows[i]? = some row → Session.Tells (after p (lines.take i)).commandLine row) ∧
    "[no document]\n" ∉ rows.dropLast

variable {p : Plugin} {input : List UInt8} {lines : List Text}

theorem documents_ne_nil_iff :
    p.commandLine.workspace.documents ≠ [] ↔ Session.isOver p = false := by
  rw [Session.isOver, List.isEmpty_eq_false_iff]

theorem stop_of_stop {rest : List UInt8} {ending : Session.End}
    (h : Session.Stop p ((linesFrom [] rest).map decode?) ending) :
    Stop p.commandLine.workspace rest (if ending = .unreadable then .failure else .success) := by
  generalize hmore : (linesFrom [] rest).map decode? = more at h
  cases h with
  | closed _ hover => exact .closed rest (List.isEmpty_iff.1 hover)
  | endOfInput hopen =>
    obtain rfl := eq_nil_of_linesFrom (List.map_eq_nil_iff.1 hmore)
    exact .endOfInput (documents_ne_nil_iff.2 hopen)
  | unreadable _ hopen =>
    exact .unreadable (documents_ne_nil_iff.2 hopen) (ne_encode_of_linesFrom hmore)

theorem open_of_course {more : List (Option Text)} {r : Session.Result}
    (h : Session.Course p more lines r) (i : Nat) (hi : i < lines.length) :
    (after p (lines.take i)).commandLine.workspace.documents ≠ [] := by
  refine documents_ne_nil_iff.2 (h.goes_on _ lines[i] ?_)
  rw [List.take_append_getElem]
  exact List.take_prefix _ _

theorem prints_of_course {more : List (Option Text)} {r : Session.Result}
    (hreach : ∀ read, (after p read).commandLine.workspace.Reachable)
    (h : Session.Course p more lines r) :
    ∃ rows : List String, print r.rows = String.join rows ∧ rows.length = lines.length + 1 ∧
      (∀ i row, rows[i]? = some row → Session.Tells (after p (lines.take i)).commandLine row) ∧
      "[no document]\n" ∉ rows.dropLast := by
  have htells (i : Nat) (row : String)
      (hrow : (r.rows.map fun x => x.text ++ "\n")[i]? = some row) :
      Session.Tells (after p (lines.take i)).commandLine row := by
    rw [h.rows_eq, List.map_map, List.getElem?_map, Option.map_eq_some_iff] at hrow
    obtain ⟨read, hread, rfl⟩ := hrow
    obtain ⟨_, rfl⟩ := List.getElem?_eq_some_iff.1 hread
    rw [List.getElem_inits]
    exact Session.tells_row (hreach _)
  have hlength : (r.rows.map fun x => x.text ++ "\n").length = lines.length + 1 := by
    rw [List.length_map, h.rows_eq, List.length_map, List.length_inits]
  refine ⟨_, rfl, hlength, htells, fun hnone => ?_⟩
  -- every row but the last one has a line behind it, so a document was open
  obtain ⟨i, hi⟩ := List.mem_iff_getElem?.1 hnone
  rw [List.getElem?_dropLast, hlength] at hi
  split at hi
  · rename_i hlt
    exact (htells i _ hi).ne_noDocument (open_of_course h i hlt) rfl
  · cases hi

theorem transcript_of_course {r : Session.Result}
    (hreach : ∀ read, (after p read).commandLine.workspace.Reachable)
    (h : Session.Course p ((linesFrom [] input).map decode?) lines r) :
    ∃ rest, Transcript p input lines rest
      { code := if r.ending = .unreadable then .failure else .success
        output := print r.rows
        files := r.plugin.commandLine.workspace.files } := by
  obtain ⟨more, hmore, hstop⟩ := h.lines_eq
  obtain ⟨rest, hreads, rfl⟩ := reads_of_linesFrom hmore
  refine ⟨rest, hreads, open_of_course h, ?_, ?_, prints_of_course hreach h⟩
  · rw [← h.plugin_eq]
    exact stop_of_stop hstop
  · rw [h.plugin_eq]

theorem exists_transcript {p : Plugin} (h : p.commandLine.workspace.Reachable)
    (hopen : p.commandLine.workspace.documents ≠ []) (input : ByteArray) :
    ∃ lines rest,
      Transcript (p.update .focusIn) input.data.toList lines rest (session p input) := by
  have hstart : Session.isOver (p.update .focusIn) = false := by
    rw [Session.isOver_update_focusIn]
    exact documents_ne_nil_iff.1 hopen
  have hreach (read : List Text) :
      (after (p.update .focusIn) read).commandLine.workspace.Reachable :=
    Session.workspace_after (P := Workspace.Reachable) (fun _ i hw => hw.dispatch i)
      (fun _ x hw => hw.updateEditor x)
      (CommandLine.workspace_focusIn (fun _ x hw => hw.updateEditor x) h) read
  obtain ⟨lines, hcourse⟩ := Session.exists_course_feedAll hstart (inputLines input)
  exact ⟨lines, transcript_of_course hreach hcourse⟩

theorem reachable_of_start {files : FileTree} {configDirectory : Option String} {a : Arguments}
    (h : start files configDirectory a = .ok p) :
    p.commandLine.workspace.Reachable ∧ p.commandLine.workspace.documents ≠ [] := by
  cases hopen : openDocument files a.path with
  | error e => simp [start, hopen, Except.map] at h
  | ok w =>
    simp only [start, hopen, Except.map, Except.ok.injEq] at h
    subst h
    cases hpath : a.path with
    | none =>
      rw [hpath] at hopen
      obtain rfl := Except.ok.inj hopen
      exact ⟨.withDocument files "scratch" [], List.cons_ne_nil _ _⟩
    | some path =>
      rw [hpath] at hopen
      have hfile := Workspace.openPath_eq_ok_iff.1 hopen
      have hw : ((Workspace.ofFiles files).apply (.openPath path)).2 = w := by
        rw [Workspace.apply, Dispatch.snd_ofPerformed, hfile]
      refine ⟨hw ▸ .apply (.ofFiles files) _, ?_⟩
      rcases (Workspace.ofFiles files).openFile_cases path with ⟨_, hs⟩ | ⟨text, -, hs⟩
      all_goals cases hs.symm.trans hfile
      exact List.cons_ne_nil _ _

/-- A session on open documents prints a row for the start and one for each line that it reads, up
to the line that closes the last document, the end of the input, or the first line that is no text;
then alone it fails, and the rows are printed all the same. Each row tells the state that it follows.
So does the program, once the document that it starts on is open. -/
theorem session_transcript :
    (∀ (p : Plugin) (input : ByteArray), p.commandLine.workspace.Reachable →
      p.commandLine.workspace.documents ≠ [] →
        ∃ lines rest,
          Transcript (p.update .focusIn) input.data.toList lines rest (session p input)) ∧
    ∀ args files configDirectory input a, Arguments.parse args = .edit a →
      let placed := files.place logFile (.file .empty)
      (∃ cause, start placed configDirectory a = .error cause ∧
        run args files configDirectory input = ⟨.failure, "", placed⟩) ∨
      ∃ p lines rest, start placed configDirectory a = .ok p ∧
        Transcript (p.update .focusIn) input.data.toList lines rest
          (run args files configDirectory input) := by
  refine ⟨fun p input h hopen => exists_transcript h hopen input,
    fun args files configDirectory input a ha => ?_⟩
  simp only [run, ha]
  cases hp : start (files.place logFile (.file .empty)) configDirectory a with
  | error cause => exact .inl ⟨cause, rfl, rfl⟩
  | ok p =>
    obtain ⟨hreach, hopen⟩ := reachable_of_start hp
    obtain ⟨lines, rest, htranscript⟩ := exists_transcript hreach hopen input
    exact .inr ⟨p, lines, rest, rfl, htranscript⟩

theorem session_transcript_quit :
    let w := Workspace.withDocument (.ofFiles (.empty [])) "notes" "ab\ncd".toList
    let p := Plugin.ofSettings w .standard
    let input := "jl\n:q\r\nk".toUTF8
    p.commandLine.workspace.Reachable ∧ p.commandLine.workspace.documents ≠ [] ∧
      (∃ lines rest,
        Transcript (p.update .focusIn) input.data.toList lines rest (session p input)) ∧
      (session p input).output = "notes 1:1 [COMMAND]\nnotes 2:2 [COMMAND]\n[no document]\n" ∧
      Arguments.parse [] = .edit ⟨none, none⟩ ∧
      ∃ p lines rest, Transcript (Plugin.update p .focusIn) input.data.toList lines rest
        (run [] (.empty []) none input) := by
  intro w p input
  have hreach : p.commandLine.workspace.Reachable := .withDocument _ _ _
  have hopen : p.commandLine.workspace.documents ≠ [] := List.cons_ne_nil _ _
  have hbytes : linesFrom [] input.data.toList =
      [encode "jl".toList, encode ":q".toList, encode "k".toList] := by decide +kernel
  have hlines : inputLines input = [some "jl".toList, some ":q".toList, some "k".toList] := by
    rw [inputLines, hbytes]
    simp only [List.map_cons, List.map_nil, decode?_encode]
  have hargs : Arguments.parse [] = .edit ⟨none, none⟩ := rfl
  refine ⟨hreach, hopen, session_transcript.1 p input hreach hopen, ?_, hargs, ?_⟩
  · rw [session, hlines]
    decide +kernel
  · rcases session_transcript.2 [] (.empty []) none input _ hargs with
      ⟨_, hstart, -⟩ | ⟨p, lines, rest, -, htranscript⟩
    · cases hstart
    · exact ⟨p, lines, rest, htranscript⟩

end ModalEditor.Program
