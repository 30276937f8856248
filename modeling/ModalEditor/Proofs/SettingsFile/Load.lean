import ModalEditor.Proofs.Files.Write
import ModalEditor.Proofs.SettingsFile.Field

namespace ModalEditor.SettingsFile

open Toml

inductive Chooses (files : FileTree) (directory : Option String) : Option String → String → Prop
  | named (file : String) : Chooses files directory (some file) file
  | here : files.exists? fileName → Chooses files directory none fileName
  | user {d : String} : ¬ files.exists? fileName → directory = some d →
      Chooses files directory none (d ++ "/vimline/" ++ fileName)
  | nowhere : ¬ files.exists? fileName → directory = none →
      Chooses files directory none fileName

inductive Loads (files : FileTree) (file : String) : Loaded → Prop
  | absent {e : FileError} : files.readText file = .error e →
      Loads files file ⟨none, .standard, .absent⟩
  | refused {t : Text} : files.readText file = .ok t → (∀ document ∈ parse? t, ¬ Usable document) →
      Loads files file ⟨none, .standard, .refused⟩
  | loaded {t : Text} {document : Entries} {s : Settings} : files.readText file = .ok t →
      parse? t = some document → Usable document → Follows document s →
      Loads files file ⟨some file, s, .loaded⟩

def entriesOf? : Option Value → Option Entries
  | none => some []
  | some (.table _ es) => some es
  | some _ => none

/-- The documents differ in unknown sections and unknown keys only. -/
def SameKnown (document document' : Entries) : Prop :=
  ∀ h, section? document h = section? document' h ∨
    ∃ es es', entriesOf? (section? document h) = some es ∧
      entriesOf? (section? document' h) = some es' ∧
      ∀ name ∈ h.fields, Entries.get? es name.toList = Entries.get? es' name.toList

variable {files : FileTree} {directory path : Option String} {file : String}
  {document document' es : Entries} {v? : Option Value} {f : Field}

theorem chooses_discover (files : FileTree) (directory : Option String) :
    Chooses files directory none (discover files directory) := by
  by_cases hhere : files.exists? fileName
  · have hfound : discover files directory = fileName := by simp [discover, hhere]
    exact hfound ▸ .here hhere
  · cases directory with
    | some d =>
      have hfound : discover files (some d) = d ++ "/vimline/" ++ fileName := by
        simp [discover, hhere]
      exact hfound ▸ .user hhere rfl
    | none =>
      have hfound : discover files none = fileName := by simp [discover]
      exact hfound ▸ .nowhere hhere rfl

theorem chooses_iff : Chooses files directory path file ↔
    file = path.getD (discover files directory) := by
  constructor
  · rintro (_ | hhere | ⟨hhere, rfl⟩ | ⟨hhere, rfl⟩)
    · rfl
    · simp [discover, hhere]
    · simp [discover, hhere]
    · simp [discover]
  · rintro rfl
    cases path with
    | some file => exact .named file
    | none => exact chooses_discover files directory

theorem Chooses.loadFrom_eq (h : Chooses files directory path file) :
    loadFrom files directory path = load files file := by
  rw [loadFrom, chooses_iff.1 h]

theorem Chooses.of_exists?_eq {files' : FileTree} (h : Chooses files directory path file)
    (hhere : path = none → files'.exists? fileName = files.exists? fileName) :
    Chooses files' directory path file := by
  cases h with
  | named => exact .named file
  | here h => exact .here ((hhere rfl).trans h)
  | user h hd => exact .user (by rwa [hhere rfl]) hd
  | nowhere h hd => exact .nowhere (by rwa [hhere rfl]) hd

theorem loads_load (files : FileTree) (file : String) : Loads files file (load files file) := by
  rw [load]
  split
  · rename_i e hread
    exact .absent hread
  · rename_i t hread
    cases hparse : parse? t with
    | none => exact .refused hread (by simp [hparse])
    | some document =>
      rw [Option.bind_some]
      split
      · rename_i s hs
        exact .loaded hread hparse (usable_iff.2 ⟨s, hs⟩) (settings?_eq_some_iff.1 hs).2.2
      · rename_i hs
        refine .refused hread fun d hd husable => ?_
        obtain rfl := Option.some.inj (hparse.symm.trans hd)
        obtain ⟨s, hs'⟩ := usable_iff.1 husable
        rw [hs] at hs'
        cases hs'

theorem bind_inSection?_of_entriesOf? (h : entriesOf? v? = some es) :
    v?.bind f.inSection? = Entries.get? es f.name.toList := by
  cases v? with
  | none =>
    obtain rfl := Option.some.inj h
    rfl
  | some v =>
    cases v with
    | table kind es' =>
      obtain rfl := Option.some.inj h
      rfl
    | _ => cases h

theorem isSection_of_entriesOf? (h : entriesOf? v? = some es) : ∀ v ∈ v?, isSection v := by
  rintro v rfl
  cases v with
  | table kind es => rfl
  | _ => cases h

namespace SameKnown

theorem symm (h : SameKnown document document') : SameKnown document' document := by
  intro x
  rcases h x with heq | ⟨es, es', hes, hes', hsame⟩
  · exact .inl heq.symm
  · exact .inr ⟨es', es, hes', hes, fun name hname => (hsame name hname).symm⟩

theorem given?_eq (h : SameKnown document document') (f : Field) :
    given? document f = given? document' f := by
  rcases h f.heading with heq | ⟨es, es', hes, hes', hsame⟩
  · rw [given?, given?, heq]
  · have hname : f.name ∈ f.heading.fields := List.mem_of_getElem? f.getElem?_fields
    rw [given?, given?, bind_inSection?_of_entriesOf? hes, bind_inSection?_of_entriesOf? hes',
      hsame f.name hname]

theorem sectioned (h : SameKnown document document') (hs : Sectioned document) :
    Sectioned document' := by
  intro x
  rcases h x with heq | ⟨_, es', _, hes', _⟩
  · rw [← heq]
    exact hs x
  · exact isSection_of_entriesOf? hes'

theorem settings?_eq (h : SameKnown document document')
    (hnumbers : NumbersFit document ↔ NumbersFit document') :
    settings? document = settings? document' := by
  have hsectioned : Sectioned document ↔ Sectioned document' := ⟨h.sectioned, h.symm.sectioned⟩
  refine Option.ext fun s => ?_
  rw [settings?_eq_some_iff, settings?_eq_some_iff, hsectioned, hnumbers, Follows, Follows]
  simp only [h.given?_eq]

end SameKnown

def documentAt? (files : FileTree) (file : String) : Option Entries :=
  (files.readText file).toOption.bind parse?

theorem load_of_documentAt? (h : documentAt? files file = some document) :
    load files file =
      match settings? document with
      | some s => ⟨some file, s, .loaded⟩
      | none => ⟨none, .standard, .refused⟩ := by
  rw [documentAt?] at h
  rw [load]
  cases hread : files.readText file with
  | error e =>
    rw [hread] at h
    cases h
  | ok t =>
    rw [hread] at h
    have hparse : parse? t = some document := h
    show (match (parse? t).bind settings? with
      | some s => (⟨some file, s, .loaded⟩ : Loaded)
      | none => ⟨none, .standard, .refused⟩) = _
    rw [hparse, Option.bind_some]

/-- Loading always gives settings. It chooses one file and looks at no other, except for whether
anything stands at the first place where it looks for one. The settings are the standard ones unless
there is a usable document in the file; then each field is what the document gives for it, or else
as in the standard settings. Unknown sections and unknown keys make no difference, as long as their
numbers can be represented. -/
theorem loadFrom_all_or_nothing (files : FileTree) (directory path : Option String) :
    ∃ file, Chooses files directory path file ∧
      Loads files file (loadFrom files directory path) ∧
      (∀ files' : FileTree, (path = none → files'.exists? fileName = files.exists? fileName) →
        files'.readText file = files.readText file →
        loadFrom files' directory path = loadFrom files directory path) ∧
      ∀ (files' : FileTree) (document document' : Entries), Chooses files' directory path file →
        documentAt? files file = some document → documentAt? files' file = some document' →
        SameKnown document document' → (NumbersFit document ↔ NumbersFit document') →
        loadFrom files' directory path = loadFrom files directory path := by
  have hchooses : Chooses files directory path (path.getD (discover files directory)) :=
    chooses_iff.2 rfl
  refine ⟨_, hchooses, loads_load files _, fun files' hhere hread => ?_,
    fun files' document document' hchooses' hdocument hdocument' hknown hnumbers => ?_⟩
  · rw [(hchooses.of_exists?_eq hhere).loadFrom_eq, hchooses.loadFrom_eq, load, load, hread]
  · rw [hchooses'.loadFrom_eq, hchooses.loadFrom_eq, load_of_documentAt? hdocument,
      load_of_documentAt? hdocument', hknown.settings?_eq hnumbers]

theorem loadFrom_all_or_nothing_unknown :
    let files := (FileTree.empty []).place "t" (.file "cursor.block = false".toUTF8)
    let files' := (FileTree.empty []).place "t"
      (.file "later = true\ncursor = \x7bshape = 'bar', block = false\x7d".toUTF8)
    loadFrom files none (some "t") =
        ⟨some "t", { Settings.standard with cursor.block := false }, .loaded⟩ ∧
      loadFrom files' none (some "t") = loadFrom files none (some "t") := by
  intro files files'
  have hdocument : documentAt? files "t" = some
      [("cursor".toList, .table .dotted [("block".toList, .boolean false)])] := by
    with_unfolding_all rfl
  have hdocument' : documentAt? files' "t" = some
      [("later".toList, .boolean true), ("cursor".toList, .table .inline
        [("shape".toList, .string "bar".toList), ("block".toList, .boolean false)])] := by
    with_unfolding_all rfl
  have hs : settings? [("cursor".toList, .table .dotted [("block".toList, .boolean false)])] =
      some { Settings.standard with cursor.block := false } := by
    rfl
  have hs' : settings? [("later".toList, .boolean true), ("cursor".toList, .table .inline
        [("shape".toList, .string "bar".toList), ("block".toList, .boolean false)])] =
      some { Settings.standard with cursor.block := false } := by
    rfl
  have hsame : SameKnown [("cursor".toList, .table .dotted [("block".toList, .boolean false)])]
      [("later".toList, .boolean true), ("cursor".toList, .table .inline
        [("shape".toList, .string "bar".toList), ("block".toList, .boolean false)])] := by
    intro h
    cases h with
    | commandLine => exact .inl rfl
    | cursor =>
      refine .inr ⟨_, _, rfl, rfl, List.forall_mem_cons.2 ⟨rfl, ?_⟩⟩
      exact List.forall_mem_cons.2 ⟨rfl, List.forall_mem_singleton.2 rfl⟩
  have hnumbers := iff_of_true (settings?_eq_some_iff.1 hs).2.1 (settings?_eq_some_iff.1 hs').2.1
  obtain ⟨file, hchooses, -, -, hknown⟩ := loadFrom_all_or_nothing files none (some "t")
  obtain rfl : file = "t" := chooses_iff.1 hchooses
  refine ⟨?_, hknown files' _ _ (.named _) hdocument hdocument' hsame hnumbers⟩
  rw [loadFrom, Option.getD_some, load_of_documentAt? hdocument, hs]

/-- A date is neither a table nor an array, and yet a file that gives it for a section is used. A
number that cannot be represented keeps a file from being used, even at a key that is not known. -/
theorem exists_date_section_loaded :
    let dated := (FileTree.empty []).place "t" (.file "cursor = 1979-05-27".toUTF8)
    let numbered := (FileTree.empty []).place "t" (.file "later = 1e400".toUTF8)
    let date : Value := .datetime "1979-05-27".toList
    (documentAt? dated "t" = some [("cursor".toList, date)] ∧
      (∀ kind es, date ≠ .table kind es) ∧ (∀ ofTables items, date ≠ .array ofTables items) ∧
      loadFrom dated none (some "t") = ⟨some "t", .standard, .loaded⟩) ∧
    documentAt? numbered "t" = some [("later".toList, .float (.finite 1 400))] ∧
      loadFrom numbered none (some "t") = ⟨none, .standard, .refused⟩ := by
  intro dated numbered date
  have hdated : documentAt? dated "t" = some [("cursor".toList, date)] := by
    with_unfolding_all rfl
  have hnumbered : documentAt? numbered "t" = some [("later".toList, .float (.finite 1 400))] := by
    with_unfolding_all rfl
  refine ⟨⟨hdated, by simp [date], by simp [date], ?_⟩, hnumbered, ?_⟩
  · rw [loadFrom, Option.getD_some, load_of_documentAt? hdated]
    rfl
  · rw [loadFrom, Option.getD_some, load_of_documentAt? hnumbered]
    rfl

end ModalEditor.SettingsFile
