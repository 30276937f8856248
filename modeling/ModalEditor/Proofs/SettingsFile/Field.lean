import Mathlib.Data.String.Basic
import ModalEditor.SettingsFile

namespace ModalEditor.SettingsFile

open Toml

inductive Heading
  | commandLine
  | cursor
  deriving DecidableEq, Repr

namespace Heading

def name : Heading → String
  | commandLine => "commandline"
  | cursor => "cursor"

def fields : Heading → List String
  | commandLine => ["label", "escape_shortcut"]
  | cursor => ["block", "foreground", "background"]

end Heading

inductive Field
  | label
  | escapeShortcut
  | block
  | foreground
  | background
  deriving DecidableEq, Repr

namespace Field

def heading : Field → Heading
  | label | escapeShortcut => .commandLine
  | block | foreground | background => .cursor

def index : Field → Nat
  | label | block => 0
  | escapeShortcut | foreground => 1
  | background => 2

def name : Field → String
  | label => "label"
  | escapeShortcut => "escape_shortcut"
  | block => "block"
  | foreground => "foreground"
  | background => "background"

theorem getElem?_fields (f : Field) : f.heading.fields[f.index]? = some f.name := by
  cases f <;> rfl

def value (s : Settings) : Field → Value
  | label => .string s.label.toList
  | escapeShortcut => .string s.escapeShortcut.toList
  | block => .boolean s.cursor.block
  | foreground => .string s.cursor.foreground.toList
  | background => .string s.cursor.background.toList

def Accepts : Field → Value → Prop
  | block, v => ∃ b, v = .boolean b
  | label, v | escapeShortcut, v | foreground, v | background, v => ∃ t, v = .string t

theorem accepts_value (s : Settings) (f : Field) : f.Accepts (f.value s) := by
  cases f <;> exact ⟨_, rfl⟩

/-- What a section gives for the field: by its name or, in an array, by its place. A date or a time
gives nothing. -/
def inSection? (f : Field) : Value → Option Value
  | .table _ es => Entries.get? es f.name.toList
  | .array _ items => items[f.index]?
  | _ => none

end Field

def isSection : Value → Bool
  | .table _ _ | .array _ _ | .datetime _ => true
  | _ => false

def section? (document : Entries) (h : Heading) : Option Value :=
  document.get? h.name.toList

def given? (document : Entries) (f : Field) : Option Value :=
  (section? document f.heading).bind f.inSection?

def SectionsFit (document : Entries) : Prop :=
  ∀ e ∈ document, (∀ h : Heading, String.ofList e.1 ≠ h.name) → e.2.isBounded

def KeysFit (h : Heading) : Value → Prop
  | .table _ es => ∀ e ∈ es, String.ofList e.1 ∉ h.fields → e.2.isBounded
  | _ => True

structure NumbersFit (document : Entries) : Prop where
  sections : SectionsFit document
  keys : ∀ h, ∀ v ∈ section? document h, KeysFit h v

def Sectioned (document : Entries) : Prop :=
  ∀ h, ∀ v ∈ section? document h, isSection v

structure Usable (document : Entries) : Prop where
  sections : Sectioned document
  fields : ∀ f, ∀ v ∈ given? document f, f.Accepts v
  numbers : NumbersFit document

def Follows (document : Entries) (s : Settings) : Prop :=
  ∀ f : Field, f.value s = (given? document f).getD (f.value .standard)

variable {document : Entries} {s : Settings} {h : Heading} {f : Field} {v? : Option Value}
  {fields : List (Option Value)}

def Readable (h : Heading) (v? : Option Value) : Prop :=
  ∀ v ∈ v?, isSection v ∧ KeysFit h v

theorem entriesBounded_filter_iff {es : Entries} {p : Text × Value → Bool} :
    entriesBounded (es.filter p) ↔ ∀ e ∈ es, p e → e.2.isBounded := by
  induction es with
  | nil => simp [entriesBounded]
  | cons e es ih =>
    rw [List.filter_cons, List.forall_mem_cons, ← ih]
    split <;> simp_all [entriesBounded]

theorem isSome_fieldsOf?_iff : (fieldsOf? h.fields v?).isSome ↔ Readable h v? := by
  cases v? with
  | none => simp [fieldsOf?, Readable]
  | some v =>
    cases v <;> simp [fieldsOf?, Readable, isSection, KeysFit, entriesBounded_filter_iff]

theorem join_getElem?_of_fieldsOf? (hfields : fieldsOf? f.heading.fields v? = some fields) :
    fields[f.index]?.join = v?.bind f.inSection? := by
  have hname := f.getElem?_fields
  cases v? with
  | none =>
    obtain rfl := Option.some.inj hfields
    rw [List.getElem?_map, hname]
    rfl
  | some v =>
    cases v with
    | table kind es =>
      simp only [fieldsOf?] at hfields
      split at hfields
      · obtain rfl := Option.some.inj hfields
        simp [hname, Field.inSection?]
      · cases hfields
    | array ofTables items =>
      obtain rfl := Option.some.inj hfields
      have hlt : f.index < f.heading.fields.length := (List.getElem?_eq_some_iff.1 hname).1
      simp [hlt, Field.inSection?]
    | datetime t =>
      obtain rfl := Option.some.inj hfields
      rw [List.getElem?_map, hname]
      rfl
    | _ => cases hfields

theorem field?_text?_eq_some_iff {standard t : String} :
    field? text? standard v? = some t ↔
      v?.getD (.string standard.toList) = .string t.toList := by
  cases v? with
  | none => simp [field?, String.toList_inj]
  | some v => cases v <;> simp [field?, text?, String.ofList_eq]

theorem field?_truth?_eq_some_iff {standard b : Bool} :
    field? truth? standard v? = some b ↔ v?.getD (.boolean standard) = .boolean b := by
  cases v? with
  | none => simp [field?]
  | some v => cases v <;> simp [field?, truth?]

def Sets (v? : Option Value) (s : Settings) (f : Field) : Prop :=
  (v?.bind f.inSection?).getD (f.value .standard) = f.value s

theorem commandLine?_eq_some_iff :
    commandLine? v? = some (s.label, s.escapeShortcut) ↔
      Readable .commandLine v? ∧ Sets v? s .label ∧ Sets v? s .escapeShortcut := by
  have hread : commandLine? v? = (fieldsOf? Heading.commandLine.fields v?).bind fun fields =>
      (field? text? Settings.standard.label fields[0]?.join).bind fun label =>
        (field? text? Settings.standard.escapeShortcut fields[1]?.join).bind fun escapeShortcut =>
          some (label, escapeShortcut) := rfl
  rw [hread, ← isSome_fieldsOf?_iff]
  cases hfields : fieldsOf? Heading.commandLine.fields v? with
  | none => simp
  | some fields =>
    have hlabel : fields[0]?.join = _ := join_getElem?_of_fieldsOf? (f := .label) hfields
    have hescape : fields[1]?.join = _ := join_getElem?_of_fieldsOf? (f := .escapeShortcut) hfields
    simp [Sets, Field.value, hlabel, hescape, field?_text?_eq_some_iff, Option.bind_eq_some_iff]

theorem cursor?_eq_some_iff :
    cursor? v? = some s.cursor ↔
      Readable .cursor v? ∧ Sets v? s .block ∧ Sets v? s .foreground ∧ Sets v? s .background := by
  have hread : cursor? v? = (fieldsOf? Heading.cursor.fields v?).bind fun fields =>
      (field? truth? CursorStyle.standard.block fields[0]?.join).bind fun block =>
        (field? text? CursorStyle.standard.foreground fields[1]?.join).bind fun foreground =>
          (field? text? CursorStyle.standard.background fields[2]?.join).bind fun background =>
            some ⟨block, foreground, background⟩ := rfl
  obtain ⟨label, escapeShortcut, ⟨block, foreground, background⟩⟩ := s
  rw [hread, ← isSome_fieldsOf?_iff]
  cases hfields : fieldsOf? Heading.cursor.fields v? with
  | none => simp
  | some fields =>
    have hblock : fields[0]?.join = _ := join_getElem?_of_fieldsOf? (f := .block) hfields
    have hforeground : fields[1]?.join = _ := join_getElem?_of_fieldsOf? (f := .foreground) hfields
    have hbackground : fields[2]?.join = _ := join_getElem?_of_fieldsOf? (f := .background) hfields
    simp [-Bool.exists_bool, Sets, Field.value, Settings.standard, hblock, hforeground, hbackground,
      field?_text?_eq_some_iff, field?_truth?_eq_some_iff, Option.bind_eq_some_iff]

theorem follows_iff : Follows document s ↔
    (Sets (section? document .commandLine) s .label ∧
      Sets (section? document .commandLine) s .escapeShortcut) ∧
      Sets (section? document .cursor) s .block ∧ Sets (section? document .cursor) s .foreground ∧
      Sets (section? document .cursor) s .background := by
  constructor
  · intro h
    exact ⟨⟨(h .label).symm, (h .escapeShortcut).symm⟩, (h .block).symm, (h .foreground).symm,
      (h .background).symm⟩
  · rintro ⟨⟨hlabel, hescape⟩, hblock, hforeground, hbackground⟩ f
    cases f with
    | label => exact hlabel.symm
    | escapeShortcut => exact hescape.symm
    | block => exact hblock.symm
    | foreground => exact hforeground.symm
    | background => exact hbackground.symm

theorem forall_heading {P : Heading → Prop} : (∀ h, P h) ↔ P .commandLine ∧ P .cursor :=
  ⟨fun h => ⟨h _, h _⟩, fun h x => by cases x with
    | commandLine => exact h.1
    | cursor => exact h.2⟩

theorem sectionsFit_iff : SectionsFit document ↔
    entriesBounded (document.filter fun e => .ofList e.1 ∉ ["commandline", "cursor"]) := by
  simp [SectionsFit, entriesBounded_filter_iff, forall_heading, Heading.name]

theorem settings?_eq_some_iff_readable :
    settings? document = some s ↔
      (∀ h, Readable h (section? document h)) ∧ SectionsFit document ∧ Follows document s := by
  have hread : settings? document = (commandLine? (section? document .commandLine)).bind fun c =>
      (cursor? (section? document .cursor)).bind fun cursor =>
        if entriesBounded (document.filter fun e => .ofList e.1 ∉ ["commandline", "cursor"]) then
          some ⟨c.1, c.2, cursor⟩
        else none := rfl
  rw [hread, forall_heading, follows_iff, sectionsFit_iff]
  constructor
  · intro h
    obtain ⟨c, hc, h⟩ := Option.bind_eq_some_iff.1 h
    obtain ⟨cursor, hcursor, h⟩ := Option.bind_eq_some_iff.1 h
    split at h
    · rename_i hfit
      obtain rfl := Option.some.inj h
      let s : Settings := ⟨c.1, c.2, cursor⟩
      obtain ⟨hfirst, hsets⟩ := (commandLine?_eq_some_iff (s := s)).1 hc
      obtain ⟨hsecond, hsets'⟩ := (cursor?_eq_some_iff (s := s)).1 hcursor
      exact ⟨⟨hfirst, hsecond⟩, hfit, hsets, hsets'⟩
    · cases h
  · rintro ⟨⟨hfirst, hsecond⟩, hfit, hsets, hsets'⟩
    rw [commandLine?_eq_some_iff.2 ⟨hfirst, hsets⟩, Option.bind_some,
      cursor?_eq_some_iff.2 ⟨hsecond, hsets'⟩, Option.bind_some, if_pos hfit]

theorem settings?_eq_some_iff :
    settings? document = some s ↔
      Sectioned document ∧ NumbersFit document ∧ Follows document s := by
  rw [settings?_eq_some_iff_readable]
  constructor
  · rintro ⟨hreadable, hsections, hs⟩
    exact ⟨fun h v hv => (hreadable h v hv).1, ⟨hsections, fun h v hv => (hreadable h v hv).2⟩, hs⟩
  · rintro ⟨hsectioned, hnumbers, hs⟩
    exact ⟨fun h v hv => ⟨hsectioned h v hv, hnumbers.keys h v hv⟩, hnumbers.sections, hs⟩

theorem exists_follows (h : ∀ f, ∀ v ∈ given? document f, f.Accepts v) :
    ∃ s, Follows document s := by
  have haccepts (f : Field) : f.Accepts ((given? document f).getD (f.value .standard)) := by
    cases hgiven : given? document f with
    | none => exact f.accepts_value .standard
    | some v => exact h f v hgiven
  obtain ⟨label, hlabel⟩ := haccepts .label
  obtain ⟨escapeShortcut, hescape⟩ := haccepts .escapeShortcut
  obtain ⟨block, hblock⟩ := haccepts .block
  obtain ⟨foreground, hforeground⟩ := haccepts .foreground
  obtain ⟨background, hbackground⟩ := haccepts .background
  refine ⟨⟨.ofList label, .ofList escapeShortcut, block, .ofList foreground, .ofList background⟩,
    fun f => ?_⟩
  cases f with
  | label => rw [hlabel, Field.value, String.toList_ofList]
  | escapeShortcut => rw [hescape, Field.value, String.toList_ofList]
  | block => rw [hblock, Field.value]
  | foreground => rw [hforeground, Field.value, String.toList_ofList]
  | background => rw [hbackground, Field.value, String.toList_ofList]

theorem Follows.accepts (h : Follows document s) (f : Field) :
    ∀ v ∈ given? document f, f.Accepts v := by
  intro v hv
  have hvalue := h f
  rw [show given? document f = some v from hv, Option.getD_some] at hvalue
  exact hvalue ▸ f.accepts_value s

theorem usable_iff : Usable document ↔ ∃ s, settings? document = some s := by
  constructor
  · intro h
    obtain ⟨s, hs⟩ := exists_follows h.fields
    exact ⟨s, settings?_eq_some_iff.2 ⟨h.sections, h.numbers, hs⟩⟩
  · rintro ⟨s, hs⟩
    obtain ⟨hsections, hnumbers, hfollows⟩ := settings?_eq_some_iff.1 hs
    exact ⟨hsections, hfollows.accepts, hnumbers⟩

end ModalEditor.SettingsFile
