import Mathlib.Data.List.Forall2
import UsingAdvisor.Protocol.Reading

/-!
# The forms of values

How a client writes what it tells: each value with the fields that the protocol gives it, in any order and
among any others. A reader knows a form if it takes each value of that form for what the value says
(`Json.Knows`). A reader of records knows the form of its records because it reads their fields by readers that
know theirs (`Json.Knows.fieldAs?`, `Json.Knows.givenAs?`), and so up to the largest of them
(`Diagnostic.knows_ofJson?`).
-/

namespace UsingAdvisor

namespace Json

/-- The reader takes each value of a form for what the value says. -/
def Knows {α : Type} (read : Json → Option α) (form : Json → α → Prop) : Prop :=
  ∀ value a, form value a → read value = some a

section Forms

variable {α : Type} (form : Json → α → Prop) (name : String) (value : Json)

/-- The field of a name is there and says `a`. -/
def Has (a : α) : Prop :=
  ∃ part, value.field? name = some part ∧ form part a

/-- The field of a name says what is given, or it is left out or null where nothing is. -/
def MayHave (given : Option α) : Prop :=
  Option.Rel form (value.given? name) given

/-- The value is an array whose items say the members of a list, one by one. -/
def Lists (list : List α) : Prop :=
  ∃ items, value = .array items ∧ List.Forall₂ form items list

end Forms

section Readers

variable {α : Type} {read : Json → Option α} {form : Json → α → Prop} {name : String} {value : Json}

/-- Whatever has a field is an object, and an object is a record as it stands. -/
theorem named?_of_field? {part : Json} (h : value.field? name = some part) (names : List String)
    (least : Nat) : value.named? names least = some value := by
  cases value with
  | object fields => exact named?_object names least fields
  | _ => cases h

theorem Has.named? {a : α} (h : Has form name value a) (names : List String) (least : Nat) :
    value.named? names least = some value := by
  obtain ⟨part, hpart, -⟩ := h
  exact named?_of_field? hpart names least

theorem Knows.fieldAs? (knows : Knows read form) {a : α} (h : Has form name value a) :
    value.fieldAs? read name = some a := by
  obtain ⟨part, hpart, hform⟩ := h
  rw [Json.fieldAs?, hpart]
  exact knows part a hform

theorem Knows.givenAs? (knows : Knows read form) {given : Option α} (h : MayHave form name value given) :
    value.givenAs? read name = some given := by
  rw [MayHave] at h
  rw [Json.givenAs?]
  generalize value.given? name = found at h ⊢
  cases h with
  | none => rfl
  | some hform => exact congrArg (Option.map some) (knows _ _ hform)

theorem Knows.toListOf? (knows : Knows read form) : Knows (toListOf? read) (Lists form) := by
  rintro _ list ⟨items, rfl, hitems⟩
  change items.mapM read = some list
  induction hitems with
  | nil => rfl
  | cons hfirst _ ih => simp [knows _ _ hfirst, ih]

end Readers

/-! ### Numbers and strings -/

/-- A number of 32 bits. -/
def WordForm (value : Json) (n : Nat) : Prop :=
  value = .ofNat n ∧ n < 0x100000000

/-- An integer of 32 bits, signed. -/
def SmallForm (value : Json) (n : Int) : Prop :=
  value = .integer n ∧ -0x80000000 ≤ n ∧ n < 0x80000000

/-- A string. -/
def TextForm (value : Json) (text : Text) : Prop :=
  value = .string text

theorem knows_toWord? : Knows toWord? WordForm := by
  rintro _ n ⟨rfl, hn⟩
  exact if_pos hn

theorem knows_toSmall? : Knows toSmall? SmallForm := by
  rintro _ n ⟨rfl, hn⟩
  exact if_pos hn

theorem knows_toText? : Knows toText? TextForm := by
  rintro _ text rfl
  rfl

end Json

open Json (Knows knows_toWord? knows_toSmall? knows_toText?)

/-- A string that writes a URL. -/
def Url.Form (value : Json) (url : Url) : Prop :=
  ∃ text, value = .string text ∧ Url.parse text = .ok url

theorem Url.knows_ofJson? : Knows Url.ofJson? Url.Form := by
  rintro _ url ⟨text, rfl, hparse⟩
  simp [Url.ofJson?, Json.toText?, hparse, Except.toOption]

/-! ### Places and changes -/

namespace Document

/-- The form of a position. -/
structure Position.Form (value : Json) (position : Position) : Prop where
  line : value.Has Json.WordForm "line" position.line
  character : value.Has Json.WordForm "character" position.character

/-- The form of a range. -/
structure Range.Form (value : Json) (range : Range) : Prop where
  start : value.Has Position.Form "start" range.start
  stop : value.Has Position.Form "end" range.stop

/-- The form of a change. A change without a range replaces the whole text. -/
structure Change.Form (value : Json) (change : Change) : Prop where
  range : value.MayHave Range.Form "range" change.range
  rangeLength : ∃ length, value.MayHave Json.WordForm "rangeLength" length
  newText : value.Has Json.TextForm "text" change.newText

theorem Position.knows_ofJson? : Knows Position.ofJson? Position.Form := by
  intro value position h
  simp [Position.ofJson?, h.line.named?, knows_toWord?.fieldAs? h.line,
    knows_toWord?.fieldAs? h.character]

theorem Range.knows_ofJson? : Knows Range.ofJson? Range.Form := by
  intro value range h
  simp [Range.ofJson?, h.start.named?, Position.knows_ofJson?.fieldAs? h.start,
    Position.knows_ofJson?.fieldAs? h.stop]

theorem Change.knows_ofJson? : Knows Change.ofJson? Change.Form := by
  intro value change h
  obtain ⟨length, hlength⟩ := h.rangeLength
  simp [Change.ofJson?, h.newText.named?, knows_toWord?.givenAs? hlength,
    Range.knows_ofJson?.givenAs? h.range, knows_toText?.fieldAs? h.newText]

end Document

/-! ### Diagnostics -/

/-- The form of a code: a number or a string. -/
def DiagnosticCode.Form (value : Json) : DiagnosticCode → Prop
  | number n => Json.SmallForm value n
  | text chars => Json.TextForm value chars

theorem DiagnosticCode.knows_ofJson? : Knows DiagnosticCode.ofJson? DiagnosticCode.Form := by
  intro value code h
  cases code with
  | number n =>
    have hread : value.toSmall? = some n := knows_toSmall? value n h
    obtain ⟨rfl, -⟩ := h
    simp [DiagnosticCode.ofJson?, hread]
  | text chars =>
    obtain rfl : value = .string chars := h
    rfl

/-- The form of a related place. -/
structure RelatedPlace.Form (value : Json) (place : RelatedPlace) : Prop where
  url : value.Has (Json.Has Url.Form "uri") "location" place.url
  range : value.Has (Json.Has Document.Range.Form "range") "location" place.range
  message : value.Has Json.TextForm "message" place.message

theorem RelatedPlace.knows_ofJson? : Knows RelatedPlace.ofJson? RelatedPlace.Form := by
  intro value place h
  obtain ⟨location, hlocation, hurl⟩ := h.url
  obtain ⟨_, hsame, hrange⟩ := h.range
  cases hlocation.symm.trans hsame
  simp [RelatedPlace.ofJson?, h.message.named?, hlocation, hurl.named?, Url.knows_ofJson?.fieldAs? hurl,
    Document.Range.knows_ofJson?.fieldAs? hrange, knows_toText?.fieldAs? h.message]

/-- The form of a diagnostic. -/
structure Diagnostic.Form (value : Json) (diagnostic : Diagnostic) : Prop where
  range : value.Has Document.Range.Form "range" diagnostic.range
  severity : value.MayHave Json.SmallForm "severity" diagnostic.severity
  code : value.MayHave DiagnosticCode.Form "code" diagnostic.code
  explanation : value.MayHave (Json.Has Url.Form "href") "codeDescription" diagnostic.explanation
  source : value.MayHave Json.TextForm "source" diagnostic.source
  message : value.Has Json.TextForm "message" diagnostic.message
  related : value.MayHave (Json.Lists RelatedPlace.Form) "relatedInformation" diagnostic.related
  tags : value.MayHave (Json.Lists Json.SmallForm) "tags" diagnostic.tags
  data : value.given? "data" = diagnostic.data

theorem Diagnostic.knows_explanation? : Knows Diagnostic.explanation? (Json.Has Url.Form "href") := by
  intro value url h
  simp [Diagnostic.explanation?, h.named?, Url.knows_ofJson?.fieldAs? h]

theorem Diagnostic.knows_ofJson? : Knows Diagnostic.ofJson? Diagnostic.Form := by
  intro value diagnostic h
  simp [Diagnostic.ofJson?, h.range.named?, Document.Range.knows_ofJson?.fieldAs? h.range,
    knows_toSmall?.givenAs? h.severity, DiagnosticCode.knows_ofJson?.givenAs? h.code,
    knows_explanation?.givenAs? h.explanation, knows_toText?.givenAs? h.source,
    knows_toText?.fieldAs? h.message, RelatedPlace.knows_ofJson?.toListOf?.givenAs? h.related,
    knows_toSmall?.toListOf?.givenAs? h.tags, h.data]

/-! ### Documents and folders -/

namespace Protocol

/-- The form of a document. -/
def DocumentForm : Json → Url → Prop :=
  Json.Has Url.Form "uri"

/-- The form of a document whose version is told. -/
structure VersionedForm (value : Json) (url : Url) : Prop where
  url : value.Has Url.Form "uri" url
  version : ∃ version, value.Has Json.SmallForm "version" version

/-- The form of a folder. -/
structure FolderForm (value : Json) (url : Url) : Prop where
  url : value.Has Url.Form "uri" url
  name : ∃ name, value.Has Json.TextForm "name" name

theorem knows_documentUrl? : Knows documentUrl? DocumentForm := by
  intro value url h
  simp [documentUrl?, h.named?, Url.knows_ofJson?.fieldAs? h]

theorem knows_versionedUrl? : Knows versionedUrl? VersionedForm := by
  intro value url h
  obtain ⟨version, hversion⟩ := h.version
  simp [versionedUrl?, h.url.named?, knows_toSmall?.fieldAs? hversion, Url.knows_ofJson?.fieldAs? h.url]

theorem knows_folderUrl? : Knows folderUrl? FolderForm := by
  intro value url h
  obtain ⟨name, hname⟩ := h.name
  simp [folderUrl?, h.url.named?, knows_toText?.fieldAs? hname, Url.knows_ofJson?.fieldAs? h.url]

end Protocol

end UsingAdvisor
