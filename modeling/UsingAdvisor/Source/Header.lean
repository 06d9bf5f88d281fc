import UsingAdvisor.Source.Cursor
import UsingAdvisor.Text.Word

/-!
# Namespace headers

A header is the keyword `namespace` at the start of a line, one space, a dotted name, and, after
any white space, the brace of a block or the semicolon of a file-scoped namespace. White space may
hold line breaks, so the brace may stand on a later line. Main statements: `read?_eq_some_append`
(a header that is read is the front of the text) and `next?_length_lt` (each search moves on).
-/

namespace UsingAdvisor.Source

open Text

/-- How the body of a namespace is opened. -/
inductive Opener where
  /-- A block in braces. -/
  | brace
  /-- A namespace that covers the rest of its file. -/
  | semicolon
  deriving DecidableEq, Repr

/-- The character that opens the body. -/
def Opener.char : Opener → Char
  | .brace => '{'
  | .semicolon => ';'

/-- A namespace header: the declared name, the white space after it, and the opener. -/
structure Header where
  /-- The dotted name of the namespace. -/
  name : Text
  /-- The white space between the name and the opener. -/
  gap : Text
  /-- What opens the body. -/
  opener : Opener
  deriving DecidableEq, Repr

namespace Header

/-- The word that starts every header, and the word that ends the reach of the header before. -/
def keyword : Text :=
  ['n', 'a', 'm', 'e', 's', 'p', 'a', 'c', 'e']

/-- The characters of a header. -/
def text (header : Header) : Text :=
  keyword ++ ' ' :: (header.name ++ (header.gap ++ [header.opener.char]))

/-- The header in front of the text, and what follows it. -/
def read? (source : Text) : Option (Header × Text) :=
  match dropFront? (keyword ++ [' ']) source with
  | none => none
  | some named =>
    match dottedName? named with
    | none => none
    | some (name, spaced) =>
      match spaced.dropWhile isSpace with
      | '{' :: rest => some (⟨name, spaced.takeWhile isSpace, .brace⟩, rest)
      | ';' :: rest => some (⟨name, spaced.takeWhile isSpace, .semicolon⟩, rest)
      | _ => none

/-- A header that is read is the front of the text. -/
theorem read?_eq_some_append {source rest : Text} {header : Header}
    (h : read? source = some (header, rest)) : source = header.text ++ rest := by
  unfold read? at h
  split at h
  · contradiction
  next named hnamed =>
    rw [dropFront?_eq_some_iff] at hnamed
    split at h
    · contradiction
    next name spaced hname =>
      have hname := dottedName?_append hname
      have hgap := spaced.takeWhile_append_dropWhile (p := isSpace)
      split at h
      · next after hafter =>
        simp only [Option.some.injEq, Prod.mk.injEq] at h
        obtain ⟨rfl, rfl⟩ := h
        rw [hafter] at hgap
        rw [hnamed, ← hname]
        simp [text, Opener.char, hgap]
      · next after hafter =>
        simp only [Option.some.injEq, Prod.mk.injEq] at h
        obtain ⟨rfl, rfl⟩ := h
        rw [hafter] at hgap
        rw [hnamed, ← hname]
        simp [text, Opener.char, hgap]
      · contradiction

/-- The first header ahead that starts a line, with the cursor just after it. -/
def next? (behind : Text) : (ahead : Text) → Option (Header × Cursor)
  | [] => none
  | c :: ahead =>
    match if Cursor.startsLine behind then read? (c :: ahead) else none with
    | some (header, rest) => some (header, Cursor.pass ⟨behind, c :: ahead⟩ header.text rest)
    | none => next? (c :: behind) ahead

/-- What is passed by a search is the text up to the header, and the header. -/
theorem next?_eq_some_append {behind ahead : Text} {header : Header} {after : Cursor}
    (h : next? behind ahead = some (header, after)) :
    ∃ before, ahead = before ++ header.text ++ after.ahead ∧
      after.behind = header.text.reverse ++ (before.reverse ++ behind) := by
  induction ahead generalizing behind with
  | nil => simp [next?] at h
  | cons c ahead ih =>
    simp only [next?] at h
    split at h
    next found rest hread =>
      simp only [Option.some.injEq, Prod.mk.injEq] at h
      obtain ⟨rfl, rfl⟩ := h
      simp only [Option.ite_none_right_eq_some] at hread
      exact ⟨[], by simpa [Cursor.pass] using read?_eq_some_append hread.2, by simp [Cursor.pass]⟩
    next =>
      obtain ⟨before, hahead, hbehind⟩ := ih h
      exact ⟨c :: before, by simp [hahead], by simp [hbehind]⟩

/-- Each search moves on: less is ahead after a header than before it. -/
theorem next?_length_lt {behind ahead : Text} {header : Header} {after : Cursor}
    (h : next? behind ahead = some (header, after)) : after.ahead.length < ahead.length := by
  obtain ⟨before, hahead, -⟩ := next?_eq_some_append h
  have : 0 < header.text.length := by simp [text, keyword]
  simp only [hahead, List.length_append]
  omega

/-- The headers from a place on, in order. -/
def listFrom (cursor : Cursor) : List Header :=
  match h : next? cursor.behind cursor.ahead with
  | none => []
  | some (header, after) =>
    have := next?_length_lt h
    header :: listFrom after
termination_by cursor.ahead.length

end Header

/-- The namespace headers of a text, in order. -/
def headers (text : Text) : List Header :=
  Header.listFrom (Cursor.start text)

end UsingAdvisor.Source
