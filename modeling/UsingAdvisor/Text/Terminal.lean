import UsingAdvisor.Text

/-!
# Terminal sequences

Text that is shown on a terminal is free of what the terminal would obey instead of showing. An escape
character begins a sequence, and what follows it decides where the sequence ends; outside of sequences
the control characters are dropped that are not white space. Main statement:
`withoutSequences_of_visible` (a text of visible characters stays as it is).
-/

namespace UsingAdvisor.Text

/-- Where in a text for a terminal a character stands. -/
inductive TerminalMode where
  /-- Outside of sequences. -/
  | text
  /-- Right after an escape character. -/
  | escape
  /-- In a sequence that ends with its first character from the zero on. -/
  | intermediate
  /-- In a sequence that ends with its first character from the at sign on. -/
  | control
  /-- In a title, which a bell ends. -/
  | title
  /-- In a string for the terminal, which only another control character ends. -/
  | string
  deriving DecidableEq, Repr

/-- The white space among the control characters, but for the vertical tab. -/
def isControlSpace (c : Char) : Bool :=
  c ∈ ['\t', '\n', '\x0c', '\r']

/-- Whether a character is no control character of ASCII. -/
def isVisible (c : Char) : Bool :=
  0x20 ≤ c.toNat && c.toNat != 0x7F

namespace TerminalMode

/-- The mode after a visible character of ASCII. -/
def afterVisible (c : Char) : TerminalMode → TerminalMode
  | text => text
  | escape =>
    if c < '0' then intermediate
    else if c = '[' then control
    else if c = ']' then title
    else if c ∈ ['P', 'X', '^', '_'] then string
    else text
  | intermediate => if c < '0' then intermediate else text
  | control => if c < '@' then control else text
  | title => title
  | string => string

/-- The mode after a character, and whether the character is shown. White space is shown in the midst
of a sequence too, and ends it, but not in a title or a string. -/
def next (mode : TerminalMode) (c : Char) : TerminalMode × Bool :=
  if c = '\x1b' then (escape, false)
  else if c = '\x18' ∨ c = '\x1a' then (text, false)
  else match mode with
    | text => (text, isVisible c || isControlSpace c)
    | title => (if c = '\x07' then text else title, false)
    | string => (string, false)
    | mode =>
      if isControlSpace c then (text, true)
      else if isVisible c && c.toNat < 0x80 then (mode.afterVisible c, false)
      else (mode, false)

end TerminalMode

/-- What is shown of a text that starts in a mode. -/
def shownFrom (mode : TerminalMode) : Text → Text
  | [] => []
  | c :: text =>
    let after := mode.next c
    if after.2 then c :: shownFrom after.1 text else shownFrom after.1 text

/-- What a terminal would show of a text. -/
def withoutSequences (text : Text) : Text :=
  shownFrom .text text

/-- A visible character outside of sequences is shown. -/
theorem next_of_isVisible {c : Char} (h : isVisible c = true) :
    TerminalMode.text.next c = (.text, true) := by
  have escape : c ≠ '\x1b' := by rintro rfl; revert h; decide
  have cancel : c ≠ '\x18' := by rintro rfl; revert h; decide
  have substitute : c ≠ '\x1a' := by rintro rfl; revert h; decide
  simp [TerminalMode.next, escape, cancel, substitute, h]

/-- A text of visible characters stays as it is. -/
theorem withoutSequences_of_visible {text : Text} (h : ∀ c ∈ text, isVisible c = true) :
    withoutSequences text = text := by
  unfold withoutSequences
  induction text with
  | nil => rfl
  | cons c text ih =>
    simp only [List.mem_cons, forall_eq_or_imp] at h
    simp [shownFrom, next_of_isVisible h.1, ih h.2]

end UsingAdvisor.Text
