import UsingAdvisor.Text
import UsingAdvisor.Text.Ranges
import UsingAdvisor.Text.WordTable

/-!
# Word characters and white space

A name is a run of word characters, and white space is what may stand between a name and the
bracket after it. Both classes are those of Unicode: a word character has one of the properties
Alphabetic, Mark, Decimal_Number, Connector_Punctuation or Join_Control, and white space is the
property White_Space. The two classes do not meet on the characters that separate words.
-/

namespace UsingAdvisor.Text

/-- Whether a character can be part of a name. -/
def isWord (c : Char) : Bool :=
  let n := c.toNat
  if n < 0x3000 then inRanges basicRanges n
  else if n < 0x10000 then inRanges wideRanges n
  else inRanges supplementaryRanges n

/-- The code points of White_Space. -/
def spaceRanges : List (Nat × Nat) :=
  [(0x9, 0xD), (0x20, 0x20), (0x85, 0x85), (0xA0, 0xA0), (0x1680, 0x1680), (0x2000, 0x200A),
    (0x2028, 0x2029), (0x202F, 0x202F), (0x205F, 0x205F), (0x3000, 0x3000)]

/-- Whether a character is white space. Line breaks are. -/
def isSpace (c : Char) : Bool :=
  inRanges spaceRanges c.toNat

/-- Whether a character is one of the 26 capital letters of ASCII. -/
def isCapital (c : Char) : Bool :=
  'A' ≤ c && c ≤ 'Z'

/-- The longest run of word characters in front of the text, and what follows it. -/
def wordRun (text : Text) : Text × Text :=
  (text.takeWhile isWord, text.dropWhile isWord)

/-- The continuation of a dotted name whose current part is not empty: more word characters, and a
dot whenever another part follows it. -/
def nameTail : Text → Text × Text
  | [] => ([], [])
  | '.' :: c :: text =>
    if isWord c then ('.' :: c :: (nameTail text).1, (nameTail text).2) else ([], '.' :: c :: text)
  | c :: text =>
    if isWord c then (c :: (nameTail text).1, (nameTail text).2) else ([], c :: text)

/-- The longest dotted name in front of the text, and what follows it. A dotted name is one or more
non-empty runs of word characters with single dots between them. -/
def dottedName? : Text → Option (Text × Text)
  | [] => none
  | c :: text =>
    if isWord c then some (c :: (nameTail text).1, (nameTail text).2) else none

/-- A name's continuation and the rest are the text. -/
@[simp]
theorem nameTail_append (text : Text) : (nameTail text).1 ++ (nameTail text).2 = text := by
  fun_induction nameTail text <;> simp_all

/-- A dotted name and the rest are the text. -/
theorem dottedName?_append {text name rest : Text} (h : dottedName? text = some (name, rest)) :
    name ++ rest = text := by
  cases text with
  | nil => simp [dottedName?] at h
  | cons c text =>
    simp only [dottedName?, Option.ite_none_right_eq_some, Option.some.injEq, Prod.mk.injEq] at h
    obtain ⟨-, rfl, rfl⟩ := h
    simp

end UsingAdvisor.Text
