import UsingAdvisor.Proofs.Document.Offset
import UsingAdvisor.Proofs.Document.Units

/-!
# The editor's copy of a document

An editor keeps a document as UTF-16 units and changes its copy before it reports the change. This module
says what becomes of that copy, from the units alone: how its lines are told, which places its positions
name, and what a change leaves. Main statement: `encode_applyChanges` (as long as the editor reports places
that its own copy has, the characters kept here encode to the editor's units).
-/

namespace UsingAdvisor.Document

namespace Client

/-! ### Buffers of units -/

/-- The unit of a line feed. -/
def lineFeed : UInt16 := 0x0A

/-- The unit of a carriage return. -/
def carriageReturn : UInt16 := 0x0D

/-- A line of a buffer: its own units, and those of the break after them. -/
structure Line where
  content : List UInt16
  ending : List UInt16
  deriving DecidableEq, Repr

/-- The units of a line, its break included. -/
def Line.units (line : Line) : List UInt16 :=
  line.content ++ line.ending

/-- The lines with one more unit in front of the first. -/
def consUnit (unit : UInt16) : List Line → List Line
  | [] => [⟨[unit], []⟩]
  | line :: rest => ⟨unit :: line.content, line.ending⟩ :: rest

/-- The lines of a buffer. A line feed, a carriage return and the pair of both each end a line. -/
def lines : List UInt16 → List Line
  | [] => [⟨[], []⟩]
  | unit :: buffer =>
    if unit = lineFeed then ⟨[], [lineFeed]⟩ :: lines buffer
    else if unit = carriageReturn then
      -- a line feed behind it ends no line of its own
      if buffer.head? = some lineFeed then
        ⟨[], [carriageReturn, lineFeed]⟩ :: (lines buffer).tail
      else ⟨[], [carriageReturn]⟩ :: lines buffer
    else consUnit unit (lines buffer)

/-- One more unit in front of the first line is one more unit in front of the buffer. -/
theorem flatMap_units_consUnit (unit : UInt16) (block : List Line) :
    (consUnit unit block).flatMap Line.units = unit :: block.flatMap Line.units := by
  cases block <;> rfl

/-- The lines of a buffer, breaks included, are the buffer. -/
theorem flatMap_units_lines (buffer : List UInt16) : (lines buffer).flatMap Line.units = buffer := by
  induction buffer with
  | nil => rfl
  | cons unit buffer ih =>
    rw [lines]
    split
    next hfeed => rw [List.flatMap_cons, ih, hfeed, Line.units, List.nil_append, List.singleton_append]
    next hfeed =>
      split
      next hreturn =>
        split
        next hhead =>
          obtain ⟨rest, rfl⟩ := List.head?_eq_some_iff.1 hhead
          rw [lines, if_pos rfl, List.flatMap_cons] at ih
          rw [lines, if_pos rfl, List.tail_cons, List.flatMap_cons, hreturn, ← ih]
          rfl
        next => rw [List.flatMap_cons, ih, hreturn, Line.units, List.nil_append, List.singleton_append]
      next => rw [flatMap_units_consUnit, ih]

/-- The number of units in front of a position: those of the lines above it, and the column. -/
def offset (buffer : List UInt16) (position : Position) : Nat :=
  (((lines buffer).take position.line).flatMap Line.units).length + position.character

/-- A position names a place if its line exists, its column is on that line in front of the break, and no
surrogate pair stands around it. -/
def Names (buffer : List UInt16) (position : Position) : Prop :=
  ∃ line ∈ (lines buffer)[position.line]?, position.character ≤ line.content.length ∧
    ¬ SplitsPair line.content position.character

/-- The changes that an editor can make to its copy. -/
def Valid (buffer : List UInt16) (change : Change) : Prop :=
  ∀ range ∈ change.range, range.start.le range.stop ∧ Names buffer range.start ∧
    Names buffer range.stop

/-- The copy after a change. -/
def apply (change : Change) (buffer : List UInt16) : List UInt16 :=
  match change.range with
  | none => encode change.newText
  | some range =>
    buffer.take (offset buffer range.start) ++
      (encode change.newText ++ buffer.drop (offset buffer range.stop))

/-- The copy after several changes, each one to the result of those before it. -/
def applyChanges (changes : List Change) (buffer : List UInt16) : List UInt16 :=
  changes.foldl (fun buffer change => apply change buffer) buffer

/-- Changes that an editor can make to its copy one after another. -/
def ValidRun : List Change → List UInt16 → Prop
  | [], _ => True
  | change :: changes, buffer => Valid buffer change ∧ ValidRun changes (apply change buffer)

instance (buffer : List UInt16) (position : Position) : Decidable (Names buffer position) :=
  inferInstanceAs (Decidable (∃ line ∈ (lines buffer)[position.line]?,
    position.character ≤ line.content.length ∧ ¬ SplitsPair line.content position.character))

instance (buffer : List UInt16) (change : Change) : Decidable (Valid buffer change) :=
  inferInstanceAs (Decidable (∀ range ∈ change.range, range.start.le range.stop ∧
    Names buffer range.start ∧ Names buffer range.stop))

instance decidableValidRun : (changes : List Change) → (buffer : List UInt16) →
    Decidable (ValidRun changes buffer)
  | [], _ => .isTrue trivial
  | change :: changes, buffer =>
    have := decidableValidRun changes (apply change buffer)
    inferInstanceAs (Decidable (Valid buffer change ∧ ValidRun changes (apply change buffer)))

/-! ### Lines of characters and lines of units -/

/-- The units of a line. -/
def encodeLine (line : Document.Line) : Line :=
  ⟨encode line.content, encode line.ending.text⟩

theorem units_encodeLine (line : Document.Line) : (encodeLine line).units = encode line.text :=
  (encode_append line.content line.ending.text).symm

/-- Only a line feed has the unit of a line feed. -/
theorem lineFeed_mem_encodeChar_iff {c : Char} : lineFeed ∈ encodeChar c ↔ c = '\n' :=
  ofNat_mem_encodeChar_iff (d := '\n') (by decide)

/-- Only a carriage return has the unit of a carriage return. -/
theorem carriageReturn_mem_encodeChar_iff {c : Char} : carriageReturn ∈ encodeChar c ↔ c = '\r' :=
  ofNat_mem_encodeChar_iff (d := '\r') (by decide)

@[simp]
theorem encodeChar_lineFeed : encodeChar '\n' = [lineFeed] := rfl

@[simp]
theorem encodeChar_carriageReturn : encodeChar '\r' = [carriageReturn] := rfl

/-- The units of a text start with a line feed if the text does. -/
theorem head?_encode_iff {text : Text} :
    (encode text).head? = some lineFeed ↔ text.head? = some '\n' := by
  cases text with
  | nil => simp
  | cons c text =>
    obtain ⟨unit, units, hunits⟩ := exists_encodeChar_eq_cons c
    have hmem := lineFeed_mem_encodeChar_iff (c := c)
    rw [encode_cons, hunits, List.cons_append, List.head?_cons, List.head?_cons, Option.some_inj,
      Option.some_inj, ← hmem]
    constructor
    · rintro rfl
      rw [hunits]
      exact List.mem_cons_self
    · intro hfeed
      rw [hmem.1 hfeed, encodeChar_lineFeed] at hunits
      exact (List.cons.inj hunits).1.symm

/-- Units that are no breaks go in front of the first line. -/
theorem lines_append {front buffer : List UInt16} (hfeed : lineFeed ∉ front)
    (hreturn : carriageReturn ∉ front) {line : Line} {rest : List Line}
    (hlines : lines buffer = line :: rest) :
    lines (front ++ buffer) = ⟨front ++ line.content, line.ending⟩ :: rest := by
  induction front with
  | nil => exact hlines
  | cons unit front ih =>
    rw [List.mem_cons, not_or] at hfeed hreturn
    rw [List.cons_append, lines, if_neg (Ne.symm hfeed.1), if_neg (Ne.symm hreturn.1),
      ih hfeed.2 hreturn.2]
    rfl

/-- **The lines of the units are the units of the lines.** -/
theorem lines_encode (text : Text) : lines (encode text) = (Document.lines text).map encodeLine := by
  fun_induction Document.lines text with
  | case1 => rfl
  | case2 text ih =>
    rw [encode_cons, encodeChar_lineFeed, List.singleton_append, lines, if_pos rfl, ih]
    rfl
  | case3 text ih =>
    -- the lines behind the carriage return start with an empty one, which is left out
    rw [encode_cons, encode_cons, encodeChar_carriageReturn, encodeChar_lineFeed,
      List.singleton_append, List.singleton_append, lines, if_neg (by decide), if_pos rfl,
      List.head?_cons, if_pos rfl, lines, if_pos rfl, ih]
    rfl
  | case4 text hnext ih =>
    have hhead : (encode text).head? ≠ some lineFeed := by
      rw [Ne, head?_encode_iff]
      intro hhead
      obtain ⟨rest, rfl⟩ := List.head?_eq_some_iff.1 hhead
      exact hnext rest rfl
    rw [encode_cons, encodeChar_carriageReturn, List.singleton_append, lines, if_neg (by decide),
      if_pos rfl, if_neg hhead, ih]
    rfl
  | case5 c text hfeed hpair hreturn ih =>
    -- one unit or two, and neither of them a break
    obtain ⟨line, rest, hline⟩ := exists_lines_eq_cons text
    rw [hline, List.map_cons] at ih
    rw [encode_cons, lines_append (mt lineFeed_mem_encodeChar_iff.1 hfeed)
      (mt carriageReturn_mem_encodeChar_iff.1 hreturn) ih, hline]
    simp [consChar, encodeLine]

/-! ### Places -/

/-- The characters in front of a position of some lines make up the units in front of it. -/
theorem length_encode_take_offsetIn {block : List Document.Line} {line : Document.Line}
    {number character : Nat} (hline : block[number]? = some line)
    (hcolumn : character ≤ (encode line.content).length)
    (hpair : ¬ SplitsPair (encode line.content) character) :
    (encode (((block.map Document.Line.text).flatten).take
        (offsetIn block number character))).length =
      (((block.map encodeLine).take number).flatMap Line.units).length + character := by
  induction block generalizing number with
  | nil => simp at hline
  | cons first block ih =>
    rw [List.map_cons, List.flatten_cons]
    cases number with
    | zero =>
      obtain rfl : first = line := by simpa using hline
      have hle := column_le_length first.content character
      rw [offsetIn, Document.Line.text, List.append_assoc, List.take_append_of_le_length hle,
        length_encode_take_column hcolumn hpair]
      simp
    | succ number =>
      rw [List.getElem?_cons_succ] at hline
      rw [offsetIn, List.take_length_add_append, encode_append, List.length_append, ih hline,
        List.map_cons, List.take_succ_cons, List.flatMap_cons, List.length_append, units_encodeLine,
        Nat.add_assoc]

/-- **The characters in front of a place make up the units in front of it.** -/
theorem length_encode_take_offset {text : Text} {position : Position}
    (h : Names (encode text) position) :
    (encode (text.take (Document.offset text position))).length = offset (encode text) position := by
  obtain ⟨line, hline, hcolumn, hpair⟩ := h
  rw [lines_encode, List.getElem?_map] at hline
  obtain ⟨characters, hcharacters, rfl⟩ := Option.map_eq_some_iff.1 hline
  have hblock := length_encode_take_offsetIn hcharacters hcolumn hpair
  rw [lines_flatten] at hblock
  rw [offset, lines_encode]
  exact hblock

theorem take_encode {text : Text} {position : Position} (h : Names (encode text) position) :
    (encode text).take (offset (encode text) position) =
      encode (text.take (Document.offset text position)) := by
  have htake : (encode (text.take (Document.offset text position)) ++
      encode (text.drop (Document.offset text position))).take (offset (encode text) position) =
        encode (text.take (Document.offset text position)) :=
    List.take_left' (length_encode_take_offset h)
  rwa [encode_take_append_drop] at htake

theorem drop_encode {text : Text} {position : Position} (h : Names (encode text) position) :
    (encode text).drop (offset (encode text) position) =
      encode (text.drop (Document.offset text position)) := by
  have hdrop : (encode (text.take (Document.offset text position)) ++
      encode (text.drop (Document.offset text position))).drop (offset (encode text) position) =
        encode (text.drop (Document.offset text position)) :=
    List.drop_left' (length_encode_take_offset h)
  rwa [encode_take_append_drop] at hdrop

/-! ### Changes -/

/-- **A change leaves here what it leaves there.** -/
theorem encode_apply {text : Text} {change : Change} (h : Valid (encode text) change) :
    encode (change.apply text) = apply change (encode text) := by
  obtain ⟨range, newText⟩ := change
  cases range with
  | none => rfl
  | some range =>
    obtain ⟨hle, hstart, hstop⟩ := h range rfl
    -- the ends are in order, so that nothing is exchanged
    have hmono := offset_mono text hle
    simp only [Change.apply, Edit.apply, splice, apply, Nat.min_eq_left hmono, Nat.max_eq_right hmono,
      encode_append, take_encode hstart, drop_encode hstop]

/-- **The characters kept here encode to the units that the editor keeps**, after every sequence of changes
that the editor can make. -/
theorem encode_applyChanges {changes : List Change} {text : Text}
    (h : ValidRun changes (encode text)) :
    encode (Document.applyChanges changes text) = applyChanges changes (encode text) := by
  induction changes generalizing text with
  | nil => rfl
  | cons change changes ih =>
    obtain ⟨hvalid, hrest⟩ := h
    rw [← encode_apply hvalid] at hrest
    have hrun := ih hrest
    rw [encode_apply hvalid] at hrun
    exact hrun

/-- A change that puts a lone carriage return in front of a pair, and one that joins two lines. -/
theorem encode_applyChanges_pair :
    let text := "ab\n😀x\r\nz".toList
    let changes : List Change :=
      [⟨some ⟨⟨1, 2⟩, ⟨1, 3⟩⟩, "y\r".toList⟩, ⟨some ⟨⟨0, 2⟩, ⟨1, 0⟩⟩, []⟩]
    ValidRun changes (encode text) ∧ Document.applyChanges changes text = "ab😀y\r\r\nz".toList ∧
      encode (Document.applyChanges changes text) = applyChanges changes (encode text) := by
  intro text changes
  have valid : ValidRun changes (encode text) := by decide +kernel
  exact ⟨valid, by decide +kernel, encode_applyChanges valid⟩

end Client

end UsingAdvisor.Document
