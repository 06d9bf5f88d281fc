import UsingAdvisor.Source.Scan
import UsingAdvisor.Proofs.Source.Declarations
import UsingAdvisor.Proofs.Source.Joined

/-!
# Lines that declare nothing

A line is inert if the search for headers passes it, the keyword does not occur in it, it has no closing brace and
declares nothing. Such a line may stand at the top of a text or behind any other line that the search passes
without a trace: no header reaches over the line in front of it, no reach ends at it, no block is closed by it, and
what a block declares is declared on the other lines. Main statement: `flatMap_symbols_insert`.
-/

namespace UsingAdvisor.Source

open Text (breakAt endLines endsLine_endLines)

/-- A line that has no part in the headers, the reaches, the closing lines and the declarations of a text. -/
structure Inert (line : Text) : Prop where
  passed : Passed line
  keyword : ¬ Header.keyword <:+: line
  brace : '}' ∉ line
  declarations : declarations line = []

namespace Inert

variable {line : Text} (inert : Inert line)
include inert

/-- The keyword does not occur in the line, and no occurrence goes on behind a line feed. -/
theorem breakAt_line (back : Text) :
    breakAt Header.keyword (line ++ '\n' :: back) =
      (line ++ '\n' :: (breakAt Header.keyword back).1, (breakAt Header.keyword back).2) := by
  rw [breakAt_stop (by decide) (by decide), breakAt_of_not_infix inert.keyword, if_pos rfl]

/-- The line adds no declarations. -/
theorem declarations_line (front back : Text) :
    Source.declarations (front ++ '\n' :: (line ++ '\n' :: back)) =
      Source.declarations (front ++ '\n' :: back) := by
  rw [declarations_append_lineFeed, declarations_append_lineFeed line, inert.declarations,
    List.nil_append, declarations_append_lineFeed]

/-- The line closes no block. -/
theorem throughLastClosing?_line (closed fresh : Bool) (front back : Text) :
    Block.throughLastClosing? closed fresh (front ++ '\n' :: (line ++ '\n' :: back)) =
      match Block.throughLastClosing? closed true back with
      | some inside => some (front ++ '\n' :: (line ++ '\n' :: inside))
      | none => Block.throughLastClosing? true fresh front := by
  rw [Block.throughLastClosing?_append_lineFeed, Block.throughLastClosing?_append_lineFeed,
    Block.throughLastClosing?_of_not_mem inert.brace]
  cases Block.throughLastClosing? closed true back <;> rfl

end Inert

/-! ### The symbols of a header -/

namespace Place

/-- The symbols that the block of a header declares. -/
def symbols (place : Place) : List Symbol :=
  place.block?.elim [] Block.symbols

/-- A file-scoped namespace declares what stands in its reach. -/
theorem symbols_of_semicolon {place : Place} (h : place.header.opener = .semicolon) :
    place.symbols =
      Block.symbols ⟨place.header.name, place.header.text ++ (breakAt Header.keyword place.rest).1⟩ := by
  simp only [symbols, block?, Block.ofHeader, after, h]
  rfl

/-- A block in braces declares what stands in its reach through the last closing line. -/
theorem symbols_of_brace {place : Place} (h : place.header.opener = .brace) :
    place.symbols =
      (Block.throughLastClosing? (breakAt Header.keyword place.rest).2.isEmpty false
        (breakAt Header.keyword place.rest).1).elim []
        fun inside => Block.symbols ⟨place.header.name, place.header.text ++ inside⟩ := by
  simp only [symbols, block?, Block.ofHeader, after, h]
  split
  next inside hinside => rw [hinside]; rfl
  next hnone => rw [hnone]; rfl

/-- Blocks of one name that declare the same have the same symbols. -/
theorem symbols_congr {name first second : Text} (h : declarations first = declarations second) :
    Block.symbols ⟨name, first⟩ = Block.symbols ⟨name, second⟩ := by
  rw [Block.symbols, Block.symbols, h]

/-- **An inert line behind a header adds nothing to its symbols and takes nothing from them.** -/
theorem symbols_insert {line : Text} (inert : Inert line) (place : Place) (back : Text) :
    (place.inFrontOf ('\n' :: (line ++ '\n' :: back))).symbols = (place.inFrontOf ('\n' :: back)).symbols := by
  have hfeed : '\n' ∉ Header.keyword := by decide
  have hkeyword : Header.keyword ≠ [] := by decide
  -- the reach ends in front of the line, in both texts, or goes over it and ends at the same place behind it
  have hwith := breakAt_stop hfeed hkeyword place.rest (line ++ '\n' :: back)
  have hwithout := breakAt_stop hfeed hkeyword place.rest back
  rw [inert.breakAt_line] at hwith
  have hbody (inside : Text) :
      declarations (place.header.text ++ (place.rest ++ '\n' :: (line ++ '\n' :: inside))) =
        declarations (place.header.text ++ (place.rest ++ '\n' :: inside)) := by
    rw [← List.append_assoc, ← List.append_assoc]
    exact inert.declarations_line _ inside
  cases hopener : place.header.opener with
  | semicolon =>
    have hscoped (more : Text) : (place.inFrontOf more).header.opener = .semicolon := hopener
    rw [symbols_of_semicolon (hscoped _), symbols_of_semicolon (hscoped _)]
    simp only [inFrontOf, hwith, hwithout]
    refine symbols_congr ?_
    split
    · exact hbody _
    · rfl
  | brace =>
    have hbraced (more : Text) : (place.inFrontOf more).header.opener = .brace := hopener
    rw [symbols_of_brace (hbraced _), symbols_of_brace (hbraced _)]
    simp only [inFrontOf, hwith, hwithout]
    split
    · simp only [inert.throughLastClosing?_line, Block.throughLastClosing?_append_lineFeed]
      cases Block.throughLastClosing? (breakAt Header.keyword back).2.isEmpty true
        (breakAt Header.keyword back).1 with
      | none => rfl
      | some inside => exact symbols_congr (hbody inside)
    · -- the keyword stands in front of the line, so that the source does not end with the reach
      have hbeyond (beyond more : Text) : (beyond ++ '\n' :: more).isEmpty = false :=
        List.isEmpty_eq_false_iff.2 (by simp)
      rw [hbeyond, hbeyond]

end Place

/-! ### The symbols of a text -/

/-- The symbols of the blocks of a text are those of its headers, each header taken on its own. -/
theorem flatMap_symbols_blocks (text : Text) :
    (blocks text).flatMap Block.symbols = (places text).flatMap Place.symbols := by
  rw [blocks_eq]
  induction places text with
  | nil => rfl
  | cons place rest ih =>
    rw [List.filterMap_cons, List.flatMap_cons, Place.symbols, ← ih]
    cases place.block? <;> rfl

/-- What stands in front of a text has no say in the symbols of its headers. -/
theorem flatMap_symbols_map_behind (before : Text) (places : List Place) :
    (places.map (Place.behind before)).flatMap Place.symbols = places.flatMap Place.symbols := by
  rw [List.flatMap_map]
  refine congrArg (List.flatMap · places) (funext fun place => ?_)
  rw [Place.symbols, Place.block?_behind, Place.symbols]

/-- A line that the search passes has no part in the symbols of the text below it. -/
theorem flatMap_symbols_line {line : Text} (h : Passed line) (back : Text) :
    (places (line ++ '\n' :: back)).flatMap Place.symbols = (places back).flatMap Place.symbols := by
  rw [places_line h, flatMap_symbols_map_behind]

/-- The symbols of lines with a passed line below them and a text behind that: those of the headers on the lines,
which may reach into the text, and those of the text. -/
theorem flatMap_symbols_append {line : Text} (h : Passed line) (above : List Text) (back : Text) :
    (places (endLines above ++ (line ++ '\n' :: back))).flatMap Place.symbols =
      (places (endLines above)).flatMap
        (fun place => ((place.inFrontOf line).inFrontOf ('\n' :: back)).symbols) ++
      (places back).flatMap Place.symbols := by
  have hapart : Header.Apart (line ++ '\n' :: back) := by
    simpa [endLines] using h.apart_endLines [] back
  rw [places_append (endsLine_endLines above) hapart, List.flatMap_append, flatMap_symbols_map_behind,
    flatMap_symbols_line h, List.flatMap_map]
  simp only [Place.inFrontOf_append]

/-- **An inert line at the top of a text, or below a line that the search passes, leaves the symbols of the text
as they are.** -/
theorem flatMap_symbols_insert {above : List Text} {line : Text}
    (last : ∀ passed ∈ above.getLast?, Passed passed) (inert : Inert line) (back : Text) :
    (blocks (endLines above ++ (line ++ '\n' :: back))).flatMap Block.symbols =
      (blocks (endLines above ++ back)).flatMap Block.symbols := by
  rw [flatMap_symbols_blocks, flatMap_symbols_blocks]
  rcases above.eq_nil_or_concat with rfl | ⟨init, passed, rfl⟩
  · exact flatMap_symbols_line inert.passed back
  · have hpassed : Passed passed := last passed (by simp)
    have hsplit (rest : Text) : endLines (init.concat passed) ++ rest =
        endLines init ++ (passed ++ '\n' :: rest) := by
      simp [endLines]
    -- headers above the passed line may reach over the inert one, and below it the text is the same
    rw [hsplit, hsplit, flatMap_symbols_append hpassed, flatMap_symbols_append hpassed,
      flatMap_symbols_line inert.passed]
    simp only [Place.symbols_insert inert]

/-- So do several inert lines. -/
theorem flatMap_symbols_insertLines {above block : List Text}
    (last : ∀ passed ∈ above.getLast?, Passed passed) (inert : ∀ line ∈ block, Inert line) (back : Text) :
    (blocks (endLines (above ++ block) ++ back)).flatMap Block.symbols =
      (blocks (endLines above ++ back)).flatMap Block.symbols := by
  induction block with
  | nil => rw [List.append_nil]
  | cons line block ih =>
    obtain ⟨hline, hblock⟩ := List.forall_mem_cons.1 inert
    have hfirst : endLines (above ++ line :: block) ++ back =
        endLines above ++ (line ++ '\n' :: (endLines block ++ back)) := by
      simp
    have hrest : endLines above ++ (endLines block ++ back) = endLines (above ++ block) ++ back := by
      simp
    rw [hfirst, flatMap_symbols_insert last hline, hrest, ih hblock]

end UsingAdvisor.Source
