import UsingAdvisor.Source.Header
import UsingAdvisor.Proofs.Text.Lines
import UsingAdvisor.Proofs.Text.Stop

/-!
# Headers of texts put together

A header may reach over several lines, because white space between its name and its opener may hold line
breaks, but it never reaches past a character that is neither white space nor an opener. If a text ends its
last line and the next one starts with such a character, the headers of the two together are the headers of
the one and the headers of the other (`headers_append`).

A line that starts with such a character, and not with the keyword, is passed by the search without a trace
(`headers_endLines_append`). Directives are such lines, so putting directives below a directive leaves the
headers of a text as they are.
-/

namespace UsingAdvisor.Source

open Text (EndsLine endLines isSpace)

namespace Header

/-! ### One search after another -/

/-- Without a header ahead there are none. -/
theorem listFrom_of_none {behind ahead : Text} (h : next? behind ahead = none) :
    listFrom ⟨behind, ahead⟩ = [] := by
  rw [listFrom]
  split
  next => rfl
  next header after hsome => simp [h] at hsome

/-- The first header ahead, and those behind it. -/
theorem listFrom_of_some {behind ahead : Text} {header : Header} {after : Cursor}
    (h : next? behind ahead = some (header, after)) :
    listFrom ⟨behind, ahead⟩ = header :: listFrom after := by
  rw [listFrom]
  split
  next hnone => simp [h] at hnone
  next found rest hsome =>
    rw [h] at hsome
    obtain ⟨rfl, rfl⟩ := Prod.mk.inj (Option.some.inj hsome)
    rfl

theorem listFrom_nil (behind : Text) : listFrom ⟨behind, []⟩ = [] :=
  listFrom_of_none rfl

/-- A header at the start of a line is the first one. -/
theorem listFrom_of_read? {behind ahead rest : Text} {header : Header}
    (hstart : Cursor.startsLine behind = true) (h : read? ahead = some (header, rest)) :
    listFrom ⟨behind, ahead⟩ = header :: listFrom ⟨header.text.reverse ++ behind, rest⟩ := by
  refine listFrom_of_some ?_
  cases ahead with
  | nil => simp [read?, Text.dropFront?, keyword] at h
  | cons c ahead => simp [next?, hstart, h, Cursor.pass]

/-- Where no header starts, the search goes on with the next character. -/
theorem listFrom_cons {behind : Text} {c : Char} {ahead : Text}
    (h : Cursor.startsLine behind = true → read? (c :: ahead) = none) :
    listFrom ⟨behind, c :: ahead⟩ = listFrom ⟨c :: behind, ahead⟩ := by
  have hnext : next? behind (c :: ahead) = next? (c :: behind) ahead := by
    rw [next?]
    cases hstart : Cursor.startsLine behind with
    | false => rfl
    | true => simp [h hstart]
  cases hfound : next? (c :: behind) ahead with
  | none => rw [listFrom_of_none hfound, listFrom_of_none (hnext.trans hfound)]
  | some found => rw [listFrom_of_some hfound, listFrom_of_some (hnext.trans hfound)]

/-- Behind an opener no line starts. -/
theorem startsLine_text (header : Header) (behind : Text) :
    Cursor.startsLine (header.text.reverse ++ behind) = false := by
  cases hopener : header.opener <;> simp [text, hopener, Opener.char, Cursor.startsLine]

/-- Induction along the search: over the end of the text, a header at the start of a line, and a
character where no header starts. -/
theorem search_induction {motive : Text → Text → Prop} (nil : ∀ behind, motive behind [])
    (found : ∀ behind ahead header rest, Cursor.startsLine behind = true →
      read? ahead = some (header, rest) → motive (header.text.reverse ++ behind) rest →
      motive behind ahead)
    (skip : ∀ behind c ahead, (Cursor.startsLine behind = true → read? (c :: ahead) = none) →
      motive (c :: behind) ahead → motive behind (c :: ahead))
    (behind ahead : Text) : motive behind ahead := by
  -- on the length of what is ahead, since the search goes on behind a header or behind one character
  induction hlength : ahead.length using Nat.strongRecOn generalizing behind ahead with
  | _ length ih =>
    cases ahead with
    | nil => exact nil behind
    | cons c ahead =>
      have hskip : motive (c :: behind) ahead :=
        ih ahead.length (by rw [← hlength, List.length_cons]; omega) _ _ rfl
      by_cases hstart : Cursor.startsLine behind = true
      · cases hread : read? (c :: ahead) with
        | none => exact skip behind c ahead (fun _ => hread) hskip
        | some read =>
          obtain ⟨header, rest⟩ := read
          have happend := congrArg List.length (read?_eq_some_append hread)
          have hpos : 0 < header.text.length := by simp [text, keyword]
          rw [List.length_append, hlength] at happend
          exact found behind _ header rest hstart hread (ih rest.length (by omega) _ _ rfl)
      · exact skip behind c ahead (fun hstarts => absurd hstarts hstart) hskip

/-- A header does not end its line. -/
theorem not_endsLine_text (header : Header) : ¬ EndsLine header.text := by
  intro hends
  have hlast : header.text.getLast? = some header.opener.char := by
    simp [text, List.getLast?_append, List.getLast?_cons]
  have := hends _ hlast
  cases hopener : header.opener <;> simp [hopener, Opener.char] at this

/-- What is behind a place matters only in that a line may start there. -/
theorem listFrom_congr {behind behind' : Text}
    (h : Cursor.startsLine behind = Cursor.startsLine behind') (ahead : Text) :
    listFrom ⟨behind, ahead⟩ = listFrom ⟨behind', ahead⟩ := by
  induction behind, ahead using search_induction generalizing behind' with
  | nil behind => rw [listFrom_nil, listFrom_nil]
  | found behind ahead header rest hstart hread ih =>
    have hsame : Cursor.startsLine (header.text.reverse ++ behind) =
        Cursor.startsLine (header.text.reverse ++ behind') := by
      rw [startsLine_text, startsLine_text]
    rw [listFrom_of_read? hstart hread, listFrom_of_read? (h ▸ hstart) hread, ih hsame]
  | skip behind c ahead hnone ih =>
    have hsame : Cursor.startsLine (c :: behind) = Cursor.startsLine (c :: behind') := rfl
    rw [listFrom_cons hnone, listFrom_cons (h ▸ hnone), ih hsame]

/-! ### Reading in front of a text -/

/-- The text starts with a character that is neither white space nor an opener, so no header that starts
in front of it reaches into it. -/
def Apart (text : Text) : Prop :=
  ∃ c rest, text = c :: rest ∧ isSpace c = false ∧ c ≠ '{' ∧ c ≠ ';'

/-- The end of a header: the white space behind the name, and the opener. -/
def close? (name spaced : Text) : Option (Header × Text) :=
  match spaced.dropWhile isSpace with
  | '{' :: rest => some (⟨name, spaced.takeWhile isSpace, .brace⟩, rest)
  | ';' :: rest => some (⟨name, spaced.takeWhile isSpace, .semicolon⟩, rest)
  | _ => none

/-- A header is read as keyword, name and end. -/
theorem read?_eq (source : Text) :
    read? source = (Text.dropFront? (keyword ++ [' ']) source).bind fun named =>
      (Text.dottedName? named).bind fun read => close? read.1 read.2 := by
  unfold read?
  cases Text.dropFront? (keyword ++ [' ']) source with
  | none => rfl
  | some named =>
    rw [Option.bind_some]
    cases hname : Text.dottedName? named with
    | none => simp [hname]
    | some read =>
      rw [Option.bind_some]
      simp only [hname]
      rfl

/-- Without an opener a header does not end. -/
theorem close?_eq_none {name spaced rest : Text} {c : Char}
    (h : spaced.dropWhile isSpace = c :: rest) (hbrace : c ≠ '{') (hsemicolon : c ≠ ';') :
    close? name spaced = none := by
  unfold close?
  rw [h]
  split <;> simp_all

/-- The end of a header in front of a text apart is found in front of it. -/
theorem close?_append {spaced back : Text} (hback : Apart back) (name : Text) :
    close? name (spaced ++ '\n' :: back) =
      (close? name (spaced ++ ['\n'])).map fun read => (read.1, read.2 ++ back) := by
  obtain ⟨c, rest, rfl, hspace, hbrace, hsemicolon⟩ := hback
  have hfeed : isSpace '\n' = true := by decide
  cases hafter : spaced.dropWhile isSpace with
  | nil =>
    -- white space only, which goes on through the line feed up to the text apart
    have hopen : (spaced ++ ['\n']).dropWhile isSpace = [] := by
      simp [List.dropWhile_append, hafter, hfeed]
    have hfull : (spaced ++ '\n' :: c :: rest).dropWhile isSpace = c :: rest := by
      simp [List.dropWhile_append, hafter, hfeed, hspace]
    rw [close?_eq_none hfull hbrace hsemicolon, close?, hopen]
    rfl
  | cons d after =>
    have htake (tail : Text) : (spaced ++ tail).takeWhile isSpace = spaced.takeWhile isSpace := by
      have hlength := congrArg List.length (spaced.takeWhile_append_dropWhile (p := isSpace))
      rw [hafter, List.length_append, List.length_cons] at hlength
      rw [List.takeWhile_append, if_neg (by omega)]
    have hdrop (tail : Text) : (spaced ++ tail).dropWhile isSpace = d :: (after ++ tail) := by
      simp [List.dropWhile_append, hafter]
    simp only [close?, htake, hdrop]
    split <;> simp_all

/-- **Reading a header looks at nothing behind the line feed in front of a text apart.** -/
theorem read?_append {front back : Text} (hends : EndsLine front) (hne : front ≠ [])
    (hback : Apart back) :
    read? (front ++ back) = (read? front).map fun read => (read.1, read.2 ++ back) := by
  obtain ⟨front, rfl⟩ := hends.exists_eq_append hne
  have hword : '\n' ∉ keyword ++ [' '] := by decide
  simp only [read?_eq, List.append_assoc, List.singleton_append, Text.dropFront?_stop hword]
  cases Text.dropFront? (keyword ++ [' ']) front with
  | none => rfl
  | some named =>
    simp only [Option.map_some, Option.bind_some, Text.dottedName?_stop Text.stops_lineFeed.toEndsName]
    cases Text.dottedName? named with
    | none => rfl
    | some read => exact close?_append hback read.1

/-! ### Headers of two texts -/

/-- The headers of a text in front of a text apart are found in front of it. -/
theorem listFrom_append {back : Text} (hback : Apart back) {behind front : Text}
    (hends : EndsLine front) (hstart : front = [] → Cursor.startsLine behind = true) :
    listFrom ⟨behind, front ++ back⟩ = listFrom ⟨behind, front⟩ ++ listFrom ⟨[], back⟩ := by
  induction behind, front using search_induction with
  | nil behind =>
    rw [listFrom_nil, List.nil_append, List.nil_append]
    exact listFrom_congr (hstart rfl) back
  | found behind front header rest hline hread ih =>
    have hfront := read?_eq_some_append hread
    -- the opener is no line feed, so the text goes on behind the header
    have hrest : rest ≠ [] := by
      rintro rfl
      rw [hfront, List.append_nil] at hends
      exact not_endsLine_text header hends
    have hboth := read?_append hends (by simp [hfront, text, keyword]) hback
    rw [hread, Option.map_some] at hboth
    rw [listFrom_of_read? hline hboth, listFrom_of_read? hline hread,
      ih (hfront ▸ hends).of_append (fun heq => absurd heq hrest), List.cons_append]
  | skip behind c front hnone ih =>
    -- no header starts here in the longer text either
    have hboth : Cursor.startsLine behind = true → read? (c :: (front ++ back)) = none := by
      intro hline
      rw [← List.cons_append, read?_append hends (List.cons_ne_nil c front) hback, hnone hline,
        Option.map_none]
    rw [List.cons_append, listFrom_cons hboth, listFrom_cons hnone, ih hends.tail]
    rintro rfl
    rw [hends c rfl]
    rfl

/-- Behind the start of a line, the rest of the line starts no header. -/
theorem listFrom_line_append {back : Text} {found : List Header}
    (hback : ∀ behind, Cursor.startsLine behind = false → listFrom ⟨behind, back⟩ = found)
    {behind line : Text} (hstart : Cursor.startsLine behind = false) (hfeed : '\n' ∉ line) :
    listFrom ⟨behind, line ++ back⟩ = found := by
  induction line generalizing behind with
  | nil => exact hback behind hstart
  | cons c line ih =>
    simp only [List.mem_cons, not_or] at hfeed
    rw [List.cons_append, listFrom_cons (by simp [hstart]), ih _ hfeed.2]
    simpa [Cursor.startsLine] using Ne.symm hfeed.1

/-- Behind such a line the search starts anew. -/
theorem listFrom_line {behind line : Text} (hstart : Cursor.startsLine behind = false)
    (hfeed : '\n' ∉ line) (back : Text) :
    listFrom ⟨behind, line ++ '\n' :: back⟩ = listFrom ⟨[], back⟩ := by
  refine listFrom_line_append (fun behind hstart => ?_) hstart hfeed
  have hsame : Cursor.startsLine ('\n' :: behind) = Cursor.startsLine [] := rfl
  rw [listFrom_cons (by simp [hstart]), listFrom_congr hsame]

/-- Such a line at the end of a text holds no header. -/
theorem listFrom_lastLine {behind line : Text} (hstart : Cursor.startsLine behind = false)
    (hfeed : '\n' ∉ line) : listFrom ⟨behind, line⟩ = [] := by
  have hline := listFrom_line_append (fun behind _ => listFrom_nil behind) hstart hfeed
  rwa [List.append_nil] at hline

/-- The text starts with another character than the keyword. -/
theorem read?_eq_none {c : Char} (h : c ≠ 'n') (rest : Text) : read? (c :: rest) = none := by
  simp [read?, keyword, Text.dropFront?, Ne.symm h]

end Header

/-- A line that is apart and does not start with the keyword. -/
def Passed (line : Text) : Prop :=
  '\n' ∉ line ∧ Header.Apart line ∧ line.head? ≠ some 'n'

/-- A block that starts with such a line is apart. -/
theorem Passed.apart_endLines {line : Text} (h : Passed line) (block : List Text) (back : Text) :
    Header.Apart (endLines (line :: block) ++ back) := by
  obtain ⟨-, ⟨c, rest, rfl, hapart⟩, -⟩ := h
  refine ⟨c, rest ++ '\n' :: (endLines block ++ back), ?_, hapart⟩
  simp

/-- No header starts at the front of such a line, and behind its front no line starts. -/
theorem Passed.exists_eq_cons {line : Text} (h : Passed line) :
    ∃ c rest, line = c :: rest ∧ (∀ more, Header.read? (c :: more) = none) ∧
      Cursor.startsLine [c] = false ∧ '\n' ∉ rest := by
  obtain ⟨hfeed, ⟨c, rest, rfl, -, -, -⟩, hhead⟩ := h
  have hc : c ≠ 'n' := by simpa using hhead
  simp only [List.mem_cons, not_or] at hfeed
  refine ⟨c, rest, rfl, Header.read?_eq_none hc, ?_, hfeed.2⟩
  simpa [Cursor.startsLine] using Ne.symm hfeed.1

/-- The search passes such lines. -/
theorem headers_endLines_append {block : List Text} (h : ∀ line ∈ block, Passed line)
    (back : Text) : headers (endLines block ++ back) = headers back := by
  induction block with
  | nil => rfl
  | cons line block ih =>
    obtain ⟨hline, hblock⟩ := List.forall_mem_cons.1 h
    obtain ⟨c, rest, rfl, hread, hstart, hfeed⟩ := hline.exists_eq_cons
    rw [← ih hblock, Text.endLines_cons, List.append_assoc]
    refine (Header.listFrom_cons fun _ => hread _).trans ?_
    exact Header.listFrom_line hstart hfeed _

/-- Such a line alone holds no header. -/
theorem Passed.headers_eq_nil {line : Text} (h : Passed line) : headers line = [] := by
  obtain ⟨c, rest, rfl, hread, hstart, hfeed⟩ := h.exists_eq_cons
  exact (Header.listFrom_cons fun _ => hread rest).trans (Header.listFrom_lastLine hstart hfeed)

/-- **The headers of a text that ends its last line, with a text apart behind it.** -/
theorem headers_append {front back : Text} (hends : EndsLine front) (hback : Header.Apart back) :
    headers (front ++ back) = headers front ++ headers back :=
  Header.listFrom_append hback hends fun _ => rfl

end UsingAdvisor.Source
