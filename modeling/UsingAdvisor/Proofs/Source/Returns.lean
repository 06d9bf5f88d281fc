import UsingAdvisor.Proofs.Source.Headers
import UsingAdvisor.Proofs.Text.Returns

/-!
# Headers of texts without carriage returns

A header may hold carriage returns only in the white space behind its name. Where none of them stands without
its line feed, they have no other part in the search: a carriage return starts no line and no header, and the
line feed behind it ends the keyword or the name in which it would stand. So the headers of a text and those of
the text without its carriage returns are the same but for that white space (`headers_withoutReturns`).
-/

namespace UsingAdvisor.Source

open Text (EndsName ReturnsPaired isSpace withoutReturns withoutReturns_cons_of_ne withoutReturns_of_not_mem
  withoutReturns_return)

namespace Header

/-- The header without the carriage returns in it. -/
def withoutReturns (header : Header) : Header :=
  { header with gap := Text.withoutReturns header.gap }

/-! ### One header -/

/-- Carriage returns among white space do not part it. -/
theorem span_withoutReturns (text : Text) :
    (Text.withoutReturns text).takeWhile isSpace = Text.withoutReturns (text.takeWhile isSpace) ∧
      (Text.withoutReturns text).dropWhile isSpace = Text.withoutReturns (text.dropWhile isSpace) := by
  induction text with
  | nil => exact ⟨rfl, rfl⟩
  | cons c text ih =>
    by_cases hreturn : c = '\r'
    · have hspace : isSpace '\r' = true := by decide
      rw [hreturn, List.takeWhile_cons_of_pos hspace, List.dropWhile_cons_of_pos hspace,
        withoutReturns_return, withoutReturns_return]
      exact ih
    · rw [withoutReturns_cons_of_ne hreturn]
      cases hspace : isSpace c with
      | true =>
        rw [List.takeWhile_cons_of_pos hspace, List.dropWhile_cons_of_pos hspace,
          List.takeWhile_cons_of_pos hspace, List.dropWhile_cons_of_pos hspace,
          withoutReturns_cons_of_ne hreturn, ih.1, ih.2]
        exact ⟨rfl, rfl⟩
      | false =>
        have hne : ¬ isSpace c = true := by simp [hspace]
        rw [List.takeWhile_cons_of_neg hne, List.dropWhile_cons_of_neg hne, List.takeWhile_cons_of_neg hne,
          List.dropWhile_cons_of_neg hne, withoutReturns_cons_of_ne hreturn]
        exact ⟨rfl, rfl⟩

/-- The end of a header is found with or without carriage returns. -/
theorem close?_withoutReturns (name spaced : Text) :
    close? name (Text.withoutReturns spaced) =
      (close? name spaced).map fun read => (read.1.withoutReturns, Text.withoutReturns read.2) := by
  obtain ⟨htake, hdrop⟩ := span_withoutReturns spaced
  cases hafter : spaced.dropWhile isSpace with
  | nil =>
    rw [hafter] at hdrop
    simp [close?, hdrop, hafter]
  | cons c after =>
    have hreturn : c ≠ '\r' := by
      rintro rfl
      have hspace := List.head?_dropWhile_not isSpace spaced
      rw [hafter, List.head?_cons] at hspace
      exact absurd hspace (by decide)
    rw [hafter, withoutReturns_cons_of_ne hreturn] at hdrop
    simp only [close?, htake, hdrop, hafter]
    split <;> simp_all [withoutReturns]

/-- **A header is read with or without carriage returns.** -/
theorem read?_withoutReturns {source : Text} (paired : ReturnsPaired source) :
    read? (Text.withoutReturns source) =
      (read? source).map fun read => (read.1.withoutReturns, Text.withoutReturns read.2) := by
  by_cases hmem : '\r' ∈ source
  · -- up to the first carriage return the texts agree, and there the keyword and the name are over in both
    obtain ⟨front, back, rfl, hfront⟩ := List.eq_append_cons_of_mem hmem
    obtain ⟨rest, rfl⟩ := (ReturnsPaired.of_append front paired).exists_eq_cons
    have hfeed : '\n' ∉ keyword ++ [' '] := by decide
    have hreturn : '\r' ∉ keyword ++ [' '] := by decide
    have hends : EndsName '\r' := Text.endsName_of_isSpace (by decide)
    rw [Text.withoutReturns_append_pair hfront]
    simp only [read?_eq, Text.dropFront?_stop hfeed, Text.dropFront?_stop hreturn]
    cases hword : Text.dropFront? (keyword ++ [' ']) front with
    | none => rfl
    | some named =>
      simp only [Option.map_some, Option.bind_some, Text.dottedName?_stop hends,
        Text.dottedName?_stop Text.stops_lineFeed.toEndsName]
      cases hname : Text.dottedName? named with
      | none => rfl
      | some read =>
        have hspaced : '\r' ∉ read.2 := by
          intro hin
          refine hfront (Text.dropFront?_eq_some_iff.1 hword ▸ List.mem_append_right _ ?_)
          exact Text.dottedName?_append hname ▸ List.mem_append_right _ hin
        simp only [Option.map_some, Option.bind_some]
        rw [← Text.withoutReturns_append_pair hspaced, close?_withoutReturns]
  · rw [withoutReturns_of_not_mem hmem]
    cases hread : read? source with
    | none => rfl
    | some read =>
      obtain ⟨header, rest⟩ := read
      rw [read?_eq_some_append hread] at hmem
      simp only [text, List.mem_append, List.mem_cons, not_or] at hmem
      obtain ⟨⟨-, -, -, hgap, -⟩, hrest⟩ := hmem
      rw [Option.map_some, withoutReturns_of_not_mem hrest, withoutReturns, withoutReturns_of_not_mem hgap]

/-! ### All headers -/

/-- **The search finds the same headers with or without carriage returns.** Lines start at both places or at
neither of them, unless a line feed comes next, as it does behind a carriage return. -/
theorem listFrom_withoutReturns {behind behind' ahead : Text} (paired : ReturnsPaired ahead)
    (h : Cursor.startsLine behind = Cursor.startsLine behind' ∨ ahead.head? = some '\n') :
    listFrom ⟨behind', Text.withoutReturns ahead⟩ = (listFrom ⟨behind, ahead⟩).map withoutReturns := by
  induction behind, ahead using search_induction generalizing behind' with
  | nil behind => rw [Text.withoutReturns_nil, listFrom_nil, listFrom_nil, List.map_nil]
  | found behind ahead header rest hstart hread ih =>
    have hahead := read?_eq_some_append hread
    have hsame : Cursor.startsLine behind' = true := by
      rcases h with hsame | hfeed
      · rw [← hsame, hstart]
      · rw [hahead] at hfeed
        cases hfeed
    have hread' : read? (Text.withoutReturns ahead) =
        some (header.withoutReturns, Text.withoutReturns rest) := by
      rw [read?_withoutReturns paired, hread, Option.map_some]
    rw [listFrom_of_read? hsame hread', listFrom_of_read? hstart hread, List.map_cons,
      ih (ReturnsPaired.of_append header.text (hahead ▸ paired))]
    exact .inl (by rw [startsLine_text, startsLine_text])
  | skip behind c ahead hnone ih =>
    rw [listFrom_cons hnone]
    by_cases hreturn : c = '\r'
    · subst hreturn
      rw [withoutReturns_return]
      exact ih paired.tail (.inr (paired _ _ (List.nil_append _).symm))
    · rw [withoutReturns_cons_of_ne hreturn, listFrom_cons]
      · exact ih paired.tail (.inl rfl)
      · intro hstart
        rcases h with hsame | hfeed
        · rw [← withoutReturns_cons_of_ne hreturn, read?_withoutReturns paired, hnone (hsame.trans hstart),
            Option.map_none]
        · obtain rfl : c = '\n' := Option.some.inj hfeed
          exact read?_eq_none (by decide) _

end Header

/-- **The headers of a text without its carriage returns.** -/
theorem headers_withoutReturns {text : Text} (paired : ReturnsPaired text) :
    headers (withoutReturns text) = (headers text).map Header.withoutReturns :=
  Header.listFrom_withoutReturns paired (.inl rfl)

end UsingAdvisor.Source
