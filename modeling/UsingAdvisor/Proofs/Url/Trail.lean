import UsingAdvisor.Proofs.Url.Escapes

/-!
# Paths that are kept as written

Reading the path of a file URL can change it: dots are resolved, characters are escaped, breaks are left out and a
drive letter is set apart. A plain segment (`IsPlain`) meets none of this, so that a trail takes it as it stands
(`Trail.follow_of_isPlain`) and a path of plain segments is read back, at the front of the path or below it
(`readTrail_join`). An escaped name is plain, unless it is dots (`Escapes.isPlain`).
-/

namespace UsingAdvisor.Url

/-- A segment that a file URL keeps as it is, wherever it stands in the path. -/
structure IsPlain (segment : Text) : Prop where
  kept : ∀ c ∈ segment, IsKept c
  isDot : isDot segment = false
  isDoubleDot : isDoubleDot segment = false

/-! ### Plain segments -/

theorem encode_eq_self {mustEscape : Char → Bool} {text : Text}
    (h : ∀ c ∈ text, (0x7F ≤ c.toNat || mustEscape c) = false) : encode mustEscape text = text := by
  induction text with
  | nil => rfl
  | cons c text ih =>
    obtain ⟨hc, htext⟩ := List.forall_mem_cons.1 h
    rw [encode, List.flatMap_cons, hc, ← encode, ih htext]
    rfl

theorem withoutBreaks_eq_self {text : Text} (h : ∀ c ∈ text, isBreak c = false) : withoutBreaks text = text := by
  refine List.filter_eq_self.2 fun c hc => ?_
  rw [h c hc]
  rfl

/-- A drive letter has a colon or a bar. -/
theorem isDrive_eq_false {segment : Text} (hcolon : ':' ∉ segment) (hbar : '|' ∉ segment) :
    isDrive segment = false := by
  rw [isDrive.eq_def]
  split
  next c mark =>
    have hmark : (mark == ':' || mark == '|') = false := by
      simp only [List.mem_cons, List.not_mem_nil, or_false, not_or] at hcolon hbar
      simp [Ne.symm hcolon.2, Ne.symm hbar.2]
    rw [hmark, Bool.and_false]
  next => rfl

/-- A drive letter that is set apart has a colon. -/
theorem cutDrive?_eq_none {segment : Text} (h : ':' ∉ segment) : cutDrive? segment = none := by
  rw [cutDrive?]
  split
  next => rfl
  next letter rest hrest =>
    split
    next c after hafter =>
      have hmem : ':' ∈ rest := (List.dropWhile_sublist _).subset (hafter ▸ List.mem_cons_self)
      exact absurd ((List.dropWhile_sublist _).subset (hrest ▸ List.mem_cons_of_mem letter hmem)) h
    next => rfl

namespace IsPlain

variable {segment : Text}

theorem isSlash (h : IsPlain segment) : ∀ c ∈ segment, Kind.file.isSlash c = false :=
  fun c hc => (h.kept c hc).isSlash

theorem isDrive (h : IsPlain segment) : isDrive segment = false :=
  isDrive_eq_false (fun hc => (h.kept _ hc).ne_marks.1 rfl) (fun hc => (h.kept _ hc).ne_marks.2.1 rfl)

theorem cutDrive? (h : IsPlain segment) : cutDrive? segment = none :=
  cutDrive?_eq_none fun hc => (h.kept _ hc).ne_marks.1 rfl

theorem written (h : IsPlain segment) : encode inPath (withoutBreaks segment) = segment := by
  rw [withoutBreaks_eq_self fun c hc => (h.kept c hc).isBreak, encode_eq_self fun c hc => (h.kept c hc).encode]

end IsPlain

/-- **An escaped name is plain**, unless it is dots. -/
theorem Escapes.isPlain {segment : Text} {name : Bytes} (h : Escapes segment name) (hdot : name ≠ [FilePath.dot])
    (hdots : name ≠ [FilePath.dot, FilePath.dot]) : IsPlain segment where
  kept := fun c hc => isKept_of_isWritten (h.isWritten c hc)
  isDot := Bool.eq_false_iff.2 fun hsegment => hdot (h.decode_eq ▸ decode_of_isDot hsegment)
  isDoubleDot := Bool.eq_false_iff.2 fun hsegment => hdots (h.decode_eq ▸ decode_of_isDoubleDot hsegment)

theorem isPlain_nil : IsPlain [] :=
  Escapes.nil.isPlain (by decide) (by decide)

/-! ### Following plain segments -/

namespace Trail

/-- A plain segment is taken as it stands, the last one as any other. -/
theorem follow_of_isPlain {segment : Text} (h : IsPlain segment) (trail : Trail) (last : Bool) :
    trail.follow .file segment last = trail.push segment := by
  simp [follow, enter, h.written, h.isDot, h.isDoubleDot, h.isDrive, h.cutDrive?]

/-- Plain segments are taken one after another. -/
theorem followAll_of_isPlain {segments : List Text} (h : ∀ segment ∈ segments, IsPlain segment) (trail : Trail) :
    trail.followAll .file segments = ⟨segments.reverse ++ trail.above, trail.onDrive⟩ := by
  induction segments generalizing trail with
  | nil => rfl
  | cons segment segments ih =>
    obtain ⟨hsegment, hsegments⟩ := List.forall_mem_cons.1 h
    rw [followAll, follow_of_isPlain hsegment, ih hsegments, push, List.reverse_cons, List.append_assoc,
      List.singleton_append]

end Trail

/-! ### Splitting -/

theorem splitSlashes_append_slash {kind : Kind} {front : Text} (h : ∀ c ∈ front, kind.isSlash c = false)
    (text : Text) : splitSlashes kind (front ++ '/' :: text) = front :: splitSlashes kind text := by
  induction front with
  | nil => rfl
  | cons c front ih =>
    obtain ⟨hc, hfront⟩ := List.forall_mem_cons.1 h
    rw [List.cons_append, splitSlashes, hc, ih hfront]
    rfl

theorem splitSlashes_of_forall {kind : Kind} {text : Text} (h : ∀ c ∈ text, kind.isSlash c = false) :
    splitSlashes kind text = [text] := by
  induction text with
  | nil => rfl
  | cons c text ih =>
    obtain ⟨hc, htext⟩ := List.forall_mem_cons.1 h
    rw [splitSlashes, hc, ih htext]
    rfl

/-- The segments that a path is read with, of which there is at least one: the root has an empty one. -/
def shown (segments : List Text) : List Text :=
  if segments = [] then [[]] else segments

theorem shown_of_ne_nil {segments : List Text} (h : segments ≠ []) : shown segments = segments :=
  if_neg h

theorem exists_shown_eq_cons (segments : List Text) : ∃ segment rest, shown segments = segment :: rest := by
  obtain _ | ⟨segment, rest⟩ := segments
  · exact ⟨[], [], rfl⟩
  · exact ⟨segment, rest, rfl⟩

/-- Segments that are joined by slashes are read back. -/
theorem splitSlashes_join {segments : List Text} (h : ∀ segment ∈ segments, IsPlain segment) :
    splitSlashes .file (Text.join ['/'] segments) = shown segments := by
  induction segments with
  | nil => rfl
  | cons segment segments ih =>
    obtain ⟨hsegment, hsegments⟩ := List.forall_mem_cons.1 h
    obtain _ | ⟨next, segments⟩ := segments
    · exact splitSlashes_of_forall hsegment.isSlash
    · rw [Text.join, List.append_assoc, List.singleton_append, splitSlashes_append_slash hsegment.isSlash,
        ih hsegments, shown_of_ne_nil (List.cons_ne_nil _ _), shown_of_ne_nil (List.cons_ne_nil _ _)]

/-- What holds of a separator and of every text holds of the whole. -/
theorem forall_mem_join {P : Char → Prop} {separator : Text} {texts : List Text} (hseparator : ∀ c ∈ separator, P c)
    (h : ∀ text ∈ texts, ∀ c ∈ text, P c) : ∀ c ∈ Text.join separator texts, P c := by
  induction texts with
  | nil => exact List.forall_mem_nil P
  | cons text texts ih =>
    obtain ⟨htext, htexts⟩ := List.forall_mem_cons.1 h
    obtain _ | ⟨next, texts⟩ := texts
    · exact htext
    · rw [Text.join, List.forall_mem_append, List.forall_mem_append]
      exact ⟨⟨htext, hseparator⟩, ih htexts⟩

/-! ### Paths of plain segments -/

section Paths

variable {segments : List Text}

theorem isPlain_of_mem_shown (h : ∀ segment ∈ segments, IsPlain segment) :
    ∀ segment ∈ shown segments, IsPlain segment := by
  rw [shown]
  split
  · exact List.forall_mem_singleton.2 isPlain_nil
  · exact h

/-- **A path of plain segments is read back.** -/
theorem readTrail_join (h : ∀ segment ∈ segments, IsPlain segment) :
    readTrail .file (Text.join ['/'] segments) = ⟨(shown segments).reverse, false⟩ := by
  rw [readTrail, splitSlashes_join h, Trail.followAll_of_isPlain (isPlain_of_mem_shown h), Trail.start,
    List.append_nil]

/-- A slash in front of the path is an empty segment for now. -/
theorem readTrail_slash_join (h : ∀ segment ∈ segments, IsPlain segment) :
    readTrail .file ('/' :: Text.join ['/'] segments) = ⟨([] :: shown segments).reverse, false⟩ := by
  have hsplit : splitSlashes .file ('/' :: Text.join ['/'] segments) = [] :: shown segments := by
    rw [← List.nil_append ('/' :: _), splitSlashes_append_slash (List.forall_mem_nil _), splitSlashes_join h]
  have hplain : ∀ segment ∈ [] :: shown segments, IsPlain segment :=
    List.forall_mem_cons.2 ⟨isPlain_nil, isPlain_of_mem_shown h⟩
  rw [readTrail, hsplit, Trail.followAll_of_isPlain hplain, Trail.start, List.append_nil]

/-- Segments that are not empty stay at the end. -/
theorem dropEmpty_shown (h : [] ∉ segments) : dropEmpty (shown segments) = shown segments := by
  obtain _ | ⟨segment, rest⟩ := segments
  · rfl
  · rw [shown_of_ne_nil (List.cons_ne_nil _ _)]
    obtain _ | ⟨c, segment⟩ := segment
    · exact absurd List.mem_cons_self h
    · rfl

/-- The empty segment in front of others is dropped at the end. -/
theorem dropEmpty_nil_shown (h : [] ∉ segments) : dropEmpty ([] :: shown segments) = shown segments := by
  obtain ⟨segment, rest, hshown⟩ := exists_shown_eq_cons segments
  rw [hshown, dropEmpty, ← hshown, dropEmpty_shown h]

end Paths

end UsingAdvisor.Url
