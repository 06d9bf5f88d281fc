import Mathlib.Data.List.DropRight
import Mathlib.Data.List.Forall2
import UsingAdvisor.Proofs.FileTree.Ends
import UsingAdvisor.Proofs.Url.Trail
import UsingAdvisor.Url.FilePath

/-!
# The file that a URL names

A file URL (`fileUri`) has the names of a path for its segments, escaped, below a host that may be left out and in
front of a query and a fragment that may be left out. It is read back (`exists_parse_fileUri`): the authority is the
host, but for `localhost` (`readFile_noHost`, `readFile_host`), and the path has the segments as they are written.
Their bytes make a path with the same components as the path that was written (`components_segmentsPath`), whether or
not a slash is put behind a drive letter. Main statement: `hasExtension_fileUri`, so that a saved file is a source
file for its URL if and only if it is one for its path.
-/

namespace UsingAdvisor.Url

/-- The text of a file URL: a host, the segments below the root, and what comes after the path. -/
def fileUri (host : Text) (segments : List Text) (tail : Text) : Text :=
  "file://".toList ++ (host ++ '/' :: (Text.join ['/'] segments ++ tail))

/-- Nothing, or what comes after a path: a query, a fragment, or both. -/
def IsTail (tail : Text) : Prop :=
  ∀ c ∈ tail.head?, c = '?' ∨ c = '#'

/-- Characters that end the host in the text of a file URL. -/
def endsHost (c : Char) : Bool :=
  c ∈ ['/', '\\', '?', '#']

theorem endsHost_eq_false_iff {c : Char} : endsHost c = false ↔ c ≠ '/' ∧ c ≠ '\\' ∧ c ≠ '?' ∧ c ≠ '#' := by
  simp [endsHost]

/-- The URL names a host that is not this machine. -/
def NamesOtherHost (url : Url) : Prop :=
  ∃ authority, url.authority = some authority ∧ authority.host ≠ .name [] ∧
    authority.host ≠ .name "localhost".toList

/-- The path of the URL is segments, at least one. -/
def IsHierarchical (url : Url) : Prop :=
  ∃ segment rest, url.path = .segments (segment :: rest)

/-! ### Paths -/

variable {segments : List Text} {names : List Bytes}

theorem map_decode_eq (h : List.Forall₂ Escapes segments names) : segments.map decode = names := by
  induction h with
  | nil => rfl
  | cons hsegment _ ih => rw [List.map_cons, hsegment.decode_eq, ih]

/-- The bytes of the segments, a slash in front of each, are the path below the root. -/
theorem flatMap_shown (h : List.Forall₂ Escapes segments names) :
    (shown segments).flatMap (fun segment => FilePath.slash :: decode segment) =
      FilePath.join [FilePath.slash] names := by
  rw [← map_decode_eq h]
  obtain _ | ⟨segment, rest⟩ := segments
  · rfl
  · rw [shown_of_ne_nil (List.cons_ne_nil _ _), List.flatMap_cons, List.map_cons, FilePath.join, List.flatMap_map]
    rfl

/-- **The path of the segments has the names for components.** A slash behind a drive letter changes nothing. -/
theorem components_segmentsPath (h : List.Forall₂ Escapes segments names)
    (hnames : ∀ name ∈ names, FilePath.isName name = true) :
    FilePath.components (segmentsPath (shown segments)) = .root :: names.map .name := by
  have hjoin : FilePath.components (FilePath.join [FilePath.slash] names) = .root :: names.map .name :=
    FilePath.components_join (List.cons_ne_nil _ _) hnames
  have hne : FilePath.join [FilePath.slash] names ≠ [] := by
    rintro heq
    rw [heq] at hjoin
    exact absurd hjoin (List.cons_ne_nil _ _).symm
  rw [segmentsPath, flatMap_shown h]
  split
  · rw [FilePath.components_append_slash hne, hjoin]
  · exact hjoin

/-- Names that are written as segments are plain, and none of them is empty. -/
theorem isPlain_of_forall₂ (h : List.Forall₂ Escapes segments names)
    (hnames : ∀ name ∈ names, FilePath.isName name = true) :
    (∀ segment ∈ segments, IsPlain segment) ∧ [] ∉ segments := by
  induction h with
  | nil => exact ⟨List.forall_mem_nil _, List.not_mem_nil⟩
  | @cons segment name segments names hsegment _ ih =>
    obtain ⟨hname, hrest⟩ := List.forall_mem_cons.1 hnames
    obtain ⟨hplain, hnil⟩ := ih hrest
    refine ⟨List.forall_mem_cons.2 ⟨hsegment.isPlain ?_ ?_, hplain⟩, fun hmem => ?_⟩
    · rintro rfl
      exact absurd hname (by decide)
    · rintro rfl
      exact absurd hname (by decide)
    · rcases List.mem_cons.1 hmem with rfl | hmem
      · rw [← hsegment.decode_eq] at hname
        exact absurd hname (by decide)
      · exact hnil hmem

/-! ### Reading the authority and the path -/

/-- An address in brackets is no name. -/
theorem ne_name_of_readBracketed? {text name : Text} {result : Except Fault Host}
    (h : Host.readBracketed? text = some result) : result ≠ .ok (.name name) := by
  rw [Host.readBracketed?.eq_def] at h
  split at h
  next =>
    split at h
    next =>
      split at h
      next => obtain rfl := Option.some.inj h; nofun
      next => obtain rfl := Option.some.inj h; nofun
    next => obtain rfl := Option.some.inj h; nofun
  next => contradiction

/-- A host is not empty. -/
theorem readSpecial_ne_empty (text : Text) : Host.readSpecial text ≠ .ok (.name []) := by
  rw [Host.readSpecial]
  split
  next result hresult => exact ne_name_of_readBracketed? hresult
  next =>
    split
    next => nofun
    next domain _ =>
      split
      next => nofun
      next =>
        split
        next => nofun
        next hdomain =>
          split
          next => split <;> nofun
          next => exact fun heq => hdomain (Host.name.inj (Except.ok.inj heq))

/-- Nothing is no host. -/
theorem readSpecial_nil : Host.readSpecial [] = .error .emptyHost := by
  rfl

section Reading

variable (hplain : ∀ segment ∈ segments, IsPlain segment) (hnil : [] ∉ segments)
include hplain hnil

/-- Three slashes in a row leave no place for a host. -/
theorem readFile_noHost :
    readFile ('/' :: '/' :: '/' :: Text.join ['/'] segments) =
      .ok (⟨[], .name [], none⟩, .segments (shown segments)) := by
  have hread : readFile ('/' :: '/' :: '/' :: Text.join ['/'] segments) =
      let trail := readTrail .file ('/' :: Text.join ['/'] segments)
      .ok (⟨[], if trail.onDrive then .name [] else .name [], none⟩, .segments (dropEmpty trail.segments)) := rfl
  rw [hread, readTrail_slash_join hplain]
  simp only [Trail.segments, List.reverse_reverse, dropEmpty_nil_shown hnil]
  rfl

/-- A host stands between two slashes and the next one. The one named `localhost` is left out. -/
theorem readFile_host {text : Text} {host : Host} (hslash : ∀ c ∈ text, Kind.file.isSlash c = false)
    (hdrive : isDrive (withoutBreaks text) = false) (hhost : Host.readSpecial (withoutBreaks text) = .ok host) :
    readFile ('/' :: '/' :: (text ++ '/' :: Text.join ['/'] segments)) =
      .ok (⟨[], if host = .name "localhost".toList then .name [] else host, none⟩, .segments (shown segments)) := by
  have hinside : ∀ c ∈ text, (!Kind.file.isSlash c) = true := fun c hc => by rw [hslash c hc]; rfl
  have htake : (text ++ '/' :: Text.join ['/'] segments).takeWhile (!Kind.file.isSlash ·) = text := by
    rw [List.takeWhile_append_of_pos hinside]
    exact List.append_nil _
  have hdrop : (text ++ '/' :: Text.join ['/'] segments).dropWhile (!Kind.file.isSlash ·) =
      '/' :: Text.join ['/'] segments := by
    rw [List.dropWhile_append_of_pos hinside]
    rfl
  have hne : withoutBreaks text ≠ [] := by
    intro hempty
    rw [hempty, readSpecial_nil] at hhost
    contradiction
  have hafter (text : Text) : afterSlash? ('/' :: text) = some text := rfl
  simp only [readFile, hafter, htake, hdrop, hdrive, hne, hhost, if_false, Bool.false_eq_true]
  by_cases hlocal : host = .name "localhost".toList
  · simp only [hlocal, if_true, readTrail_slash_join hplain, Trail.segments, List.reverse_reverse,
      dropEmpty_nil_shown hnil]
    rfl
  · have hpath : dropSlash .file ('/' :: Text.join ['/'] segments) = Text.join ['/'] segments := rfl
    simp only [hlocal, if_false, hpath, readTrail_join hplain, Trail.segments, List.reverse_reverse,
      dropEmpty_shown hnil]
    exact if_neg hlocal

end Reading

/-! ### Reading the whole -/

/-- The first part of a cut goes to the separator, if there is one. -/
theorem cut_fst (separator : Char) (text : Text) : (cut separator text).1 = text.takeWhile (· != separator) := by
  rw [cut]
  split
  next hrest =>
    have hall := List.takeWhile_append_dropWhile (p := (· != separator)) (l := text)
    rw [hrest, List.append_nil] at hall
    exact hall.symm
  next => rfl

/-- Neither the query nor the fragment is part of the path. -/
theorem cut_cut_fst {front tail : Text} (hquery : '?' ∉ front) (hfragment : '#' ∉ front) (htail : IsTail tail) :
    (cut '?' (cut '#' (front ++ tail)).1).1 = front := by
  have hfront : ∀ c ∈ front, (c != '?' && c != '#') = true := fun c hc => by
    simp [ne_of_mem_of_not_mem hc hquery, ne_of_mem_of_not_mem hc hfragment]
  have hnone : tail.takeWhile (fun c => c != '?' && c != '#') = [] := by
    obtain _ | ⟨c, tail⟩ := tail
    · rfl
    · rcases htail c rfl with rfl | rfl <;> rfl
  rw [cut_fst, cut_fst, List.takeWhile_takeWhile]
  refine (List.takeWhile_append_of_pos (by simpa using hfront)).trans ?_
  simpa using hnone

/-- Around a text only what comes after it is trimmed, where it starts and ends with visible characters. -/
theorem trim_append {front : Text} (tail : Text) (hhead : ∃ c ∈ front.head?, 0x20 < c.toNat)
    (hlast : ∃ c ∈ front.getLast?, 0x20 < c.toNat) :
    ∃ rest, rest <+: tail ∧ trim (front ++ tail) = front ++ rest := by
  obtain ⟨first, hfirst, hvisible⟩ := hhead
  obtain ⟨last, hlast, hvisibleLast⟩ := hlast
  obtain ⟨back, rfl⟩ := List.head?_eq_some_iff.1 hfirst
  have hstart : (first :: back ++ tail).dropWhile (fun c => c.toNat ≤ 0x20) = first :: back ++ tail := by
    rw [List.cons_append, List.dropWhile_cons_of_neg (by simpa using hvisible)]
  have hend : (first :: back).reverse.dropWhile (fun c => c.toNat ≤ 0x20) = (first :: back).reverse := by
    obtain ⟨before, hbefore⟩ := List.getLast?_eq_some_iff.1 hlast
    rw [hbefore, List.reverse_append, List.reverse_singleton, List.singleton_append,
      List.dropWhile_cons_of_neg (by simpa using hvisibleLast)]
  refine ⟨tail.rdropWhile fun c => c.toNat ≤ 0x20, List.rdropWhile_prefix _ _, ?_⟩
  rw [trim, hstart, List.reverse_append, List.dropWhile_append, hend]
  split
  next hempty =>
    rw [List.rdropWhile, List.isEmpty_iff.1 hempty, List.reverse_reverse, List.reverse_nil, List.append_nil]
  next => rw [List.reverse_append, List.reverse_reverse, List.rdropWhile]

theorem IsTail.of_append {front back : Text} (h : IsTail (front ++ back)) : IsTail front :=
  fun c hc => h c (List.mem_head?_append_of_mem_head? hc)

/-- A file URL is read when its authority and its path are. -/
theorem exists_parse {text front tail : Text} {authority : Authority} {path : Path}
    (htrim : trim text = 'f' :: 'i' :: 'l' :: 'e' :: ':' :: (front ++ tail)) (hquery : '?' ∉ front)
    (hfragment : '#' ∉ front) (htail : IsTail tail) (hread : readFile front = .ok (authority, path)) :
    ∃ url, parse text = .ok url ∧ url.authority = some authority ∧ url.path = path := by
  have hscheme (rest : Text) : readScheme? (withoutBreaks ('f' :: 'i' :: 'l' :: 'e' :: ':' :: rest)) =
    some "file".toList := rfl
  have hkind : Kind.ofScheme "file".toList = .file := by decide
  have hrest (rest : Text) : (('f' :: 'i' :: 'l' :: 'e' :: ':' :: rest).dropWhile (· != ':')).drop 1 = rest := rfl
  simp only [parse, htrim, hscheme, hrest, hkind, cut_cut_fst hquery hfragment htail, readBody, hread]
  exact ⟨_, rfl, rfl, rfl⟩

/-- What a path of plain segments is written with is visible and does not end the path. -/
theorem visible_of_mem_join (hplain : ∀ segment ∈ segments, IsPlain segment) :
    ∀ c ∈ '/' :: Text.join ['/'] segments, 0x20 < c.toNat ∧ c ≠ '?' ∧ c ≠ '#' := by
  have hslash : 0x20 < '/'.toNat ∧ '/' ≠ '?' ∧ '/' ≠ '#' := by decide
  refine List.forall_mem_cons.2 ⟨hslash, forall_mem_join (List.forall_mem_singleton.2 hslash) ?_⟩
  intro segment hsegment c hc
  have hkept := (hplain segment hsegment).kept c hc
  exact ⟨hkept.visible, hkept.ne_marks.2.2⟩

/-- Of a file URL only the end of what comes after its path is trimmed. -/
theorem trim_fileUri (hplain : ∀ segment ∈ segments, IsPlain segment) (host tail : Text) :
    ∃ rest, rest <+: tail ∧ trim (fileUri host segments tail) =
      'f' :: 'i' :: 'l' :: 'e' :: ':' :: ('/' :: '/' :: (host ++ '/' :: Text.join ['/'] segments) ++ rest) := by
  let below : Text := '/' :: Text.join ['/'] segments
  let front : Text := ['f', 'i', 'l', 'e', ':', '/', '/'] ++ (host ++ below)
  have hne : below ≠ [] := List.cons_ne_nil _ _
  have hhead : ∃ c ∈ front.head?, 0x20 < c.toNat := ⟨'f', rfl, by decide⟩
  have hlast : ∃ c ∈ front.getLast?, 0x20 < c.toNat := by
    refine ⟨below.getLast hne, ?_, (visible_of_mem_join hplain _ (List.getLast_mem hne)).1⟩
    rw [List.getLast?_append, List.getLast?_append, List.getLast?_eq_some_getLast hne,
      Option.some_or, Option.some_or]
    exact Option.mem_some_self _
  have htext : fileUri host segments tail = front ++ tail := by
    rw [List.append_assoc, List.append_assoc]
    rfl
  obtain ⟨rest, hrest, htrim⟩ := trim_append tail hhead hlast
  exact ⟨rest, hrest, by rw [htext, htrim]; rfl⟩

/-- **A file URL is read back**, once its authority and its path are. What comes after the path does not matter. -/
theorem exists_parse_fileUri {host tail : Text} {authority : Authority} {path : Path}
    (hplain : ∀ segment ∈ segments, IsPlain segment) (htail : IsTail tail) (hhost : ∀ c ∈ host, endsHost c = false)
    (hread : readFile ('/' :: '/' :: (host ++ '/' :: Text.join ['/'] segments)) = .ok (authority, path)) :
    ∃ url, parse (fileUri host segments tail) = .ok url ∧ url.authority = some authority ∧ url.path = path := by
  have hslash : '/' ≠ '?' ∧ '/' ≠ '#' := by decide
  have hmarks : ∀ c ∈ '/' :: '/' :: (host ++ '/' :: Text.join ['/'] segments), c ≠ '?' ∧ c ≠ '#' := by
    refine List.forall_mem_cons.2 ⟨hslash, List.forall_mem_cons.2 ⟨hslash, ?_⟩⟩
    exact List.forall_mem_append.2 ⟨fun c hc => (endsHost_eq_false_iff.1 (hhost c hc)).2.2,
      fun c hc => (visible_of_mem_join hplain c hc).2⟩
  obtain ⟨rest, ⟨more, rfl⟩, htrim⟩ := trim_fileUri hplain host tail
  exact exists_parse htrim (fun hc => (hmarks _ hc).1 rfl) (fun hc => (hmarks _ hc).2 rfl)
    htail.of_append hread

/-! ### Extensions -/

theorem isLocal_iff {url : Url} {authority : Authority} (h : url.authority = some authority) :
    url.isLocal = true ↔ authority.host = .name [] ∨ authority.host = .name "localhost".toList := by
  rw [isLocal, h, Bool.or_eq_true, beq_iff_eq, beq_iff_eq]

/-- A URL with a path of segments has the extension of that path, on this machine. -/
theorem hasExtension_of_path {url : Url} (hpath : url.path = .segments (shown segments)) (extension : Text) :
    url.hasExtension extension =
      (url.isLocal && FilePath.hasExtension (segmentsPath (shown segments)) extension) := by
  obtain ⟨segment, rest, hshown⟩ := exists_shown_eq_cons segments
  rw [hshown] at hpath
  rw [hasExtension, filePath?, hpath, hshown]
  cases url.isLocal <;> rfl

/-- A URL that names another machine, or no path of segments, has no extension. -/
theorem hasExtension_eq_false {url : Url} (h : NamesOtherHost url ∨ ¬ IsHierarchical url) (extension : Text) :
    url.hasExtension extension = false := by
  have hnone : url.filePath? = none := by
    rw [filePath?]
    split
    next => rfl
    next => rfl
    next segment rest hpath =>
      obtain ⟨authority, hauthority, hempty, hlocal⟩ := h.resolve_right (not_not_intro ⟨segment, rest, hpath⟩)
      exact if_neg fun h => ((isLocal_iff hauthority).1 h).elim hempty hlocal
  rw [hasExtension, hnone]

/-- **A file is a source file for its URL if and only if it is one for its path.** This holds whatever bytes its names
are, however they are escaped, and with any query and fragment. A host changes nothing if it is `localhost`, and a
URL that names another one, or that has no path of segments, is no source file. Only a drive letter whose colon is
not escaped takes a host away when a URL is read; an escaped name never does. -/
theorem hasExtension_fileUri {path : FilePath} {names : List Bytes} {segments : List Text} {tail : Text}
    (hpath : FilePath.components path = .root :: names.map .name) (hsegments : List.Forall₂ Escapes segments names)
    (htail : IsTail tail) (extension : Text) :
    (∃ url, parse (fileUri [] segments tail) = .ok url ∧
      (url.hasExtension extension = true ↔ FilePath.hasExtension path extension = true)) ∧
    (∀ text host, (∀ c ∈ text, endsHost c = false) → isDrive (withoutBreaks text) = false →
      Host.readSpecial (withoutBreaks text) = .ok host →
      ∃ url, parse (fileUri text segments tail) = .ok url ∧
        (url.hasExtension extension = true ↔
          host = .name "localhost".toList ∧ FilePath.hasExtension path extension = true)) ∧
    ∀ url : Url, NamesOtherHost url ∨ ¬ IsHierarchical url → url.hasExtension extension = false := by
  have hnames : ∀ name ∈ names, FilePath.isName name = true := fun name hname =>
    FilePath.isName_of_mem_components (hpath ▸ List.mem_cons_of_mem _ (List.mem_map_of_mem hname))
  obtain ⟨hplain, hnil⟩ := isPlain_of_forall₂ hsegments hnames
  have hsame : FilePath.hasExtension (segmentsPath (shown segments)) extension =
      FilePath.hasExtension path extension :=
    FilePath.hasExtension_of_components_eq ((components_segmentsPath hsegments hnames).trans hpath.symm) extension
  refine ⟨?_, fun text host hinside hdrive hhost => ?_, fun url h => hasExtension_eq_false h extension⟩
  · obtain ⟨url, hparse, hauthority, hurl⟩ := exists_parse_fileUri hplain htail (List.forall_mem_nil _)
      (readFile_noHost hplain hnil)
    have hlocal : url.isLocal = true := (isLocal_iff hauthority).2 (.inl rfl)
    exact ⟨url, hparse, by rw [hasExtension_of_path hurl, hlocal, hsame, Bool.true_and]⟩
  · have hslash : ∀ c ∈ text, Kind.file.isSlash c = false := fun c hc => by
      obtain ⟨hslash, hback, -⟩ := endsHost_eq_false_iff.1 (hinside c hc)
      simp [Kind.isSlash, hslash, hback]
    obtain ⟨url, hparse, hauthority, hurl⟩ := exists_parse_fileUri hplain htail hinside
      (readFile_host hplain hnil hslash hdrive hhost)
    refine ⟨url, hparse, ?_⟩
    have hlocal : url.isLocal = true ↔ host = .name "localhost".toList := by
      have hempty : host ≠ .name [] := fun heq => readSpecial_ne_empty _ (hhost.trans (congrArg _ heq))
      rw [isLocal_iff hauthority]
      split
      next hname => exact iff_of_true (.inl rfl) hname
      next => exact or_iff_right hempty
    rw [hasExtension_of_path hurl, hsame, Bool.and_eq_true, hlocal]

/-- A name like a drive letter, one with marks that have a meaning in a URL, and one that is not UTF-8. -/
theorem hasExtension_fileUri_marks :
    let names : List Bytes :=
      [Bytes.ofText "C:".toList, Bytes.ofText "50%#?".toList, 0xFF :: Bytes.ofText ".b.CS".toList]
    let path : FilePath := names.flatMap (FilePath.slash :: ·)
    let extension : Text := "cs".toList
    (FilePath.components path = .root :: names.map .name ∧ FilePath.hasExtension path extension = true) ∧
      (∃ url, parse "file:///C%3A/50%25%23%3F/%FF.b.CS?v#top".toList = .ok url ∧
        url.hasExtension extension = true) ∧
      (∃ url, parse "file://[::1]/C%3A/50%25%23%3F/%FF.b.CS?v#top".toList = .ok url ∧
        url.hasExtension extension = false) ∧
      hasExtension ⟨"untitled".toList, none, .plain "a.cs".toList, none, none⟩ extension = false := by
  intro names path extension
  let host : Host := .address6 [0, 0, 0, 0, 0, 0, 0, 1]
  have hpath : FilePath.components path = .root :: names.map .name := by decide
  have hextension : FilePath.hasExtension path extension = true := by decide
  have hsegments : List.Forall₂ Escapes (names.map escapeName) names :=
    List.forall₂_map_left_iff.2 (List.forall₂_same.2 fun name _ => escapes_escapeName name)
  have htail : IsTail "?v#top".toList := fun c hc => .inl (Option.some.inj hc).symm
  have hinside : ∀ c ∈ "[::1]".toList, endsHost c = false := by simp [endsHost]
  have hhost : Host.readSpecial (withoutBreaks "[::1]".toList) = .ok host := rfl
  obtain ⟨hhere, hthere, hnowhere⟩ := hasExtension_fileUri hpath hsegments htail extension
  refine ⟨⟨hpath, hextension⟩, ?_, ?_, hnowhere _ (.inr ?_)⟩
  · obtain ⟨url, hparse, hurl⟩ := hhere
    exact ⟨url, hparse, hurl.2 hextension⟩
  · obtain ⟨url, hparse, hurl⟩ := hthere "[::1]".toList host hinside (by decide) hhost
    exact ⟨url, hparse, Bool.eq_false_iff.2 fun h => nomatch (hurl.1 h).1⟩
  · rintro ⟨segment, rest, ⟨⟩⟩

end UsingAdvisor.Url
