import UsingAdvisor.Proofs.Repetition
import UsingAdvisor.Settings

/-!
# Settings after several sections

A client may give sections of settings again and again. A section that is refused, or null, leaves no trace
(`ofSections_eq`), so the settings are made of the accepted ones alone. Of these, what is excluded and the
number of reads are kept until another section gives them, while the two switches are set by every section
anew. Main statement: `ofSections_settled`.
-/

namespace UsingAdvisor

/-- The number of reads that a section gives. Zero is none. -/
def SettingsSection.reads? (given : SettingsSection) : Option Nat :=
  given.concurrentReads.filter (0 < ·)

namespace Settings

/-- The settings after sections in their written form, one on top of another. -/
def ofSections (sections : List Json) : Settings :=
  sections.foldl overlay .default

/-! ### One section -/

/-- A section is accepted, or it leaves the settings as they are. -/
theorem overlay_eq (settings : Settings) (given : Json) :
    settings.overlay given = ((SettingsSection.read? given).map settings.accept).getD settings := by
  cases given <;> rfl

/-- Only null is let pass without being read. -/
theorem overlay?_eq_none_iff {settings : Settings} {given : Json} :
    settings.overlay? given = none ↔ given ≠ .null ∧ SettingsSection.read? given = none := by
  cases given <;> simp [overlay?]

/-- The number of reads stays where a section gives none. -/
theorem concurrentReads_accept (settings : Settings) (given : SettingsSection) :
    (settings.accept given).scan.concurrentReads = given.reads?.getD settings.scan.concurrentReads := by
  rw [accept, SettingsSection.reads?]
  cases given.concurrentReads with
  | none => rfl
  | some reads => cases reads <;> rfl

/-! ### Several sections -/

/-- **Sections that are not read leave no trace.** -/
theorem ofSections_eq (sections : List Json) :
    ofSections sections = (sections.filterMap SettingsSection.read?).foldl accept .default := by
  rw [ofSections, List.foldl_filterMap]
  congr 1
  funext settings given
  rw [overlay_eq]
  cases SettingsSection.read? given <;> rfl

/-- What every section sets is what the last one says. -/
theorem foldl_accept_eq_getLast? {β : Type} (part : Settings → β) (value? : SettingsSection → Option β)
    (h : ∀ (settings : Settings) given, part (settings.accept given) = (value? given).getD (part .default))
    (accepted : List SettingsSection) :
    part (accepted.foldl accept .default) = (accepted.getLast?.bind value?).getD (part .default) := by
  rw [foldl_eq_getLast? part (fun given => some ((value? given).getD (part .default))) h,
    List.filterMap_eq_map', List.getLast?_map]
  cases accepted.getLast? <;> rfl

/-- The number of reads is positive, whatever the sections say. -/
theorem concurrentReads_pos (accepted : List SettingsSection) :
    0 < (accepted.foldl accept .default).scan.concurrentReads := by
  have hdefault : 0 < Settings.default.scan.concurrentReads := by decide
  refine List.foldlRecOn (motive := fun settings : Settings => 0 < settings.scan.concurrentReads) accepted
    accept hdefault fun settings hsettings given _ => ?_
  rw [concurrentReads_accept, SettingsSection.reads?]
  cases hreads : given.concurrentReads.filter (0 < ·) with
  | none => exact hsettings
  | some reads => simpa using (Option.filter_eq_some_iff.1 hreads).2

/-- No section gives an extension. -/
theorem extension_foldl_accept (accepted : List SettingsSection) :
    (accepted.foldl accept .default).scan.extension = ScanOptions.default.extension :=
  List.foldlRecOn (motive := fun settings : Settings => settings.scan.extension = ScanOptions.default.extension)
    accepted accept rfl fun _ hsettings _ _ => hsettings

/-- **Settings after any sections.** A section is refused if it is not null and cannot be read, and then it
changes nothing, as null does; the settings are the same if all of these are left out. What is excluded is what
the last section says that says anything about it, and so it is with the number of reads, where zero says
nothing; hence at least one file is read at a time. The two switches are up to the last section alone: without a
word from it saving rebuilds nothing, and completions carry their edits. The extension stays. -/
theorem ofSections_settled (sections : List Json) :
    let settings := ofSections sections
    let accepted := sections.filterMap SettingsSection.read?
    (∀ before : Settings, before.overlay? .null = some before ∧
      ∀ given, (before.overlay? given = none ↔ given ≠ .null ∧ SettingsSection.read? given = none) ∧
        (SettingsSection.read? given = none → before.overlay given = before)) ∧
    settings = ofSections (sections.filter fun given => (SettingsSection.read? given).isSome) ∧
    settings.scan.excluded =
      (accepted.filterMap SettingsSection.excluded).getLast?.getD ScanOptions.default.excluded ∧
    settings.scan.concurrentReads =
      (accepted.filterMap SettingsSection.reads?).getLast?.getD ScanOptions.default.concurrentReads ∧
    1 ≤ settings.scan.concurrentReads ∧
    settings.reindexOnSave = (accepted.getLast?.bind SettingsSection.reindexOnSave).getD false ∧
    settings.addUsing = (accepted.getLast?.bind SettingsSection.addUsing).getD true ∧
    settings.scan.extension = ScanOptions.default.extension := by
  intro settings accepted
  have hsettings : settings = accepted.foldl accept .default := ofSections_eq sections
  rw [hsettings]
  refine ⟨fun before => ⟨rfl, fun given => ⟨overlay?_eq_none_iff, fun hnone => ?_⟩⟩, ?_, ?_, ?_,
    concurrentReads_pos accepted, ?_, ?_, extension_foldl_accept accepted⟩
  · rw [overlay_eq, hnone]
    rfl
  · have hread (given : Json) : (if (SettingsSection.read? given).isSome then SettingsSection.read? given
        else none) = SettingsSection.read? given := by
      cases SettingsSection.read? given <;> rfl
    rw [ofSections_eq, List.filterMap_filter]
    simp only [hread, accepted]
  · exact foldl_eq_getLast? (fun settings : Settings => settings.scan.excluded) SettingsSection.excluded
      (fun _ _ => rfl) _ _
  · exact foldl_eq_getLast? (fun settings : Settings => settings.scan.concurrentReads)
      SettingsSection.reads? concurrentReads_accept _ _
  · exact foldl_accept_eq_getLast? reindexOnSave SettingsSection.reindexOnSave (fun _ _ => rfl) _
  · exact foldl_accept_eq_getLast? addUsing SettingsSection.addUsing (fun _ _ => rfl) _

/-- A section with one value that cannot be read is refused with all its values. -/
example :
    ofSections [.record [("exclude", .array [.literal "bin"]), ("reindexOnSave", .bool true)],
      .record [("exclude", .array []), ("completion", .null)]] =
    { Settings.default with
      scan := { ScanOptions.default with excluded := ["bin".toList] }
      reindexOnSave := true } := by
  decide +kernel

end Settings

end UsingAdvisor
