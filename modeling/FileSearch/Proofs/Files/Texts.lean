import FileSearch.Proofs.Log.Writing

/-!
# Texts that stay

What a program changes in the files is told by the places whose texts it owns. All other texts
stay as they are and none is added to them, and folders stay folders. A text that is too short to
be told from an empty database may be taken for one.
-/

set_option autoImplicit false

namespace FileSearch.Files

structure Keeps (own : Place → Prop) (files later : Files) : Prop where
  folders : ∀ place, files.entry? place = some .folder → later.entry? place = some .folder
  texts : ∀ place content, ¬ own place → History.Link.signatureLength ≤ content.utf8ByteSize →
    files.entry? place = some (.text content) → later.entry? place = some (.text content)
  noMore : ∀ place content, ¬ own place → later.entry? place = some (.text content) →
    files.entry? place = some (.text content)

section
variable {own own' : Place → Prop} {files later last : Files} {place : Place} {path : Path}
  {content : String}

theorem keeps_refl (own : Place → Prop) (files : Files) : Keeps own files files :=
  ⟨fun _ h => h, fun _ _ _ _ h => h, fun _ _ _ h => h⟩

theorem keeps_trans (h : Keeps own files later) (h' : Keeps own later last) :
    Keeps own files last where
  folders place hfolder := h'.folders place (h.folders place hfolder)
  texts place content hown hlong htext :=
    h'.texts place content hown hlong (h.texts place content hown hlong htext)
  noMore place content hown htext :=
    h.noMore place content hown (h'.noMore place content hown htext)

theorem keeps_mono (hown : ∀ place, own place → own' place) (h : Keeps own files later) :
    Keeps own' files later where
  folders := h.folders
  texts place content hother := h.texts place content (mt (hown place) hother)
  noMore place content hother := h.noMore place content (mt (hown place) hother)

theorem keeps_more_folders (h : files.MoreFolders later) : Keeps own files later where
  folders _ hfolder := more_folders_kept h hfolder
  texts _ _ _ _ htext := more_folders_kept h htext
  noMore _ _ _ htext := by
    rw [← more_folders_same h (by simp [htext]), htext]

theorem keeps_place (hfolder : files.entry? place ≠ some .folder)
    (hothers : ∀ other, other ≠ place → later.entry? other = files.entry? other)
    (htexts : ∀ content, ¬ own place →
      History.Link.signatureLength ≤ content.utf8ByteSize →
      files.entry? place = some (.text content) → later.entry? place = some (.text content))
    (hnoMore : ∀ content, ¬ own place → later.entry? place = some (.text content) →
      files.entry? place = some (.text content)) : Keeps own files later := by
  constructor
  case folders =>
    intro other hother
    rw [hothers other (by rintro rfl; exact hfolder hother), hother]
  case texts =>
    intro other content hown hlong htext
    by_cases hother : other = place
    · subst hother
      exact htexts content hown hlong htext
    · rw [hothers other hother, htext]
  case noMore =>
    intro other content hown htext
    by_cases hother : other = place
    · subst hother
      exact hnoMore content hown htext
    · rw [← hothers other hother, htext]

theorem keeps_own (hown : own place) (hfolder : files.entry? place ≠ some .folder)
    (hothers : ∀ other, other ≠ place → later.entry? other = files.entry? other) :
    Keeps own files later :=
  keeps_place hfolder hothers (fun _ hother => absurd hown hother)
    fun _ hother => absurd hown hother

/-- A database is written where there is one, where nothing is, and over a short text. -/
theorem keeps_database (hfolder : files.entry? place ≠ some .folder)
    (hshort : ∀ content, files.entry? place = some (.text content) →
      content.utf8ByteSize < History.Link.signatureLength) (db : History.Database) :
    Keeps own files (files.set place (.database db)) := by
  apply keeps_place hfolder (fun other hother => entry_set_ne files _ hother)
  · intro content _ hlong htext
    have hless := hshort content htext
    omega
  · intro content _ htext
    rw [entry_set (not_folder hfolder)] at htext
    cases htext

theorem read_text_iff :
    files.readText path = .ok content ↔
      ∃ place, files.locate path = .ok place ∧ files.entry? place = some (.text content) := by
  rw [← find_ok_iff, readText]
  split
  · next found hfound => simp [hfound]
  · next hfound => simp [hfound]
  · next hfound => simp [hfound]
  · next hfound => simp [hfound]

/-- A text that is kept is read at its path. -/
theorem keeps_read (h : Keeps own files later)
    (hown : ∀ place, files.locate path = .ok place → ¬ own place)
    (hlong : History.Link.signatureLength ≤ content.utf8ByteSize)
    (hread : files.readText path = .ok content) : later.readText path = .ok content := by
  obtain ⟨place, hplace, htext⟩ := read_text_iff.1 hread
  exact read_text_iff.2 ⟨place, locate_kept h.folders hplace,
    h.texts place content (hown place hplace) hlong htext⟩

end

end FileSearch.Files

namespace FileSearch.Log

def IsLog (place : Files.Place) : Prop := ∃ above last, place = above ++ [last ++ ending]

section
variable {level action folder : String} {toFile : Bool} {time : Calendar} {files later : Files}
  {setup : Setup} {content : String} {place : Files.Place}

theorem appended_keeps (hplace : files.locate (filePath action folder time) = .ok place)
    (h : files.Appended content place later) : Files.Keeps IsLog files later :=
  Files.keeps_own (file_place hplace) h.noFolder h.others

theorem configure_keeps
    (h : configure level action toFile folder time files = .ok (setup, later)) :
    Files.Keeps IsLog files later := by
  rcases (configure_ok h).2 with ⟨-, rfl⟩ | ⟨-, made, place, hmade, hplace, happended⟩
  · exact Files.keeps_refl _ _
  · exact Files.keeps_trans (Files.keeps_more_folders hmade) (appended_keeps hplace happended)

theorem save_keeps {before : Files}
    (h : configure level action toFile folder time before = .ok (setup, later)) (shown : Calendar)
    (records : List Record) (files : Files) :
    Files.Keeps IsLog files (setup.save shown records files) := by
  rcases configure_file h with hnone | hsome
  · rw [Setup.save, hnone]
    exact Files.keeps_refl _ _
  · simp only [Setup.save, hsome]
    split
    · next written hwritten =>
      obtain ⟨place, hplace, happended⟩ := Files.append_text_ok hwritten
      exact appended_keeps hplace happended
    · exact Files.keeps_refl _ _

end

end FileSearch.Log
