import FileSearch.Log.Setup
import FileSearch.Proofs.Files.Folders

/-!
# What logging writes

A log file is made at the start of a run and filled at its end. The folders above it are
made as well, and nothing else is touched: no folder or database, and no text but that of
the log, whose name ends as all names of logs do.
-/

set_option autoImplicit false

namespace FileSearch

namespace Files

section
variable {files later : Files} {path : Path} {content : String}

def appended (content : String) : Option Entry → Entry
  | some (.text old) => .text (old ++ content)
  | some (.database db) => if db = {} then .text content else .database db
  | _ => .text content

structure Appended (files : Files) (content : String) (place : Place) (later : Files) : Prop where
  noFolder : files.entry? place ≠ some .folder
  here : later.entry? place = some (appended content (files.entry? place))
  others : ∀ other, other ≠ place → later.entry? other = files.entry? other

theorem appended_set {place : Place} (hfolder : files.entry? place ≠ some .folder) :
    files.Appended content place (files.set place (appended content (files.entry? place))) :=
  ⟨hfolder, entry_set (not_folder hfolder), fun _ hother => entry_set_ne files _ hother⟩

theorem append_text_ok (h : files.appendText path content = .ok later) :
    ∃ place, files.locate path = .ok place ∧ files.Appended content place later := by
  cases hlocate : files.locate path with
  | error fault =>
    rw [appendText, find, hlocate] at h
    simp [editText, hlocate] at h
  | ok place =>
    refine ⟨place, rfl, ?_⟩
    have hset (hfolder : files.entry? place ≠ some .folder)
        (hlater : files.set place (appended content (files.entry? place)) = later) :
        files.Appended content place later := hlater ▸ appended_set hfolder
    rw [appendText, find, hlocate] at h
    cases hentry : files.entry? place with
    | none =>
      refine hset (by simp [hentry]) ?_
      simpa [hentry, editText, hlocate, appended] using h
    | some entry =>
      cases entry with
      | folder => simp [hentry, editText, hlocate] at h
      | text old =>
        refine hset (by simp [hentry]) ?_
        simpa [hentry, editText, hlocate, appended] using h
      | database db =>
        simp only [hentry, Option.elim_some, editText, hlocate] at h
        by_cases hempty : db = {}
        · rw [if_pos hempty] at h
          refine hset (by simp [hentry]) ?_
          simpa [hentry, appended, hempty] using h
        · rw [if_neg hempty] at h
          cases h
          exact ⟨by simp [hentry], by simp [hentry, appended, hempty], fun _ _ => rfl⟩

def Spares (files later : Files) : Prop :=
  ∀ place entry, files.entry? place = some entry →
    (entry = .folder ∨ ∃ db, entry = .database db ∧ db ≠ {}) → later.entry? place = some entry

theorem spares_refl (files : Files) : files.Spares files := fun _ _ hentry _ => hentry

theorem spares_trans {last : Files} (h : files.Spares later) (h' : later.Spares last) :
    files.Spares last :=
  fun place entry hentry hkind => h' place entry (h place entry hentry hkind) hkind

theorem spares_more_folders (h : files.MoreFolders later) : files.Spares later :=
  fun _ _ hentry _ => more_folders_kept h hentry

theorem spares_appended {place : Place} (h : files.Appended content place later) :
    files.Spares later := by
  intro other entry hentry hkind
  by_cases hother : other = place
  · subst hother
    rcases hkind with rfl | ⟨db, rfl, hdb⟩
    · exact absurd hentry h.noFolder
    · rw [h.here, hentry, appended, if_neg hdb]
  · rw [h.others other hother, hentry]

theorem find_spared {entry : Entry} (h : files.Spares later)
    (hkind : entry = .folder ∨ ∃ db, entry = .database db ∧ db ≠ {})
    (hfind : files.find path = .ok entry) : later.find path = .ok entry :=
  find_kept (fun place hplace => h place _ hplace (.inl rfl))
    (fun place hplace => h place _ hplace hkind) hfind

end

theorem walk_last {files : Files} {start place : Place} {segments : List String}
    {segment : String} (hup : segment ≠ "..")
    (h : files.walk start (segments ++ [segment]) = .ok place) :
    ∃ above, place = above ++ [segment] := by
  induction segments generalizing start with
  | nil =>
    rw [List.nil_append, walk] at h
    split at h
    · cases h
    · split at h
      · cases h
      · simp only [walk] at h
        exact ⟨start, (Except.ok.inj h).symm⟩
    · cases h
  | cons first segments ih =>
    rw [List.cons_append, walk] at h
    split at h
    · cases h
    · split at h
      · cases h
      · exact ih h
    · cases h

theorem locate_last {files : Files} {path : Path} {place : Place} {segments : List String}
    {segment : String} (hpath : path.segments = segments ++ [segment]) (hup : segment ≠ "..")
    (h : files.locate path = .ok place) : ∃ above, place = above ++ [segment] := by
  rw [locate, hpath] at h
  split at h
  · cases h
  · split at h
    · cases h
    · exact walk_last hup h

end Files

namespace Path

/-- The last piece of a text has what the text ends with, if no slash is there. -/
theorem cut_last {ending : List Char} (h : '/' ∉ ending) (s : List Char) :
    ∃ runs last, cut (s ++ ending) = runs ++ [last ++ ending] := by
  induction s with
  | nil =>
    refine ⟨[], [], ?_⟩
    rw [List.nil_append, List.nil_append]
    induction ending with
    | nil => rfl
    | cons c ending ih =>
      have hc : c ≠ '/' := fun hc => h (hc ▸ List.mem_cons_self)
      rw [cut, if_neg hc, ih fun hmem => h (List.mem_cons_of_mem _ hmem)]
  | cons c s ih =>
    obtain ⟨runs, last, hcut⟩ := ih
    rw [List.cons_append, cut, hcut]
    by_cases hc : c = '/'
    · exact ⟨[] :: runs, last, by rw [if_pos hc]; rfl⟩
    · rw [if_neg hc]
      cases runs with
      | nil => exact ⟨[], c :: last, rfl⟩
      | cons run runs => exact ⟨(c :: run) :: runs, last, rfl⟩

theorem segments_last {ending : String} (h : '/' ∉ ending.toList)
    (hlong : 1 < ending.toList.length) (name : String) :
    ∃ segments last, (ofString (name ++ ending)).segments = segments ++ [last ++ ending] := by
  obtain ⟨runs, last, hcut⟩ := cut_last h name.toList
  have hstep : isStep (last ++ ending.toList) = true := by
    have hlength : 1 < (last ++ ending.toList).length := by
      rw [List.length_append]
      omega
    rw [isStep, Bool.and_eq_true]
    constructor
    · cases hnil : last ++ ending.toList with
      | nil => simp [hnil] at hlength
      | cons c s => rfl
    · rw [bne_iff_ne]
      intro hdot
      simp [hdot] at hlength
  refine ⟨(runs.filter isStep).map String.ofList, String.ofList last, ?_⟩
  rw [ofString, String.toList_append, hcut, List.filter_append, List.map_append,
    List.filter_cons_of_pos hstep]
  simp

theorem child_segments (p : Path) (name : String) :
    ∃ segments, (p.child name).segments = segments ++ (ofString name).segments := by
  rw [child, append]
  split
  · exact ⟨p.segments, rfl⟩
  · exact ⟨[], rfl⟩

end Path

namespace Log

def ending : String := ".log"

theorem ending_back (name : String) : (name ++ ending).toList.getLast? = some 'g' := by
  rw [String.toList_append, List.getLast?_append]
  rfl

theorem file_path_last (action folder : String) (time : Calendar) :
    ∃ segments last, (filePath action folder time).segments = segments ++ [last ++ ending] := by
  obtain ⟨segments, last, hlast⟩ := Path.segments_last (show '/' ∉ ending.toList by decide)
    (by decide) (action ++ "_" ++ time.logFileStamp)
  obtain ⟨above, habove⟩ := Path.child_segments (actionFolder action folder)
    (action ++ "_" ++ time.logFileStamp ++ ending)
  rw [hlast, ← List.append_assoc] at habove
  exact ⟨above ++ segments, last, habove⟩

structure Logged (files later : Files) : Prop where
  spares : files.Spares later
  texts : ∀ place content, (∀ above last, place ≠ above ++ [last ++ ending]) →
    later.entry? place = some (.text content) → files.entry? place = some (.text content)

theorem logged_refl (files : Files) : Logged files files :=
  ⟨Files.spares_refl files, fun _ _ _ htext => htext⟩

theorem logged_trans {files later last : Files} (h : Logged files later) (h' : Logged later last) :
    Logged files last :=
  ⟨Files.spares_trans h.spares h'.spares, fun place content hname htext =>
    h.texts place content hname (h'.texts place content hname htext)⟩

theorem logged_more_folders {files later : Files} (h : files.MoreFolders later) :
    Logged files later := by
  refine ⟨Files.spares_more_folders h, fun place content _ htext => ?_⟩
  rw [← Files.more_folders_same h (by simp [htext]), htext]

/-- The log file of a run has the name of a log, wherever its folder is. -/
theorem file_place {action folder : String} {time : Calendar} {files : Files} {place : Files.Place}
    (hplace : files.locate (filePath action folder time) = .ok place) :
    ∃ above last, place = above ++ [last ++ ending] := by
  obtain ⟨segments, last, hlast⟩ := file_path_last action folder time
  have hup : last ++ ending ≠ ".." := by
    intro hup
    have hback := ending_back last
    rw [hup] at hback
    exact absurd hback (by decide)
  obtain ⟨above, habove⟩ := Files.locate_last hlast hup hplace
  exact ⟨above, last, habove⟩

theorem logged_appended {action folder : String} {time : Calendar} {files later : Files}
    {content : String} {place : Files.Place}
    (hplace : files.locate (filePath action folder time) = .ok place)
    (h : files.Appended content place later) : Logged files later := by
  refine ⟨Files.spares_appended h, fun other text hname htext => ?_⟩
  obtain ⟨above, last, rfl⟩ := file_place hplace
  rw [← h.others other (hname above last), htext]

section
variable {level action folder : String} {toFile : Bool} {time : Calendar} {files later : Files}
  {setup : Setup}

/-- The console shows what the level names, and the log file of a run is made with its folder,
unless there is to be none. -/
theorem configure_ok
    (h : configure level action toFile folder time files = .ok (setup, later)) :
    setup.console = levelNamed level ∧
      (setup.file = none ∧ later = files ∨
        setup.file = some (filePath action folder time) ∧ ∃ made place, files.MoreFolders made ∧
          made.locate (filePath action folder time) = .ok place ∧
          made.Appended "" place later) := by
  rw [configure] at h
  split at h
  · cases hfolders : files.ensureFolders (actionFolder action folder) with
    | error refusal =>
      rw [hfolders] at h
      cases h
    | ok made =>
      cases hfile : made.appendText (filePath action folder time) "" with
      | error refusal =>
        simp only [hfolders, bind, Except.bind, hfile, reduceCtorEq] at h
      | ok filed =>
        simp only [hfolders, bind, Except.bind, hfile] at h
        cases h
        obtain ⟨place, hplace, happended⟩ := Files.append_text_ok hfile
        have hmade := (Files.ensure_folders_ok hfolders).1
        exact ⟨rfl, .inr ⟨rfl, made, place, hmade, hplace, happended⟩⟩
  · cases h
    exact ⟨rfl, .inl ⟨rfl, rfl⟩⟩

theorem configure_logged
    (h : configure level action toFile folder time files = .ok (setup, later)) :
    Logged files later := by
  rcases (configure_ok h).2 with ⟨-, rfl⟩ | ⟨-, made, place, hmade, hplace, happended⟩
  · exact logged_refl later
  · exact logged_trans (logged_more_folders hmade) (logged_appended hplace happended)

theorem configure_file
    (h : configure level action toFile folder time files = .ok (setup, later)) :
    setup.file = none ∨ setup.file = some (filePath action folder time) := by
  rcases (configure_ok h).2 with ⟨hnone, -⟩ | ⟨hsome, -⟩
  · exact .inl hnone
  · exact .inr hsome

theorem save_logged {before : Files}
    (h : configure level action toFile folder time before = .ok (setup, later)) (shown : Calendar)
    (records : List Record) (files : Files) : Logged files (setup.save shown records files) := by
  rcases configure_file h with hnone | hsome
  · rw [Setup.save, hnone]
    exact logged_refl files
  · simp only [Setup.save, hsome]
    split
    · next written hwritten =>
      obtain ⟨place, hplace, happended⟩ := Files.append_text_ok hwritten
      exact logged_appended hplace happended
    · exact logged_refl files

end

end Log

end FileSearch
