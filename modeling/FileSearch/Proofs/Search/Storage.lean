import FileSearch.Proofs.History.Durable
import FileSearch.Proofs.Log.Writing
import FileSearch.Search.Setup

/-!
# The history of a configuration

What a run sees of the history is what its database file holds when the run starts, and it
goes on to hold it whatever is logged. So all that a run can do to the history of later runs
it does to that file.
-/

set_option autoImplicit false

namespace FileSearch.Search

open History

section
variable {config : Config} {s t : Session} {P : Session → Prop}

def remembered (config : Config) (now : Int) (files : Files) : Except Failure (List Row) :=
  (Action.perform (do let _ ← openStorage config; History.rows) { files, now }).1

theorem open_store_ok (h : openStore.perform s = (.ok (), t)) :
    ∃ notes, t = (s.withNotes notes).attach := by
  obtain ⟨files, now, notes, shared, attached⟩ := s
  rcases shared with _ | ⟨path, _ | link⟩
  · cases h
  · cases h
  · rw [open_store_perform rfl] at h
    exact ⟨_, (Prod.mk.inj h).2.symm⟩

theorem open_storage_perform (henabled : config.storageEnabled = true) {m : Session}
    {wasOpen : Bool}
    (hmanager : (openManager (.ofString config.databasePath)).perform s = (.ok wasOpen, m)) :
    ∃ notes, (openStorage config).perform s =
      ((openStore.perform (m.withNotes notes)).1.map fun _ => true,
        (openStore.perform (m.withNotes notes)).2) := by
  refine ⟨m.notes ++
    [⟨Log.info, s!"History storage enabled: {(Path.ofString config.databasePath).text}"⟩], ?_⟩
  rw [openStorage]
  simp only [henabled, Bool.not_true, Bool.false_eq_true, if_false]
  rw [Action.perform_bind, hmanager]
  change Action.perform (openStore >>= fun _ => pure true) (m.withNotes _) = _
  rw [Action.perform_bind]
  rcases openStore.perform (m.withNotes _) with ⟨_ | _, _⟩ <;> rfl

theorem open_storage_ok {hasStore : Bool} (henabled : config.storageEnabled = true)
    (h : (openStorage config).perform s = (.ok hasStore, t)) :
    hasStore = true ∧ ∃ wasOpen m notes,
      (openManager (.ofString config.databasePath)).perform s = (.ok wasOpen, m) ∧
        t = (m.withNotes notes).attach := by
  rcases hmanager : (openManager (.ofString config.databasePath)).perform s with ⟨e | wasOpen, m⟩
  · rw [openStorage, henabled] at h
    simp only [Bool.not_true, Bool.false_eq_true, if_false] at h
    rw [Action.perform_bind, hmanager] at h
    cases h
  · obtain ⟨notes, hperform⟩ := open_storage_perform henabled hmanager
    rw [h] at hperform
    obtain ⟨hresult, hlast⟩ := Prod.mk.inj hperform
    rcases hstore : openStore.perform (m.withNotes notes) with ⟨e | done, u⟩
    · rw [hstore] at hresult
      cases hresult
    · rw [hstore] at hresult hlast
      obtain ⟨notes', hattached⟩ := open_store_ok hstore
      exact ⟨Except.ok.inj hresult, wasOpen, m, notes', rfl, hlast.trans hattached⟩

theorem remembered_opened {now : Int} {files : Files} {wasOpen : Bool} {m : Session} {path : Path}
    {link : Link} (henabled : config.storageEnabled = true)
    (hmanager : (openManager (.ofString config.databasePath)).perform { files, now } =
      (.ok wasOpen, m))
    (hlink : m.shared = some ⟨path, some link⟩) :
    remembered config now files = visible m.attach := by
  obtain ⟨notes, hopen⟩ := open_storage_perform henabled hmanager
  rw [open_store_perform (s := m.withNotes notes) hlink] at hopen
  rw [remembered, Action.perform_bind, hopen]
  exact (rows_perform _).1

end

section
variable {path : Path} {files later : Files} {rows rows' : Except Failure (List Row)}
  {s t m : Session}

def newRows : Except Failure (List Row) := (Database.brought {}).rows

def Finds (path : Path) (files : Files) (rows : Except Failure (List Row)) : Prop :=
  path.text = Link.memoryName ∧ rows = newRows ∨
    path.text ≠ Link.memoryName ∧ ∃ made place db, files.ensureFolders path.parent = .ok made ∧
      made.locate path = .ok place ∧ made.entry? place ≠ some .folder ∧
      found made place = .ok db ∧ rows = db.brought.rows

structure Holds (path : Path) (files : Files) (rows : Except Failure (List Row)) : Prop where
  folder : files.find path.parent = .ok .folder
  rows : path.text = Link.memoryName ∧ rows = newRows ∨
    ∃ db, Lasting path db files ∧ rows = db.rows

theorem memory_migrated :
    Link.migrated ⟨.memory, {}⟩ = ⟨.memory, ⟨Database.brought {}, none⟩⟩ := by
  rw [Link.migrated]
  exact congrArg (Link.mk .memory) (shipped_ends {})

/-- A history in memory touches no file but for the folders above its name. -/
theorem open_manager_memory {wasOpen : Bool} (hshared : s.shared = none)
    (hpath : path.text = Link.memoryName)
    (h : (openManager path).perform s = (.ok wasOpen, t)) :
    s.files.ensureFolders path.parent = .ok t.files ∧
      t.shared = some ⟨path, some ⟨.memory, ⟨Database.brought {}, none⟩⟩⟩ := by
  obtain ⟨files, link, looked, notes, hconnect, hrefresh, -, rfl⟩ := open_manager_ok hshared h
  obtain ⟨made, hmade, ⟨-, rfl, rfl⟩ | ⟨hfile, -⟩⟩ := connect_ok hconnect
  · cases hrefresh
    rw [memory_migrated]
    refine ⟨?_, Session.kept_shared _ _ _⟩
    rw [hmade, Session.withNotes, Session.kept]
    split <;> rfl
  · exact absurd hpath hfile

structure Begins (config : Config) (s t : Session) (rows : Except Failure (List Row)) : Prop where
  finds : Finds (.ofString config.databasePath) s.files rows
  holds : Holds (.ofString config.databasePath) t.files rows
  sees : visible t = rows
  texts : ∀ place content, t.files.entry? place = some (.text content) →
    s.files.entry? place = some (.text content)

theorem open_storage_begins {config : Config} {hasStore : Bool} (hshared : s.shared = none)
    (henabled : config.storageEnabled = true)
    (h : (openStorage config).perform s = (.ok hasStore, t)) :
    ∃ rows, Begins config s t rows := by
  obtain ⟨-, wasOpen, m, notes, hmanager, rfl⟩ := open_storage_ok henabled h
  by_cases hpath : (Path.ofString config.databasePath).text = Link.memoryName
  · obtain ⟨hmade, hlink⟩ := open_manager_memory hshared hpath hmanager
    obtain ⟨hmore, hfolder⟩ := Files.ensure_folders_ok hmade
    refine ⟨newRows, .inl ⟨hpath, rfl⟩, ⟨hfolder, .inl ⟨hpath, rfl⟩⟩, ?_, ?_⟩
    · rw [visible, Session.seen_eq (s := (m.withNotes notes).attach) rfl hlink]
      rfl
    · intro place content htext
      rw [← Files.more_folders_same hmore]
      · exact htext
      · exact fun hfolder => by cases htext.symm.trans hfolder
  · obtain ⟨made, place, db, hopened⟩ := open_manager_opened hshared hpath hmanager
    have hlasting := opened_lasting hpath hopened
    have hlocated : m.files.locate (.ofString config.databasePath) = .ok place :=
      Files.locate_kept (fun _ => opened_folders hopened) hopened.located
    have hlinked : Linked (.ofString config.databasePath) db.brought (m.withNotes notes).attach
        place none := ⟨hlocated, hopened.entry, rfl, ⟨_, hopened.shared⟩, by simp⟩
    refine ⟨db.brought.rows, .inr ⟨hpath, made, place, db, hopened.folders, hopened.located,
      hopened.noFolder, hopened.found, rfl⟩, ⟨hlasting.folder, .inr ⟨_, hlasting, rfl⟩⟩, ?_, ?_⟩
    · rw [visible, linked_seen hlinked]
      rfl
    · intro other content htext
      have hother : other ≠ place := by
        rintro rfl
        cases htext.symm.trans hopened.entry
      obtain ⟨hmore, -⟩ := Files.ensure_folders_ok hopened.folders
      have hmade : made.entry? other = some (.text content) :=
        (hopened.others other hother).symm.trans htext
      rw [← Files.more_folders_same hmore (by simp [hmade]), hmade]

theorem remembered_finds {config : Config} {now : Int} {found : List Row}
    (henabled : config.storageEnabled = true) (h : remembered config now files = .ok found) :
    Finds (.ofString config.databasePath) files (.ok found) := by
  rw [remembered, Action.perform_bind] at h
  rcases hopen : (openStorage config).perform { files, now } with ⟨e | hasStore, t⟩
  · rw [hopen] at h
    cases h
  · rw [hopen] at h
    obtain ⟨rows, hbegins⟩ := open_storage_begins rfl henabled hopen
    have hrows : rows = .ok found := hbegins.sees.symm.trans ((rows_perform t).1.symm.trans h)
    exact hrows ▸ hbegins.finds

theorem open_manager_new (hshared : s.shared = none) (hpath : path.text = Link.memoryName)
    (hfolder : s.files.find path.parent = .ok .folder) :
    ∃ m, (openManager path).perform s = (.ok false, m) ∧
      m.shared = some ⟨path, some ⟨.memory, ⟨Database.brought {}, none⟩⟩⟩ := by
  have hconnect : Link.connect s.files path = (s.files, .ok ⟨.memory, {}⟩) := by
    rw [Link.connect, Files.make_folders_there hfolder]
    simp [hpath]
  have hgood : (Migration.runOn shipped {}).error = none := by decide +kernel
  have hperform := open_manager_perform hshared path
  rw [hconnect] at hperform
  simp only [migrate_perform, Link.refresh, memory_migrated, hgood] at hperform
  exact ⟨_, hperform, Session.kept_shared _ _ _⟩

theorem holds_remembered {config : Config} (henabled : config.storageEnabled = true)
    (h : Holds (.ofString config.databasePath) files rows) (now : Int) :
    remembered config now files = rows := by
  rcases h.rows with ⟨hpath, hrows⟩ | ⟨db, hlasting, hrows⟩
  · obtain ⟨m, hmanager, hlink⟩ := open_manager_new (s := { files, now }) rfl hpath h.folder
    rw [remembered_opened henabled hmanager hlink, hrows, visible,
      Session.seen_eq (s := m.attach) rfl hlink]
    rfl
  · obtain ⟨place, notes, hplace, hentry, hmanager⟩ :=
      open_manager_lasting (s := { files, now }) rfl hlasting
    let link : Link := ⟨.file place, ⟨db, none⟩⟩
    let m : Session := { files, now, shared := some ⟨.ofString config.databasePath, some link⟩ }
    have hlinked :
        Linked (.ofString config.databasePath) db (m.withNotes notes).attach place none :=
      ⟨hplace, hentry, rfl, ⟨_, rfl⟩, by simp⟩
    rw [remembered_opened henabled hmanager rfl, hrows, visible, linked_seen hlinked]
    rfl

theorem found_same {place : Files.Place} (h : later.entry? place = files.entry? place) :
    found later place = found files place := by
  rw [found, found, Link.stored, Link.stored, h]

theorem found_appended {place : Files.Place} (h : files.Appended "" place later) :
    found later place = found files place := by
  rw [found, found, Link.stored, Link.stored, h.here]
  cases hentry : files.entry? place with
  | none => rfl
  | some entry =>
    cases entry with
    | folder => exact absurd hentry h.noFolder
    | text old => simp [Files.appended]
    | database db =>
      by_cases hdb : db = {}
      · subst hdb
        rfl
      · simp [Files.appended, hdb]

/-- Making the log file of a run does not concern what is found. -/
theorem finds_configured {level action folder : String} {toFile : Bool} {time : Calendar}
    {setup : Log.Setup}
    (hlog : Log.configure level action toFile folder time files = .ok (setup, later))
    (h : Finds path files rows) (h' : Finds path later rows') : rows' = rows := by
  rcases h with ⟨hpath, rfl⟩ | ⟨hpath, made, place, db, hmade, hplace, hfolder, hfound, rfl⟩
  · rcases h' with ⟨-, rfl⟩ | ⟨hfile, -⟩
    · rfl
    · exact absurd hpath hfile
  rcases h' with ⟨hmemory, -⟩ | ⟨-, made', place', db', hmade', hplace', hfolder', hfound', rfl⟩
  · exact absurd hmemory hpath
  obtain rfl := Files.locate_target hplace hplace'
  have hbefore := Files.more_folders_same (Files.ensure_folders_ok hmade).1 hfolder
  have hafter := Files.more_folders_same (Files.ensure_folders_ok hmade').1 hfolder'
  have hsame : found later place = found files place := by
    rcases (Log.configure_ok hlog).2 with ⟨-, rfl⟩ | ⟨-, above, log, habove, -, happended⟩
    · rfl
    · by_cases hplaces : place = log
      · subst hplaces
        rw [found_appended happended,
          found_same (Files.more_folders_same habove happended.noFolder)]
      · have hothers := happended.others place hplaces
        rw [found_same hothers, found_same (Files.more_folders_same habove ?_)]
        rw [← hothers, ← hafter]
        exact hfolder'
  rw [found_same hafter, hsame, ← found_same hbefore, hfound] at hfound'
  rw [Except.ok.inj hfound']

theorem holds_logged (hlog : Log.Logged files later) (h : Holds path files rows) :
    Holds path later rows := by
  refine ⟨Files.find_spared hlog.spares (.inl rfl) h.folder, ?_⟩
  rcases h.rows with hmemory | ⟨db, hlasting, hrows⟩
  · exact .inl hmemory
  · have hdb : db ≠ {} := by
      rintro rfl
      exact absurd hlasting.version (by decide)
    exact .inr ⟨db, ⟨hlasting.inFile, Files.find_spared hlog.spares (.inl rfl) hlasting.folder,
      Files.find_spared hlog.spares (.inr ⟨db, rfl, hdb⟩) hlasting.file, hlasting.version⟩, hrows⟩

end

end FileSearch.Search
