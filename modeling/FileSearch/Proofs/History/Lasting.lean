import FileSearch.Proofs.Files.Folders
import FileSearch.Proofs.History.Steady

/-!
# Databases that last

A database that has been opened once lasts in its file: its folder is made, its migrations
are done, and opening it again changes neither the file nor what is read from it. What a
later connection sees is the file, so it is told from what other actions do to the file.
-/

set_option autoImplicit false

namespace FileSearch.History

def Database.brought (db : Database) : Database :=
  (Migration.runOn shipped ⟨db, none⟩).connection.committed

theorem shipped_numbered : Migration.Numbered 0 shipped :=
  (Migration.count_up_iff 0 shipped).1 (by decide)

theorem shipped_ends (db : Database) :
    (Migration.runOn shipped ⟨db, none⟩).connection = ⟨db.brought, none⟩ := by
  have hidle : (Migration.runOn shipped ⟨db, none⟩).connection.working = none :=
    Migration.run_on_idle shipped_contained rfl
  rw [Database.brought]
  cases hc : (Migration.runOn shipped ⟨db, none⟩).connection with
  | mk committed working =>
    rw [hc] at hidle
    cases hidle
    rfl

theorem shipped_again {db : Database} (h : 1 ≤ db.version) :
    (Migration.runOn shipped ⟨db, none⟩).ends = (⟨db, none⟩, none) := by
  rcases Int.lt_or_eq_of_le h with hnewer | hlast
  · exact Migration.run_newer shipped_numbered hnewer
  · have hbehind : Migration.Behind shipped db 1 := ⟨shipped_numbered, hlast.symm, by decide⟩
    exact Migration.run_through shipped_contained hbehind rfl

theorem brought_again {db : Database} (h : 1 ≤ db.version) : db.brought = db :=
  congrArg (fun ends => Connection.committed ends.1) (shipped_again h)

/-- All migrations are pending where the version is zero or negative. -/
theorem shipped_pending {db : Database} (h : ¬ 1 ≤ db.version) :
    Migration.runOn shipped ⟨db, none⟩ = Migration.applyAll ⟨db, none⟩ shipped := by
  have hcount : Migration.countUp 1 (shipped.map (·.version)) = true := by decide
  have hcurrent : (Connection.current ⟨db, none⟩).version = db.version := rfl
  have hknown : ¬ (shipped.length : Int) < db.version := fun hnewer => h (Int.le_of_lt hnewer)
  have hpending : Migration.pending shipped db.version = shipped := by
    have hlength : shipped.length = 1 := rfl
    have hdrop : (if 0 ≤ db.version then db.version.toNat
        else shipped.length - db.version.natAbs) = 0 := by
      split <;> omega
    rw [Migration.pending, hdrop, List.drop_zero]
  simp only [Migration.runOn, hcount, hcurrent, hknown, hpending, Bool.not_true,
    Bool.false_eq_true, if_false]

theorem brought_version {db : Database}
    (h : (Migration.runOn shipped ⟨db, none⟩).error = none) : 1 ≤ db.brought.version := by
  by_cases hold : 1 ≤ db.version
  · rw [brought_again hold]
    exact hold
  · have hrun := shipped_pending hold
    rcases Migration.bring_or_stop shipped db with ⟨db', hbring⟩ | ⟨before, m, after, db', e, hstop⟩
    · have happend := Migration.apply_all_append shipped_contained hbring []
      rw [List.append_nil, ← hrun] at happend
      obtain ⟨next, -, hlast⟩ := Migration.bring_cons hbring
      cases hlast
      have hbrought : db.brought = { next with version := 1 } :=
        congrArg (fun ends => Connection.committed ends.1) happend
      rw [hbrought]
    · obtain ⟨hsplit, hbring, hfail⟩ := hstop
      have hall := shipped_contained
      rw [hsplit] at hall
      obtain ⟨hbefore, hothers⟩ := List.forall_mem_append.1 hall
      have happend := Migration.apply_all_append hbefore hbring (m :: after)
      rw [Migration.applyAll, Migration.apply_error (hothers m List.mem_cons_self) hfail,
        ← hsplit, ← hrun] at happend
      have herror : (Migration.runOn shipped ⟨db, none⟩).error = some (.failed e) :=
        congrArg Prod.snd happend
      rw [herror] at h
      cases h

/-- A connection makes folders, and also a file if it goes through. -/
theorem connect_made {files later : Files} {path : Path} {r : Except Refusal Link}
    (h : Link.connect files path = (later, r)) :
    files.MoreFolders later ∨
      ∃ made place, files.MoreFolders made ∧ made.entry? place = none ∧
        later = made.set place (.database {}) ∧ r = .ok ⟨.file place, {}⟩ := by
  have hmore := (Files.make_folders_making files path.parent).more
  rw [Link.connect] at h
  rcases hmake : files.makeFolders path.parent with ⟨made, refusal | _⟩
  · rw [hmake] at hmore h
    cases h
    exact .inl hmore
  · rw [hmake] at hmore h
    dsimp only at h
    split at h
    · cases h
      exact .inl hmore
    · split at h
      · cases h
        exact .inl hmore
      · cases h
        exact .inl hmore
      · split at h
        · cases h
          exact .inl hmore
        · cases h
          exact .inl hmore
        · next place _ _ hnone =>
          cases h
          exact .inr ⟨made, place, hmore, hnone, rfl, rfl⟩

def found (files : Files) (place : Files.Place) : Except Refusal Database :=
  (Link.stored files place).map (·.getD {})

structure Lasting (path : Path) (db : Database) (files : Files) : Prop where
  inFile : path.text ≠ Link.memoryName
  folder : files.find path.parent = .ok .folder
  file : files.find path = .ok (.database db)
  version : 1 ≤ db.version

structure Opened (path : Path) (s t : Session) (made : Files) (place : Files.Place)
    (db : Database) : Prop where
  folders : s.files.ensureFolders path.parent = .ok made
  located : made.locate path = .ok place
  noFolder : made.entry? place ≠ some .folder
  found : found made place = .ok db
  version : 1 ≤ db.brought.version
  shared : t.shared = some ⟨path, some ⟨.file place, ⟨db.brought, none⟩⟩⟩
  attached : t.attached = s.attached
  entry : t.files.entry? place = some (.database db.brought)
  others : ∀ other, other ≠ place → t.files.entry? other = made.entry? other

theorem stored_some {files : Files} {place : Files.Place} (h : (files.entry? place).isSome = true)
    {stored : Option Database} (hstored : Link.stored files place = .ok stored) :
    ∃ db, stored = some db ∧
      (files.entry? place = some (.database db) ∨ db = {}) := by
  rw [Link.stored] at hstored
  cases hentry : files.entry? place with
  | none =>
    rw [hentry] at h
    cases h
  | some entry =>
    rw [hentry] at hstored
    cases entry with
    | folder => cases hstored
    | database db =>
      cases hstored
      exact ⟨db, rfl, .inl rfl⟩
    | text content =>
      dsimp only at hstored
      split at hstored
      · cases hstored
        exact ⟨{}, rfl, .inr rfl⟩
      · cases hstored

theorem opened_kept (s : Session) (path : Path) (link : Link) (notes : List Log.Record)
    {files : Files} {place : Files.Place} {db : Database}
    (hentry : files.entry? place = some (.database db) ∨ db = {})
    (hfolder : files.entry? place ≠ some .folder) (hthere : (files.entry? place).isSome = true) :
    let looked : Link := ⟨.file place, ⟨db, none⟩⟩
    let t := (({ s with files, shared := some ⟨path, some link⟩ } : Session).kept looked
      looked.migrated).withNotes notes
    t.shared = some ⟨path, some ⟨.file place, ⟨db.brought, none⟩⟩⟩ ∧ t.attached = s.attached ∧
      t.files.entry? place = some (.database db.brought) ∧
      ∀ other, other ≠ place → t.files.entry? other = files.entry? other := by
  intro looked t
  have hmigrated : looked.migrated = ⟨.file place, ⟨db.brought, none⟩⟩ := by
    rw [Link.migrated, shipped_ends]
  have hshared : t.shared = some ⟨path, some ⟨.file place, ⟨db.brought, none⟩⟩⟩ := by
    rw [← hmigrated]
    exact Session.kept_shared _ _ _
  refine ⟨hshared, Session.kept_attached _ _ _, ?_⟩
  have hfiles : t.files =
      if db.brought = db then files else files.set place (.database db.brought) := by
    change (Session.kept _ looked looked.migrated).files = _
    rw [hmigrated, Session.kept]
    split
    · rfl
    · exact if_pos hthere
  rw [hfiles]
  by_cases hsame : db.brought = db
  · rw [if_pos hsame]
    refine ⟨?_, fun _ _ => rfl⟩
    rcases hentry with hentry | rfl
    · rw [hentry, hsame]
    · exact absurd hsame (by decide +kernel)
  · rw [if_neg hsame]
    exact ⟨Files.entry_set (Files.not_folder hfolder), fun _ hother =>
      Files.entry_set_ne files _ hother⟩

theorem open_manager_opened {s t : Session} {path : Path} {wasOpen : Bool}
    (hshared : s.shared = none) (hpath : path.text ≠ Link.memoryName)
    (h : (openManager path).perform s = (.ok wasOpen, t)) :
    ∃ made place db, Opened path s t made place db := by
  obtain ⟨files, link, looked, notes, hconnect, hrefresh, herror, rfl⟩ :=
    open_manager_ok hshared h
  obtain ⟨made, hmade, ⟨hmemory, -, -⟩ | ⟨-, place, hplace, rfl, hfolder, hentry⟩⟩ :=
    connect_ok hconnect
  · exact absurd hmemory hpath
  simp only [Link.refresh] at hrefresh
  rcases hentry with ⟨hthere, hsame⟩ | ⟨hnone, rfl⟩
  · subst hsame
    cases hstored : Link.stored files place with
    | error r =>
      rw [hstored] at hrefresh
      cases hrefresh
    | ok stored =>
      obtain ⟨db, hsome, hdb⟩ := stored_some hthere hstored
      subst hsome
      rw [hstored] at hrefresh
      cases hrefresh
      obtain ⟨hlink, hattached, hin, hothers⟩ :=
        opened_kept s path ⟨.file place, {}⟩ notes hdb hfolder hthere
      exact ⟨files, place, db, hmade, hplace, hfolder, by rw [found, hstored]; rfl,
        brought_version herror, hlink, hattached, hin, hothers⟩
  · have hplace' := Files.entry_none hnone
    have hread := @Files.entry_set made place (.database {}) hplace'
    have hstored : Link.stored (made.set place (.database {})) place = .ok (some {}) := by
      rw [Link.stored, hread]
    rw [hstored] at hrefresh
    cases hrefresh
    obtain ⟨hlink, hattached, hin, hothers⟩ := opened_kept s path ⟨.file place, {}⟩
      notes (.inl hread) (by simp [hread]) (by simp [hread])
    refine ⟨made, place, {}, hmade, hplace, hfolder, ?_, brought_version herror, hlink, hattached,
      hin, fun other hother => ?_⟩
    · rw [found, Link.stored, hnone]
      rfl
    · rw [hothers other hother, Files.entry_set_ne made _ hother]

theorem opened_folders {s t : Session} {path : Path} {made : Files} {place : Files.Place}
    {db : Database} (h : Opened path s t made place db) {other : Files.Place}
    (hfolder : made.entry? other = some .folder) : t.files.entry? other = some .folder := by
  have hne : other ≠ place := by
    rintro rfl
    exact h.noFolder hfolder
  rw [h.others other hne, hfolder]

theorem opened_lasting {s t : Session} {path : Path} {made : Files} {place : Files.Place}
    {db : Database} (hpath : path.text ≠ Link.memoryName) (h : Opened path s t made place db) :
    Lasting path db.brought t.files := by
  obtain ⟨-, hfolder⟩ := Files.ensure_folders_ok h.folders
  constructor
  case inFile => exact hpath
  case folder =>
    exact Files.find_kept (fun _ => opened_folders h) (fun _ => opened_folders h) hfolder
  case file =>
    exact Files.find_ok_iff.2 ⟨place, Files.locate_kept (fun _ => opened_folders h) h.located,
      h.entry⟩
  case version => exact h.version

/-- A lasting database is opened as it is. -/
theorem open_manager_lasting {s : Session} {path : Path} {db : Database}
    (hshared : s.shared = none) (h : Lasting path db s.files) :
    ∃ place notes, s.files.locate path = .ok place ∧
      s.files.entry? place = some (.database db) ∧
      (openManager path).perform s =
        (.ok false, ({ s with shared := some ⟨path, some ⟨.file place, ⟨db, none⟩⟩⟩ } :
          Session).withNotes notes) := by
  obtain ⟨place, hplace, hentry⟩ := Files.find_ok_iff.1 h.file
  have hconnect : Link.connect s.files path = (s.files, .ok ⟨.file place, {}⟩) := by
    rw [Link.connect, Files.make_folders_there h.folder]
    simp [h.inFile, hplace, hentry]
  have hrefresh : Link.refresh s.files ⟨.file place, {}⟩ = .ok ⟨.file place, ⟨db, none⟩⟩ := by
    simp [Link.refresh, Link.stored, hentry, bind, Except.bind]
  have hends := shipped_again h.version
  have hlink : Link.migrated ⟨.file place, ⟨db, none⟩⟩ = ⟨.file place, ⟨db, none⟩⟩ := by
    rw [Link.migrated]
    exact congrArg (fun ends => Link.mk (.file place) ends.1) hends
  have herror : (Migration.runOn shipped ⟨db, none⟩).error = none := congrArg Prod.snd hends
  have hperform := open_manager_perform hshared path
  rw [hconnect] at hperform
  simp only [migrate_perform, hrefresh, hlink, herror, Session.kept, if_true] at hperform
  exact ⟨place, _, hplace, hentry, hperform⟩

end FileSearch.History
