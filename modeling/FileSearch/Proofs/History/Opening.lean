import FileSearch.Proofs.History.Keeping
import FileSearch.Proofs.History.Migrating

/-!
# Opening a store

Opening connects to a file, migrates what it holds and gives the store the connection.
No transaction is open afterwards, and what was not there before is empty.
-/

set_option autoImplicit false

namespace FileSearch

def Session.attach (s : Session) : Session := { s with attached := true }

namespace History

def openAt (path : Path) : Action Unit := do
  let _ ← openManager path
  openStore

theorem connect_ok {files files' : Files} {path : Path} {link : Link}
    (h : Link.connect files path = (files', .ok link)) :
    ∃ made, files.ensureFolders path.parent = .ok made ∧
      ((path.text = Link.memoryName ∧ files' = made ∧ link = ⟨.memory, {}⟩) ∨
        path.text ≠ Link.memoryName ∧ ∃ place, made.locate path = .ok place ∧
          link = ⟨.file place, {}⟩ ∧ made.entry? place ≠ some .folder ∧
            ((made.entry? place).isSome = true ∧ files' = made ∨
              made.entry? place = none ∧ files' = made.set place (.database {}))) := by
  rw [Link.connect] at h
  rw [Files.ensureFolders]
  rcases hmake : files.makeFolders path.parent with ⟨made, refusal | _⟩
  · rw [hmake] at h
    cases h
  · rw [hmake] at h
    dsimp only at h
    refine ⟨made, rfl, ?_⟩
    by_cases hmemory : path.text = Link.memoryName
    · rw [if_pos hmemory] at h
      cases h
      exact .inl ⟨hmemory, rfl, rfl⟩
    · rw [if_neg hmemory] at h
      right
      rcases hplace : made.locate path with fault | place
      · rw [hplace] at h
        cases fault <;> cases h
      · rw [hplace] at h
        dsimp only at h
        refine ⟨hmemory, place, rfl, ?_⟩
        rcases hentry : made.entry? place with _ | _ | _ | _
        · rw [hentry] at h
          cases h
          exact ⟨rfl, by simp, .inr ⟨rfl, rfl⟩⟩
        · rw [hentry] at h
          cases h
        · rw [hentry] at h
          cases h
          exact ⟨rfl, by simp, .inl ⟨rfl, rfl⟩⟩
        · rw [hentry] at h
          cases h
          exact ⟨rfl, by simp, .inl ⟨rfl, rfl⟩⟩

theorem shipped_contained : Migration.AllContained shipped := Migration.plain_all_contained rfl

theorem connect_new {files files' : Files} {path : Path} {link : Link}
    (h : Link.connect files path = (files', .ok link)) : link.connection = {} := by
  obtain ⟨made, -, ⟨-, -, rfl⟩ | ⟨-, place, -, rfl, -⟩⟩ := connect_ok h
  · rfl
  · rfl

theorem open_store_perform {s : Session} {path : Path} {link : Link}
    (h : s.shared = some ⟨path, some link⟩) :
    openStore.perform s =
      (.ok (), (s.withNotes
        (s.notes ++ [⟨Log.debug, "Initializing KnownHitStore"⟩])).attach) := by
  obtain ⟨files, now, notes, shared, attached⟩ := s
  cases h
  rfl

theorem migrate_ok {link : Link} {s t : Session} (h : (migrate link).perform s = (.ok (), t)) :
    ∃ looked notes, link.refresh s.files = .ok looked ∧
      (Migration.runOn shipped looked.connection).error = none ∧
      t = (s.kept looked looked.migrated).withNotes notes := by
  rw [migrate_perform] at h
  cases hrefresh : link.refresh s.files with
  | error r =>
    rw [hrefresh] at h
    cases h
  | ok looked =>
    rw [hrefresh] at h
    obtain ⟨hresult, hlast⟩ := Prod.ext_iff.1 h
    refine ⟨looked, _, rfl, ?_, hlast.symm⟩
    cases herror : (Migration.runOn shipped looked.connection).error with
    | none => rfl
    | some e =>
      simp only [herror, reduceCtorEq] at hresult

inductive Opens (path : Path) (s : Session) : Except Failure Bool × Session → Prop
  | unconnected {files : Files} {refusal : Refusal}
    (hconnect : Link.connect s.files path = (files, .error refusal)) :
    Opens path s (.error (.history refusal), { s with files, shared := some ⟨path, none⟩ })
  | unmigrated {files : Files} {link : Link} {failure : Failure} {t : Session}
    (hconnect : Link.connect s.files path = (files, .ok link))
    (hmigrate : (migrate link).perform { s with files, shared := some ⟨path, some link⟩ } =
      (.error failure, t)) : Opens path s (.error failure, t)
  | through {files : Files} {link : Link} {t : Session}
    (hconnect : Link.connect s.files path = (files, .ok link))
    (hmigrate : (migrate link).perform { s with files, shared := some ⟨path, some link⟩ } =
      (.ok (), t)) : Opens path s (.ok false, t)

theorem open_manager_opens {s : Session} (hshared : s.shared = none) (path : Path) :
    Opens path s ((openManager path).perform s) := by
  rw [open_manager_perform hshared]
  rcases hconnect : Link.connect s.files path with ⟨files, refusal | link⟩
  · exact .unconnected hconnect
  · dsimp only
    rcases hmigrate : (migrate link).perform { s with files, shared := some ⟨path, some link⟩ }
      with ⟨failure | _, t⟩
    · exact .unmigrated hconnect hmigrate
    · exact .through hconnect hmigrate

/-- A connection that has been opened has looked at its file and gone through the migrations. -/
theorem open_manager_ok {s t : Session} {path : Path} {wasOpen : Bool} (hshared : s.shared = none)
    (h : (openManager path).perform s = (.ok wasOpen, t)) :
    ∃ files link looked notes, Link.connect s.files path = (files, .ok link) ∧
      link.refresh files = .ok looked ∧
      (Migration.runOn shipped looked.connection).error = none ∧
      t = (({ s with files, shared := some ⟨path, some link⟩ } : Session).kept looked
        looked.migrated).withNotes notes := by
  have hopens := open_manager_opens hshared path
  rw [h] at hopens
  cases hopens with
  | through hconnect hmigrate =>
    obtain ⟨looked, notes, hrefresh, herror, rfl⟩ := migrate_ok hmigrate
    exact ⟨_, _, looked, notes, hconnect, hrefresh, herror, rfl⟩

theorem open_ok {s t : Session} {path : Path} (hshared : s.shared = none)
    (h : (openAt path).perform s = (.ok (), t)) :
    ∃ files link looked, Link.connect s.files path = (files, .ok link) ∧
      link.refresh files = .ok looked ∧
      t.files = ({ s with files, shared := some ⟨path, some link⟩ }.kept looked
        looked.migrated).files ∧
      t.seen = looked.migrated.refresh t.files := by
  obtain ⟨_, m, hmanager, hstore⟩ := Action.perform_bind_ok h
  obtain ⟨files, link, looked, notes, hconnect, hrefresh, -, rfl⟩ :=
    open_manager_ok hshared hmanager
  have hkept : (({ s with files, shared := some ⟨path, some link⟩ }.kept looked
      looked.migrated).withNotes notes).shared = some ⟨path, some looked.migrated⟩ :=
    Session.kept_shared _ _ _
  rw [open_store_perform hkept] at hstore
  cases hstore
  exact ⟨files, link, looked, hconnect, hrefresh, rfl, Session.seen_eq rfl hkept⟩

theorem connect_in_place {files files' : Files} {path : Path} {link : Link}
    (h : Link.connect files path = (files', .ok link)) : link.isInPlace files' = true := by
  obtain ⟨made, -, ⟨-, -, rfl⟩ | ⟨-, place, -, rfl, -, hentry⟩⟩ := connect_ok h
  · rfl
  · rcases hentry with ⟨hentry, rfl⟩ | ⟨-, rfl⟩
    · exact hentry
    · exact Files.entry_set_some made place _

theorem looked_idle {files files' : Files} {path : Path} {link looked : Link}
    (hconnect : Link.connect files path = (files', .ok link))
    (hrefresh : link.refresh files' = .ok looked) :
    looked.connection.working = none ∧ looked.migrated.connection.working = none ∧
      looked.isInPlace files' = true := by
  have hidle : looked.connection.working = none :=
    refresh_idle (by rw [connect_new hconnect]) hrefresh
  refine ⟨hidle, Migration.run_on_idle shipped_contained hidle, ?_⟩
  rw [in_place_backing (refresh_backing hrefresh)]
  exact connect_in_place hconnect

/-- A store that has been opened sees the migrated database, in place and without an open
transaction. -/
theorem open_seen {s t : Session} {path : Path} (hshared : s.shared = none)
    (h : (openAt path).perform s = (.ok (), t)) :
    ∃ files link looked, Link.connect s.files path = (files, .ok link) ∧
      link.refresh files = .ok looked ∧ t.seen = .ok looked.migrated ∧
      looked.migrated.connection.working = none ∧ looked.migrated.isInPlace t.files = true := by
  obtain ⟨files, link, looked, hconnect, hrefresh, hfiles, hseen⟩ := open_ok hshared h
  obtain ⟨hlooked, hmigrated, hplace⟩ := looked_idle hconnect hrefresh
  refine ⟨files, link, looked, hconnect, hrefresh, ?_, hmigrated, ?_⟩
  · rw [hseen, hfiles]
    exact Session.refresh_kept _ (refresh_refresh hrefresh) rfl hlooked hmigrated hplace
  · rw [hfiles]
    exact Session.in_place_kept rfl hplace

theorem open_ready {s t : Session} {path : Path} {rows : List Row} (hshared : s.shared = none)
    (h : (openAt path).perform s = (.ok (), t)) (hrows : visible t = .ok rows) :
    Ready t rows := by
  obtain ⟨files, link, looked, -, -, hseen, hidle, hplace⟩ := open_seen hshared h
  exact visible_ready hrows hseen hidle hplace

end History

end FileSearch
