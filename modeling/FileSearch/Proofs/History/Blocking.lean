import FileSearch.Proofs.History.Lasting

/-!
# Openings that fail

The connection is shared before it is made. An opening that fails leaves it shared all the same,
half open: not connected, or connected to a file that holds no database, or to a database whose
migrations are not done. Every later opening is given this one, whatever its path, until it is
closed.
-/

set_option autoImplicit false

namespace FileSearch.History

inductive HalfOpen (path : Path) (s t : Session) : Option Link → Prop
  | unconnected {refusal : Refusal}
    (hconnect : Link.connect s.files path = (t.files, .error refusal)) : HalfOpen path s t none
  | unreadable {link : Link} {refusal : Refusal}
    (hconnect : Link.connect s.files path = (t.files, .ok link))
    (hread : link.refresh t.files = .error refusal) : HalfOpen path s t (some link)
  | unmigrated {made link : Link}
    (hconnect : Link.connect s.files path = (t.files, .ok made))
    (hread : link.refresh t.files = .ok link)
    (hversion : link.connection.current.version < shipped.length) :
    HalfOpen path s t (some link)

structure Blocked (path : Path) (s t : Session) : Prop where
  shared : ∃ link, t.shared = some ⟨path, link⟩ ∧ HalfOpen path s t link
  /-- A later opening is told that the connection is open, and does nothing. -/
  again : ∀ other, (openManager other).perform t = (.ok true, t)
  /-- A store that is opened for another path gets what is left of this connection. -/
  store : ∀ other, (openAt other).perform t = openStore.perform t
  /-- The folders that were made for the database stay, and nothing else has changed. -/
  folders : s.files.MoreFolders t.files
  closed : (closeManager.run t).2 =
    { s with files := t.files, notes := t.notes, shared := none, attached := false }

def Open (path : Path) (t : Session) : Prop :=
  ∃ link, t.shared = some ⟨path, some link⟩ ∧ link.refresh t.files = .ok link ∧
    (shipped.length : Int) ≤ link.connection.current.version

/-- A failed run of the shipped migrations was due, and has changed nothing. -/
theorem shipped_failed {db : Database} {e : MigrationError}
    (h : (Migration.runOn shipped ⟨db, none⟩).error = some e) :
    db.version < shipped.length ∧ db.brought = db := by
  have hold : ¬ 1 ≤ db.version := by
    intro hnew
    have hnone : (Migration.runOn shipped ⟨db, none⟩).error = none :=
      congrArg Prod.snd (shipped_again hnew)
    rw [hnone] at h
    cases h
  refine ⟨Int.not_le.1 hold, ?_⟩
  have hfirst := (List.forall_mem_cons.1 shipped_contained).1
  rw [shipped_pending hold, shipped, Migration.applyAll] at h
  rw [Database.brought, shipped_pending hold, shipped, Migration.applyAll]
  cases hrun : Statement.runAll [.createKnown, .createIndex recencyIndex] db with
  | ok next =>
    rw [Migration.apply_ok hfirst hrun] at h
    cases h
  | error e' => rw [Migration.apply_error hfirst hrun]

theorem migrate_failed {link : Link} {s t : Session} {failure : Failure}
    (hidle : link.connection.working = none)
    (h : (migrate link).perform s = (.error failure, t)) :
    (∃ refusal, link.refresh s.files = .error refusal ∧ t = s) ∨
      ∃ looked notes, link.refresh s.files = .ok looked ∧
        looked.connection.current.version < shipped.length ∧
        t = (s.withLink looked).withNotes notes := by
  rw [migrate_perform] at h
  cases hrefresh : link.refresh s.files with
  | error refusal =>
    rw [hrefresh] at h
    cases h
    exact .inl ⟨refusal, rfl, rfl⟩
  | ok looked =>
    rw [hrefresh] at h
    obtain ⟨hresult, rfl⟩ := Prod.mk.inj h
    obtain ⟨backing, db, working⟩ := looked
    obtain rfl : working = none := refresh_idle hidle hrefresh
    cases herror : (Migration.runOn shipped ⟨db, none⟩).error with
    | none =>
      rw [herror] at hresult
      cases hresult
    | some e =>
      obtain ⟨hversion, hsame⟩ := shipped_failed herror
      have hmigrated : Link.migrated ⟨backing, db, none⟩ = ⟨backing, db, none⟩ := by
        rw [Link.migrated, shipped_ends, hsame]
      have hkept : s.kept ⟨backing, db, none⟩ (Link.migrated ⟨backing, db, none⟩) =
          s.withLink ⟨backing, db, none⟩ := by
        rw [hmigrated, Session.kept, if_pos rfl]
      rw [hkept]
      exact .inr ⟨_, _, rfl, hversion, rfl⟩

theorem migrate_new {s : Session} {place : Files.Place}
    (h : s.files.entry? place = some (.database {})) :
    ∃ t, (migrate ⟨.file place, {}⟩).perform s = (.ok (), t) := by
  have hrefresh : Link.refresh s.files ⟨.file place, {}⟩ = .ok ⟨.file place, {}⟩ := by
    simp [Link.refresh, Link.stored, h, bind, Except.bind]
  have hgood : (Migration.runOn shipped {}).error = none := by decide +kernel
  rw [migrate_perform, hrefresh]
  dsimp only
  rw [hgood]
  exact ⟨_, rfl⟩

theorem open_manager_again {s : Session} (h : s.shared.isSome = true) (other : Path) :
    (openManager other).perform s = (.ok true, s) := by
  rw [openManager, Action.perform_bind, Action.perform_get]
  dsimp only
  rw [if_pos h]
  rfl

theorem open_at_again {s : Session} (h : s.shared.isSome = true) (other : Path) :
    (openAt other).perform s = openStore.perform s := by
  rw [openAt, Action.perform_bind, open_manager_again h]

theorem open_failed {s t : Session} {path : Path} {failure : Failure}
    (hshared : s.shared = none) (h : (openManager path).perform s = (.error failure, t)) :
    Blocked path s t := by
  have hblocked {link : Option Link} (hlink : t.shared = some ⟨path, link⟩)
      (hhalf : HalfOpen path s t link)
      (hfolders : s.files.MoreFolders t.files)
      (hclosed : (closeManager.run t).2 =
        { s with files := t.files, notes := t.notes, shared := none, attached := false }) :
      Blocked path s t :=
    ⟨⟨link, hlink, hhalf⟩, open_manager_again (by rw [hlink]; rfl),
      open_at_again (by rw [hlink]; rfl), hfolders, hclosed⟩
  have hopens := open_manager_opens hshared path
  rw [h] at hopens
  cases hopens with
  | unconnected hconnect =>
    rcases connect_made hconnect with hfolders | ⟨made, place, -, -, -, hlink⟩
    · exact hblocked rfl (.unconnected hconnect) hfolders rfl
    · cases hlink
  | @unmigrated files link _ _ hconnect hmigrate =>
    have hidle : link.connection.working = none := by rw [connect_new hconnect]
    -- a file that has just been made is migrated, so this one was there
    have hfolders : s.files.MoreFolders files := by
      rcases connect_made hconnect with hfolders | ⟨made, place, -, hnone, rfl, hlink⟩
      · exact hfolders
      · cases hlink
        obtain ⟨u, hnew⟩ := @migrate_new
          { s with
            files := made.set place (.database {})
            shared := some ⟨path, some ⟨.file place, {}⟩⟩ } place
          (Files.entry_set (Files.entry_none hnone))
        rw [hnew] at hmigrate
        cases hmigrate
    rcases migrate_failed hidle hmigrate with
      ⟨refusal, hread, rfl⟩ | ⟨looked, notes, hread, hversion, rfl⟩
    · exact hblocked rfl (.unreadable hconnect hread) hfolders rfl
    · exact hblocked rfl (.unmigrated hconnect (refresh_refresh hread) hversion) hfolders rfl

theorem open_through {s t : Session} {path : Path} {wasOpen : Bool} (hshared : s.shared = none)
    (h : (openManager path).perform s = (.ok wasOpen, t)) : Open path t := by
  obtain ⟨files, link, looked, notes, hconnect, hrefresh, herror, rfl⟩ :=
    open_manager_ok hshared h
  obtain ⟨hidle, hmigrated, hplace⟩ := looked_idle hconnect hrefresh
  have hbacking : looked.migrated.backing = looked.backing := rfl
  have hshown := Session.refresh_kept { s with files, shared := some ⟨path, some link⟩ }
    (refresh_refresh hrefresh) hbacking hidle hmigrated hplace
  refine ⟨looked.migrated, Session.kept_shared _ _ _, hshown, ?_⟩
  obtain ⟨backing, db, working⟩ := looked
  obtain rfl : working = none := hidle
  rw [Link.migrated, shipped_ends]
  exact brought_version herror

/-- With nothing shared, an opening connects to its path and brings the database there up to
date, or it fails and stands in the way of every other until it is closed. -/
theorem open_settles {s : Session} (hshared : s.shared = none) (path : Path) :
    (∃ t, (openManager path).perform s = (.ok false, t) ∧ Open path t) ∨
      ∃ failure t, (openManager path).perform s = (.error failure, t) ∧ Blocked path s t := by
  have hopens := open_manager_opens hshared path
  rcases hopen : (openManager path).perform s with ⟨failure | wasOpen, t⟩
  · exact .inr ⟨failure, t, rfl, open_failed hshared hopen⟩
  · rw [hopen] at hopens
    cases hopens with
    | through => exact .inl ⟨t, rfl, open_through hshared hopen⟩

def fileForFolder : Session := { files := ⟨[(["a"], .text "x")]⟩ }

def underFile : Path := ⟨"", ["a", "known.db"]⟩

/-- The folder cannot be made, so the connection that is shared is none. -/
theorem file_for_folder_settles :
    fileForFolder.shared = none ∧
      ∃ failure t, (openManager underFile).perform fileForFolder = (.error failure, t) ∧
        Blocked underFile fileForFolder t := by
  have hfails : ((openManager underFile).perform fileForFolder).1.isOk = false := by decide +kernel
  rcases open_settles (rfl : fileForFolder.shared = none) underFile with ⟨t, hopen, -⟩ | hblocked
  · rw [hopen] at hfails
    cases hfails
  · exact ⟨rfl, hblocked⟩

def throughNew : Path := ⟨"", ["x", "..", "a", "known.db"]⟩

def newFolder : Path := ⟨"", ["x"]⟩

/-- The next opening is not one of its own path: it is given what has failed. Once that is closed,
folders that the failure has left may still be in the way. -/
theorem file_for_folder_shared :
    (¬ ∀ (s t u : Session) (path other : Path) (failure : Failure) (wasOpen : Bool),
      s.shared = none → (openManager path).perform s = (.error failure, t) →
        (openManager other).perform t = (.ok wasOpen, u) → Open other u) ∧
    ¬ ∀ (s t : Session) (path other : Path) (failure : Failure),
      s.shared = none → (openManager path).perform s = (.error failure, t) →
        ((openManager other).perform (closeManager.run t).2).1.isOk =
          ((openManager other).perform s).1.isOk := by
  constructor
  · intro hall
    have hfails : ((openManager underFile).perform fileForFolder).1.isOk = false := by
      decide +kernel
    have hshared : ((openManager underFile).perform fileForFolder).2.shared =
        some ⟨underFile, none⟩ := by decide +kernel
    rcases hopen : (openManager underFile).perform fileForFolder with ⟨failure | wasOpen, t⟩
    · rw [hopen] at hshared
      have hnext := open_manager_again (Option.isSome_of_eq_some hshared) ⟨"", ["other.db"]⟩
      obtain ⟨link, hlink, -⟩ := hall _ t t _ _ failure true rfl hopen hnext
      rw [hshared] at hlink
      simp [underFile] at hlink
    · rw [hopen] at hfails
      cases hfails
  · intro hall
    have hfails : ((openManager throughNew).perform fileForFolder).1.isOk = false := by
      decide +kernel
    have hlater : ((openManager newFolder).perform (closeManager.run
        ((openManager throughNew).perform fileForFolder).2).2).1.isOk = false := by
      decide +kernel
    have hbefore : ((openManager newFolder).perform fileForFolder).1.isOk = true := by
      decide +kernel
    rcases hopen : (openManager throughNew).perform fileForFolder with ⟨failure | wasOpen, t⟩
    · rw [hopen] at hlater
      have hsame := hall _ t _ newFolder failure rfl hopen
      rw [hlater, hbefore] at hsame
      cases hsame
    · rw [hopen] at hfails
      cases hfails

end FileSearch.History
