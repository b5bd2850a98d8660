import FileSearch.Proofs.Files.Texts
import FileSearch.Proofs.Search.Repeating
import FileSearch.Proofs.Search.Storage

/-!
# What a search does to texts

The history is the only file that a search changes, and it is no text: a connection looks at its
file before it writes there, and a text that could not be a database is refused. So opening the
history and searching keep all texts, whatever path the history is given.
-/

set_option autoImplicit false

namespace FileSearch

namespace Session

structure Keeps (own : Files.Place → Prop) (s t : Session) : Prop where
  files : Files.Keeps own s.files t.files
  time : t.time = s.time

section
variable {own : Files.Place → Prop} {s t u : Session}

theorem keeps_refl (own : Files.Place → Prop) (s : Session) : Keeps own s s :=
  ⟨Files.keeps_refl own s.files, rfl⟩

theorem keeps_trans (h : Keeps own s t) (h' : Keeps own t u) : Keeps own s u :=
  ⟨Files.keeps_trans h.files h'.files, h'.time.trans h.time⟩

theorem keeps_same (hfiles : t.files = s.files) (htime : t.time = s.time) : Keeps own s t :=
  ⟨hfiles ▸ Files.keeps_refl own s.files, htime⟩

theorem keeps_quiet (h : s.Quiet t) : Keeps own s t :=
  keeps_same (quiet_files h) (History.quiet_time h)

end

end Session

namespace History

section
variable {own : Files.Place → Prop} {files later : Files} {s t : Session} {path : Path}
  {link looked after : Link}

theorem refresh_no_text {place : Files.Place} (hidle : looked.connection.working = none)
    (hbacking : looked.backing = .file place) (h : looked.refresh files = .ok looked) :
    files.entry? place ≠ some .folder ∧
      ∀ content, files.entry? place = some (.text content) →
        content.utf8ByteSize < Link.signatureLength := by
  obtain ⟨backing, committed, working⟩ := looked
  cases hbacking
  cases hidle
  simp only [Link.refresh, Link.stored] at h
  constructor
  · intro hfolder
    rw [hfolder] at h
    cases h
  · intro content htext
    by_contra hlong
    rw [htext] at h
    simp only [if_neg hlong] at h
    cases h

theorem save_keeps (hidle : looked.connection.working = none)
    (hlooked : looked.refresh files = .ok looked) (hbacking : after.backing = looked.backing) :
    Files.Keeps own files (after.save files) := by
  cases hfile : after.backing with
  | memory =>
    rw [Link.save, hfile]
    exact Files.keeps_refl _ _
  | file place =>
    simp only [Link.save, hfile]
    split
    · obtain ⟨hfolder, hshort⟩ := refresh_no_text hidle (hbacking.symm.trans hfile) hlooked
      exact Files.keeps_database hfolder hshort _
    · exact Files.keeps_refl _ _

theorem kept_keeps (hidle : looked.connection.working = none)
    (hlooked : looked.refresh s.files = .ok looked) (hbacking : after.backing = looked.backing) :
    s.Keeps own (s.kept looked after) := by
  rw [Session.kept]
  split
  · exact Session.keeps_same rfl rfl
  · exact ⟨save_keeps hidle hlooked hbacking, rfl⟩

theorem connect_keeps {r : Except Refusal Link} (h : Link.connect files path = (later, r)) :
    Files.Keeps own files later := by
  rcases connect_made h with hmore | ⟨made, place, hmore, hnone, rfl, -⟩
  · exact Files.keeps_more_folders hmore
  · refine Files.keeps_trans (Files.keeps_more_folders hmore)
      (Files.keeps_database (by simp [hnone]) ?_ _)
    intro content htext
    cases hnone.symm.trans htext

theorem migrate_keeps (hidle : link.connection.working = none) (s : Session) :
    s.Keeps own ((migrate link).perform s).2 := by
  rw [migrate_perform]
  cases hrefresh : link.refresh s.files with
  | error refusal => exact Session.keeps_refl _ _
  | ok looked =>
    have hkept : s.Keeps own (s.kept looked looked.migrated) :=
      kept_keeps (refresh_idle hidle hrefresh) (refresh_refresh hrefresh) rfl
    exact Session.keeps_trans hkept (Session.keeps_same rfl rfl)

theorem open_manager_keeps (hshared : s.shared = none)
    (own : Files.Place → Prop) (path : Path) : s.Keeps own ((openManager path).perform s).2 := by
  have hmigrated {files : Files} {link : Link} {result : Except Failure Unit} {t : Session}
      (hconnect : Link.connect s.files path = (files, .ok link))
      (hmigrate : (migrate link).perform { s with files, shared := some ⟨path, some link⟩ } =
        (result, t)) : s.Keeps own t := by
    let connected : Session := { s with files, shared := some ⟨path, some link⟩ }
    have hconnected : s.Keeps own connected := ⟨connect_keeps hconnect, rfl⟩
    have hkeeps : connected.Keeps own ((migrate link).perform connected).2 :=
      migrate_keeps (by rw [connect_new hconnect]) connected
    rw [hmigrate] at hkeeps
    exact Session.keeps_trans hconnected hkeeps
  have hopens := open_manager_opens hshared path
  generalize (openManager path).perform s = opened at hopens ⊢
  cases hopens with
  | unconnected hconnect => exact ⟨connect_keeps hconnect, rfl⟩
  | unmigrated hconnect hmigrate => exact hmigrated hconnect hmigrate
  | through hconnect hmigrate => exact hmigrated hconnect hmigrate

def Idle (s : Session) : Prop := ∀ link, s.seen = .ok link → link.connection.working = none

theorem quiet_idle (h : s.Quiet t) (hidle : Idle s) : Idle t := by
  rw [Idle, Session.quiet_seen h]
  exact hidle

theorem track_keeps (hidle : Idle s) (own : Files.Place → Prop) (hits : List Hit) :
    s.Keeps own ((track hits).perform s).2 := by
  cases hits with
  | nil => exact Session.keeps_refl _ _
  | cons hit hits =>
    rw [track, if_neg (by simp), Action.perform_bind, use_link_perform]
    cases hseen : s.seen with
    | error refusal => exact Session.keeps_refl _ _
    | ok link =>
      have hlooked : s.Keeps own (s.withLink link) := Session.keeps_same rfl rfl
      simp only
      rw [Action.perform_bind, Action.perform_get]
      simp only [Session.link_now]
      rcases link.connection.track s.now ((hit :: hits).map Sighting.ofHit) with
        cause | ⟨connection, complete⟩
      · exact hlooked
      · dsimp only
        by_cases hwritable : (!link.isWritable (s.withLink link).files) = true
        · rw [if_pos hwritable]
          exact Session.keeps_same rfl rfl
        · rw [if_neg hwritable, Action.perform_bind, keep_link_perform]
          have hkept : (s.withLink link).Keeps own
              ((s.withLink link).kept link { link with connection }) :=
            kept_keeps (hidle link hseen) (Session.seen_refresh (seen_link hseen)) rfl
          cases complete with
          | false => exact Session.keeps_trans hlooked hkept
          | true =>
            exact Session.keeps_trans (Session.keeps_trans hlooked hkept)
              (Session.keeps_same rfl rfl)

end

end History

namespace Search

open History

variable {config : Config} {s t : Session}

theorem open_store_keeps (own : Files.Place → Prop) (s : Session) :
    s.Keeps own (openStore.perform s).2 := by
  obtain ⟨files, now, notes, shared, attached⟩ := s
  rcases shared with _ | ⟨path, _ | link⟩
  all_goals exact Session.keeps_same rfl rfl

theorem open_storage_keeps (hshared : s.shared = none) (own : Files.Place → Prop)
    (config : Config) : s.Keeps own ((openStorage config).perform s).2 := by
  cases henabled : config.storageEnabled with
  | false =>
    rw [openStorage, henabled]
    exact Session.keeps_refl _ _
  | true =>
    have hmanager := open_manager_keeps hshared own (.ofString config.databasePath)
    rcases hopen : (openManager (.ofString config.databasePath)).perform s with ⟨e | wasOpen, m⟩
    · rw [hopen] at hmanager
      rw [openStorage, henabled]
      simp only [Bool.not_true, Bool.false_eq_true, if_false]
      rw [Action.perform_bind, hopen]
      exact hmanager
    · rw [hopen] at hmanager
      obtain ⟨notes, hperform⟩ := open_storage_perform henabled hopen
      rw [hperform]
      have hnoted : m.Keeps own (m.withNotes notes) := Session.keeps_same rfl rfl
      exact Session.keeps_trans hmanager (Session.keeps_trans hnoted (open_store_keeps own _))

theorem open_storage_idle {hasStore : Bool} (hshared : s.shared = none)
    (hattached : s.attached = false)
    (h : (openStorage config).perform s = (.ok hasStore, t)) : Idle t := by
  intro seen hseen
  cases henabled : config.storageEnabled with
  | false =>
    rw [openStorage, henabled] at h
    cases h
    have hon := (Session.seen_attached hseen).1
    rw [hattached] at hon
    cases hon
  | true =>
    obtain ⟨-, wasOpen, m, notes, hmanager, rfl⟩ := open_storage_ok henabled h
    obtain ⟨files, link, looked, notes', hconnect, hrefresh, -, rfl⟩ :=
      open_manager_ok hshared hmanager
    rw [Session.seen_eq rfl (Session.kept_shared _ _ _)] at hseen
    exact refresh_idle (looked_idle hconnect hrefresh).2.1 hseen

theorem record_keeps (hidle : Idle s) (own : Files.Place → Prop) (recorder : Recorder)
    (hits : List Hit) : s.Keeps own ((recorder.record hits).perform s).2 := by
  cases recorder with
  | nothing => exact Session.keeps_refl _ _
  | list kept => exact Session.keeps_refl _ _
  | history =>
    rw [Service.record_history]
    exact track_keeps hidle own hits

theorem search_keeps {service : Service}
    (hnames : ∀ source ∈ service.sources, source.name?.isSome) (hidle : Idle s)
    (own : Files.Place → Prop) (query : String) (extension : Option String)
    (finishing : Finishing) :
    s.Keeps own ((service.search query extension finishing).run s).2 := by
  rcases Service.search_calls query extension s service finishing hnames with
    hquiet | ⟨m, hits, hquiet, hrecord⟩
  · exact Session.keeps_quiet hquiet
  · have hkeeps : s.Keeps own ((service.recorder.record hits).perform m).2 :=
      Session.keeps_trans (Session.keeps_quiet hquiet)
        (record_keeps (quiet_idle hquiet hidle) own service.recorder hits)
    rcases hperform : (service.recorder.record hits).perform m with ⟨failure | recorder, u⟩
    · rw [hperform] at hrecord hkeeps
      rw [hrecord.2]
      exact hkeeps
    · rw [hperform] at hrecord hkeeps
      obtain ⟨-, notes, hlast⟩ := hrecord
      rw [hlast]
      exact Session.keeps_trans hkeeps (Session.keeps_same rfl rfl)

end Search

end FileSearch
