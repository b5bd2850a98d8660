import FileSearch.Proofs.History.Lasting
import Mathlib.Algebra.Group.Int.Defs

/-!
# Durability

A history in a file is opened, used, closed and opened again, in any order, and each use may
fail. What its file holds are the rows of the last batch that was tracked to its end. Rows
of a batch that fails are seen until the connection is closed; a later batch that is tracked
to its end saves them with its own, and otherwise they are lost.
-/

set_option autoImplicit false

namespace FileSearch.History

inductive Use where
  | opens
  | tracks (hits : List Hit)
  | searches (query : String) (extension : Option String)
  | counts
  | closes

namespace Use

def apply (path : Path) (s : Session) : Use → Session
  | .opens => ((openAt path).perform s).2
  | .tracks hits => ((track hits).perform s).2
  | .searches query extension => ((search query extension).perform s).2
  | .counts => (count.perform s).2
  | .closes => (closeManager.run s).2

def saves (s : Session) : Use → Bool
  | .opens => s.shared.isNone
  | .tracks hits => !hits.isEmpty && ((track hits).perform s).1.isOk
  | _ => false

def onlyReads (s : Session) : Use → Bool
  | .opens => s.shared.isSome
  | .tracks hits => hits.isEmpty
  | .searches _ _ => true
  | .counts => true
  | .closes => false

end Use

def useAll (path : Path) : List (Int × Use) → Session → Session
  | [], s => s
  | (now, use) :: rest, s => useAll path rest (use.apply path { s with now })

def saved (path : Path) : List (Int × Use) → Session → Except Failure (List Row) →
    Except Failure (List Row)
  | [], _, rows => rows
  | (now, use) :: rest, s, rows =>
    let t := use.apply path { s with now }
    saved path rest t (if use.saves { s with now } then visible t else rows)

def Database.rows (db : Database) : Except Failure (List Row) :=
  db.known.mapError fun e => .history (.data e)

/-- The connection of the store reads and writes the file. It agrees with the file on what is
committed, whatever an open transaction has changed. -/
structure Linked (path : Path) (db : Database) (s : Session) (place : Files.Place)
    (working : Option Database) : Prop where
  located : s.files.locate path = .ok place
  entry : s.files.entry? place = some (.database db)
  attached : s.attached = true
  shared : ∃ opened, s.shared = some ⟨opened, some ⟨.file place, ⟨db, working⟩⟩⟩
  version : ∀ w, working = some w → 1 ≤ w.version

structure Durable (path : Path) (db : Database) (s : Session) : Prop where
  lasting : Lasting path db s.files
  connection : s.shared = none ∨ ∃ place working, Linked path db s place working

section
variable {path : Path} {db : Database} {s t : Session} {place : Files.Place}
  {working : Option Database}

theorem linked_seen (h : Linked path db s place working) :
    s.seen = .ok ⟨.file place, ⟨db, working⟩⟩ := by
  obtain ⟨opened, hshared⟩ := h.shared
  rw [Session.seen_eq h.attached hshared]
  exact refresh_held h.entry

theorem linked_same (h : Linked path db s place working) :
    s.withLink ⟨.file place, ⟨db, working⟩⟩ = s := by
  obtain ⟨opened, hshared⟩ := h.shared
  obtain ⟨files, now, notes, shared, attached⟩ := s
  cases hshared
  rfl

theorem closed_seen (h : s.shared = none) : s.seen = .error .closed := by
  rw [Session.seen, h]
  cases s.attached <;> rfl

/-- Reading leaves nothing but log records. -/
theorem durable_quiet (h : Durable path db s) (hquiet : s.Quiet t) :
    ∃ notes, t = s.withNotes notes := by
  cases hquiet with
  | noted notes => exact ⟨notes, rfl⟩
  | looked hlink notes =>
    rcases h.connection with hclosed | ⟨place, working, hlinked⟩
    · rw [closed_seen hclosed] at hlink
      cases hlink
    · rw [linked_seen hlinked] at hlink
      cases hlink
      exact ⟨notes, by rw [linked_same hlinked]⟩

theorem durable_elsewhere (h : Durable path db s) (hfiles : t.files = s.files)
    (hshared : t.shared = s.shared) (hattached : t.attached = s.attached) :
    Durable path db t := by
  refine ⟨hfiles ▸ h.lasting, ?_⟩
  rcases h.connection with hclosed | ⟨place, working, hlinked⟩
  · exact .inl (hshared.trans hclosed)
  · exact .inr ⟨place, working, hfiles ▸ hlinked.located, hfiles ▸ hlinked.entry,
      hattached.trans hlinked.attached, hshared ▸ hlinked.shared, hlinked.version⟩

theorem open_store_durable (hlasting : Lasting path db s.files)
    (hplace : s.files.locate path = .ok place)
    (hentry : s.files.entry? place = some (.database db))
    (hshared : s.shared = some ⟨path, some ⟨.file place, ⟨db, none⟩⟩⟩) :
    ∃ t, openStore.perform s = (.ok (), t) ∧ Durable path db t ∧ visible t = db.rows := by
  refine ⟨_, open_store_perform hshared, ?_⟩
  have hlinked : Linked path db ((s.withNotes
      (s.notes ++ [⟨Log.debug, "Initializing KnownHitStore"⟩])).attach) place none :=
    ⟨hplace, hentry, rfl, ⟨path, hshared⟩, nofun⟩
  refine ⟨⟨hlasting, .inr ⟨place, none, hlinked⟩⟩, ?_⟩
  rw [visible, linked_seen hlinked]
  rfl

theorem open_lasting (hshared : s.shared = none) (h : Lasting path db s.files) :
    ∃ t, (openAt path).perform s = (.ok (), t) ∧ Durable path db t ∧ visible t = db.rows := by
  obtain ⟨place, notes, hplace, hentry, hopen⟩ := open_manager_lasting hshared h
  rw [openAt, Action.perform_bind, hopen]
  exact open_store_durable h hplace hentry rfl

theorem open_again (h : Linked path db s place working) :
    ∃ notes, (openAt path).perform s = (.ok (), s.withNotes notes) := by
  obtain ⟨opened, hshared⟩ := h.shared
  have hmanager : (openManager path).perform s = (.ok true, s) := by
    rw [openManager, Action.perform_bind, Action.perform_get]
    simp only [hshared, Option.isSome_some, if_true]
    rfl
  refine ⟨s.notes ++ [⟨Log.debug, "Initializing KnownHitStore"⟩], ?_⟩
  rw [openAt, Action.perform_bind, hmanager]
  simp only [open_store_perform hshared]
  obtain ⟨files, now, notes, shared, attached⟩ := s
  obtain rfl : attached = true := h.attached
  rfl

theorem open_durable (hshared : s.shared = none) (hfile : path.text ≠ Link.memoryName)
    (h : (openAt path).perform s = (.ok (), t)) :
    ∃ db, Durable path db t ∧ visible t = db.rows := by
  obtain ⟨wasOpen, m, hmanager, hstore⟩ := Action.perform_bind_ok h
  obtain ⟨made, place, db, hopened⟩ := open_manager_opened hshared hfile hmanager
  have hlasting : Lasting path db.brought m.files := opened_lasting hfile hopened
  have hlocated : m.files.locate path = .ok place :=
    Files.locate_kept (fun _ => opened_folders hopened) hopened.located
  obtain ⟨u, hu, hdurable, hrows⟩ :=
    open_store_durable hlasting hlocated hopened.entry hopened.shared
  rw [hu] at hstore
  cases hstore
  exact ⟨db.brought, hdurable, hrows⟩

theorem connection_batch {c : Connection} {now : Int} {batch : List Sighting}
    {rows later : List Row} {complete : Bool} (hknown : c.current.known = .ok rows)
    (hall : recordAll now batch rows = (later, complete)) :
    let db := c.current.put knownName (.known later)
    c.track now batch =
      .ok (if complete then ⟨db, none⟩ else ⟨c.committed, some db⟩, complete) := by
  intro db
  rw [Connection.track, hknown]
  simp only [bind, Except.bind, hall]
  rfl

theorem track_unseen {e : Failure} (h : visible s = .error e) (hit : Hit) (hits : List Hit) :
    ∃ t, (track (hit :: hits)).perform s = (.error e, t) ∧ s.Quiet t := by
  rw [track, if_neg (by simp), Action.perform_bind, use_link_perform]
  rw [visible] at h
  cases hseen : s.seen with
  | error refusal =>
    rw [hseen] at h
    cases h
    exact ⟨s, rfl, s.quiet_refl⟩
  | ok link =>
    rw [hseen] at h
    refine ⟨s.withLink link, ?_, .looked hseen s.notes⟩
    cases hknown : link.connection.current.known with
    | ok rows =>
      simp only [hknown] at h
      cases h
    | error cause =>
      simp only [hknown] at h
      cases h
      have htrack : link.connection.track s.now ((hit :: hits).map Sighting.ofHit) =
          .error cause := by
        rw [Connection.track, hknown]
        rfl
      simp only
      rw [Action.perform_bind, Action.perform_get]
      simp only [Session.link_now, htrack]
      rfl

theorem linked_kept (h : Linked path db s place working) (hlasting : Lasting path db s.files)
    (db' : Database) (working' : Option Database) (hversion : 1 ≤ db'.version)
    (hworking : ∀ w, working' = some w → 1 ≤ w.version) :
    let t := s.kept ⟨.file place, ⟨db, working⟩⟩ ⟨.file place, ⟨db', working'⟩⟩
    Lasting path db' t.files ∧ Linked path db' t place working' := by
  intro t
  have hheld : Link.Held s.files ⟨.file place, ⟨db, working⟩⟩ := h.entry
  obtain ⟨hentry, halike⟩ := held_kept hheld ⟨.file place, ⟨db', working'⟩⟩ rfl
  have hlocated : t.files.locate path = .ok place := by
    rw [Files.alike_locate halike]
    exact h.located
  obtain ⟨opened, hshared⟩ := h.shared
  refine ⟨⟨hlasting.inFile, ?_, Files.find_ok_iff.2 ⟨place, hlocated, hentry⟩, hversion⟩,
    hlocated, hentry, ?_, ⟨opened, ?_⟩, hworking⟩
  · obtain ⟨above, habove, hfolder⟩ := Files.find_ok_iff.1 hlasting.folder
    refine Files.find_ok_iff.2 ⟨above, (Files.alike_locate halike _).trans habove, ?_⟩
    rcases halike above with hsame | ⟨before, after, hbefore, -⟩
    · exact hsame.trans hfolder
    · rw [hfolder] at hbefore
      cases hbefore
  · exact (Session.kept_attached _ _ _).trans h.attached
  · rw [Session.kept_shared, hshared]
    rfl

/-- A batch that finds rows goes to the file if it is tracked to its end, along with what the
open transaction has; otherwise the file stays, and the transaction has the rows so far. -/
theorem track_seen {rows : List Row} (h : Durable path db s) (hrows : visible s = .ok rows)
    (hit : Hit) (hits : List Hit) :
    (∃ db' t, (track (hit :: hits)).perform s = (.ok (), t) ∧ Durable path db' t ∧
        visible t = db'.rows) ∨
      ∃ t, (track (hit :: hits)).perform s = (.error (.history .tooLarge), t) ∧
        Durable path db t := by
  rcases h.connection with hclosed | ⟨place, working, hlinked⟩
  · rw [visible, closed_seen hclosed] at hrows
    cases hrows
  have hseen := linked_seen hlinked
  have hknown : (Connection.current ⟨db, working⟩).known = .ok rows := (visible_iff hseen).1 hrows
  have hcurrent : 1 ≤ (Connection.current ⟨db, working⟩).version := by
    cases working with
    | none => exact h.lasting.version
    | some w => exact hlinked.version w rfl
  have hplace : Link.isInPlace s.files ⟨.file place, ⟨db, working⟩⟩ = true :=
    held_in_place hlinked.entry
  rcases hall : recordAll s.now ((hit :: hits).map Sighting.ofHit) rows with ⟨later, complete⟩
  have htrack := track_perform hseen hplace (connection_batch hknown hall)
  rw [linked_same hlinked] at htrack
  cases complete with
  | true =>
    left
    obtain ⟨hlasting, hlinked'⟩ := linked_kept hlinked h.lasting
      ((Connection.current ⟨db, working⟩).put knownName (.known later)) none hcurrent (by simp)
    refine ⟨_, _, htrack,
      durable_elsewhere ⟨hlasting, .inr ⟨place, none, hlinked'⟩⟩ rfl rfl rfl, ?_⟩
    rw [visible, Session.seen_notes]
    simp only [if_true, linked_seen hlinked']
    rfl
  | false =>
    right
    obtain ⟨hlasting, hlinked'⟩ := linked_kept hlinked h.lasting db
      (some ((Connection.current ⟨db, working⟩).put knownName (.known later))) h.lasting.version
      fun w hw => Option.some.inj hw ▸ hcurrent
    exact ⟨_, htrack, hlasting, .inr ⟨place, _, hlinked'⟩⟩

/-- A use that saves shows what it has saved, and any other one leaves the file alone. -/
theorem use_durable (h : Durable path db s) (use : Use) :
    ∃ db', Durable path db' (use.apply path s) ∧
      (use.saves s = true → visible (use.apply path s) = db'.rows) ∧
      (use.saves s = false → db' = db) := by
  have hread {t : Session} (hquiet : s.Quiet t) : Durable path db t := by
    obtain ⟨notes, rfl⟩ := durable_quiet h hquiet
    exact durable_elsewhere h rfl rfl rfl
  cases use with
  | opens =>
    rcases h.connection with hclosed | ⟨place, working, hlinked⟩
    · obtain ⟨t, hopen, hdurable, hrows⟩ := open_lasting hclosed h.lasting
      simp only [Use.apply, hopen]
      exact ⟨db, hdurable, fun _ => hrows, fun _ => rfl⟩
    · obtain ⟨opened, hshared⟩ := hlinked.shared
      obtain ⟨notes, hopen⟩ := open_again hlinked
      simp only [Use.apply, Use.saves, hopen, hshared]
      exact ⟨db, hread (.noted notes), nofun, fun _ => rfl⟩
  | tracks hits =>
    cases hits with
    | nil => exact ⟨db, h, nofun, fun _ => rfl⟩
    | cons hit hits =>
      cases hrows : visible s with
      | error e =>
        obtain ⟨t, htrack, hquiet⟩ := track_unseen hrows hit hits
        simp only [Use.apply, Use.saves, htrack]
        exact ⟨db, hread hquiet, nofun, fun _ => rfl⟩
      | ok rows =>
        rcases track_seen h hrows hit hits with
          ⟨db', t, htrack, hdurable, hsaved⟩ | ⟨t, htrack, hdurable⟩
        · simp only [Use.apply, Use.saves, htrack]
          exact ⟨db', hdurable, fun _ => hsaved, nofun⟩
        · simp only [Use.apply, Use.saves, htrack]
          exact ⟨db, hdurable, nofun, fun _ => rfl⟩
  | searches query extension =>
    exact ⟨db, hread (search_perform query extension s).2, nofun, fun _ => rfl⟩
  | counts => exact ⟨db, hread (count_perform s).2, nofun, fun _ => rfl⟩
  | closes => exact ⟨db, ⟨h.lasting, .inl rfl⟩, nofun, fun _ => rfl⟩

/-- By induction on the uses: the file holds the rows that were last saved. -/
theorem use_all_durable (h : Durable path db s) (uses : List (Int × Use)) :
    ∃ db', Durable path db' (useAll path uses s) ∧ saved path uses s db.rows = db'.rows := by
  induction uses generalizing s db with
  | nil => exact ⟨db, h, rfl⟩
  | cons first rest ih =>
    obtain ⟨now, use⟩ := first
    have hnow : Durable path db { s with now } := durable_elsewhere h rfl rfl rfl
    obtain ⟨db', hdurable, hsaves, hleaves⟩ := use_durable hnow use
    have hrows : (if use.saves { s with now } then visible (use.apply path { s with now })
        else db.rows) = db'.rows := by
      cases hcase : use.saves { s with now } with
      | true => exact hsaves hcase
      | false => rw [hleaves hcase, if_neg (by simp)]
    rw [useAll, saved, hrows]
    exact ih hdurable

theorem only_reads_quiet (h : Durable path db s) {use : Use} (hreads : use.onlyReads s = true) :
    ∃ notes, use.apply path s = s.withNotes notes := by
  cases use with
  | opens =>
    rcases h.connection with hclosed | ⟨place, working, hlinked⟩
    · rw [Use.onlyReads, hclosed] at hreads
      cases hreads
    · obtain ⟨notes, hopen⟩ := open_again hlinked
      exact ⟨notes, by rw [Use.apply, hopen]⟩
  | tracks hits =>
    obtain rfl : hits = [] := List.isEmpty_iff.1 hreads
    exact ⟨s.notes, rfl⟩
  | searches query extension => exact durable_quiet h (search_perform query extension s).2
  | counts => exact durable_quiet h (count_perform s).2
  | closes => cases hreads

/-- However a history has been used since it was opened, it can be opened once more when it is
closed, and shows the rows that were seen right after the last use that saves. Uses that
only read change nothing but the log. -/
theorem reopened_saved {opened : Session} (hshared : s.shared = none)
    (hfile : path.text ≠ Link.memoryName) (hopen : (openAt path).perform s = (.ok (), opened))
    (uses : List (Int × Use)) :
    let last := useAll path uses opened
    (∀ later : Session, later.shared = none → later.files = last.files →
      ∃ reopened, (openAt path).perform later = (.ok (), reopened) ∧
        visible reopened = saved path uses opened (visible opened)) ∧
    ∀ use : Use, use.onlyReads last = true →
      ∃ notes, use.apply path last = last.withNotes notes := by
  obtain ⟨db, hdurable, hrows⟩ := open_durable hshared hfile hopen
  obtain ⟨db', hlast, hsaved⟩ := use_all_durable hdurable uses
  refine ⟨fun later hclosed hfiles => ?_, fun use hreads => only_reads_quiet hlast hreads⟩
  obtain ⟨reopened, hreopen, -, hseen⟩ := open_lasting hclosed (hfiles ▸ hlast.lasting)
  exact ⟨reopened, hreopen, by rw [hseen, hrows, hsaved]⟩

end

def interrupted : List (Int × Use) :=
  let huge : Hit := ⟨"h", 2 ^ 63, "huge", 1, []⟩
  [(1, .tracks [⟨"h", 7, "a", 2, []⟩]), (2, .tracks [⟨"h", 7, "b", 1, []⟩, huge]), (3, .counts),
   (4, .opens), (5, .tracks [⟨"h", 7, "a", 4, []⟩]), (6, .tracks [⟨"h", 7, "c", 1, []⟩, huge]),
   (7, .tracks []), (8, .searches "c" none), (9, .closes)]

def emptyHistory : Session := ((openAt ⟨"", ["known.db"]⟩).perform {}).2

theorem interrupted_saved :
    ({} : Session).shared = none ∧ Path.text ⟨"", ["known.db"]⟩ ≠ Link.memoryName ∧
      (openAt ⟨"", ["known.db"]⟩).perform {} = (.ok (), emptyHistory) ∧
      ∃ reopened,
        (openAt ⟨"", ["known.db"]⟩).perform (useAll ⟨"", ["known.db"]⟩ interrupted emptyHistory) =
          (.ok (), reopened) ∧
        visible reopened = .ok [⟨⟨"h", 7, "a"⟩, 4, 1, 5⟩, ⟨⟨"h", 7, "b"⟩, 1, 2, 2⟩] := by
  have hfile : Path.text ⟨"", ["known.db"]⟩ ≠ Link.memoryName := by decide
  have hopen : (openAt ⟨"", ["known.db"]⟩).perform {} = (.ok (), emptyHistory) :=
    Prod.ext (by decide +kernel) rfl
  obtain ⟨hreopen, -⟩ := reopened_saved rfl hfile hopen interrupted
  obtain ⟨reopened, hagain, hrows⟩ := hreopen _ (by decide +kernel) rfl
  refine ⟨rfl, hfile, hopen, reopened, hagain, hrows.trans ?_⟩
  decide +kernel

end FileSearch.History
