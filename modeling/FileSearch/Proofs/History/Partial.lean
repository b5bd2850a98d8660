import FileSearch.Proofs.History.Durable
import FileSearch.Proofs.History.Overwriting
import Mathlib.Data.List.TakeWhile

/-!
# Batches that fail

A batch is one statement to its caller and many to the database. Where a hit does not fit, those in
front of it are written, and nothing takes them back: the store shows them from then on, and the
next batch that is tracked to its end saves them with its own. Only closing drops them.
-/

set_option autoImplicit false

namespace FileSearch.History

def fitting (hit : Hit) : Bool := (Sighting.ofHit hit).fits

def accepted (hits : List Hit) : List Hit := hits.takeWhile fitting

def written (now : Int) (hits : List Hit) (rows : List Row) : List Row :=
  hits.foldl (fun rows hit => upsert now (Sighting.ofHit hit).key hit.sources rows) rows

theorem record_written (now : Int) (hits : List Hit) (rows : List Row) :
    recordAll now (hits.map Sighting.ofHit) rows =
      (written now (accepted hits) rows, hits.all fitting) := by
  induction hits generalizing rows with
  | nil => rfl
  | cons hit hits ih =>
    rw [List.map_cons, recordAll, accepted, List.takeWhile_cons, List.all_cons]
    change (if fitting hit = true then _ else _) = _
    cases fitting hit with
    | false => rfl
    | true =>
      rw [if_pos rfl, if_pos rfl, ih, Bool.true_and]
      rfl

theorem accepted_all {hits : List Hit} (h : hits.all fitting = true) : accepted hits = hits :=
  List.takeWhile_eq_self_iff.2 (List.all_eq_true.1 h)

section
variable {s t : Session} {hits : List Hit} {failure : Failure}

theorem working_seen {link : Link} (h : s.seen = .ok link) (committed working : Database) :
    (s.withLink ⟨link.backing, ⟨committed, some working⟩⟩).seen =
      .ok ⟨link.backing, ⟨committed, some working⟩⟩ := by
  obtain ⟨hattached, path, l, hshared⟩ := Session.seen_attached h
  have hattached' : (s.withLink ⟨link.backing, ⟨committed, some working⟩⟩).attached = true :=
    hattached
  have hshared' : (s.withLink ⟨link.backing, ⟨committed, some working⟩⟩).shared =
      some ⟨path, some ⟨link.backing, ⟨committed, some working⟩⟩⟩ := by
    rw [Session.withLink, hshared]
    rfl
  rw [Session.seen_eq hattached' hshared']
  cases link.backing <;> rfl

theorem working_visible {link : Link} (h : s.seen = .ok link) {committed working : Database}
    {rows : List Row} (hknown : working.known = .ok rows) :
    visible (s.withLink ⟨link.backing, ⟨committed, some working⟩⟩) = .ok rows :=
  (visible_iff (working_seen h committed working)).2 hknown

theorem stored_refusal {files : Files} {place : Files.Place} {refusal : Refusal}
    (h : Link.stored files place = .error refusal) : refusal ≠ .tooLarge := by
  rintro rfl
  rw [Link.stored] at h
  split at h
  · cases h
  · split at h <;> cases h
  · cases h
  · cases h

theorem refresh_refusal {files : Files} {link : Link} {refusal : Refusal}
    (h : link.refresh files = .error refusal) : refusal ≠ .tooLarge := by
  obtain ⟨_ | place, committed, _ | working⟩ := link
  · cases h
  · cases h
  · cases hstored : Link.stored files place with
    | error cause =>
      simp only [Link.refresh, hstored, bind, Except.bind, Except.error.injEq] at h
      exact h ▸ stored_refusal hstored
    | ok found =>
      simp only [Link.refresh, hstored, bind, Except.bind] at h
      cases found <;> cases h
  · cases h

theorem seen_refusal {refusal : Refusal} (h : s.seen = .error refusal) : refusal ≠ .tooLarge := by
  rw [Session.seen] at h
  split at h
  · exact refresh_refusal h
  · cases h
    decide

/-- A batch that fails leaves the file alone. If a hit does not fit, the store sees the hits in
front of it from then on, and otherwise nothing new. -/
theorem track_failed (h : (track hits).perform s = (.error failure, t)) :
    t.files = s.files ∧
      ((failure = .history .tooLarge ∧ hits.all fitting = false ∧
        ∃ rows, visible s = .ok rows ∧ visible t = .ok (written s.now (accepted hits) rows)) ∨
      (failure ≠ .history .tooLarge ∧ visible t = visible s)) := by
  cases hits with
  | nil => cases h
  | cons hit hits =>
    rw [track, if_neg (by simp), Action.perform_bind, use_link_perform] at h
    cases hseen : s.seen with
    | error refusal =>
      rw [hseen] at h
      cases h
      refine ⟨rfl, .inr ⟨fun heq => ?_, rfl⟩⟩
      exact seen_refusal hseen (Failure.history.inj heq)
    | ok link =>
      have hlooked : visible (s.withLink link) = visible s :=
        quiet_visible (.looked hseen s.notes)
      rw [hseen] at h
      simp only at h
      rw [Action.perform_bind, Action.perform_get] at h
      simp only [Session.link_now, Session.link_files] at h
      cases hknown : link.connection.current.known with
      | error cause =>
        have htrack : link.connection.track s.now ((hit :: hits).map Sighting.ofHit) =
            .error cause := by
          rw [Connection.track, hknown]
          rfl
        rw [htrack] at h
        cases h
        exact ⟨rfl, .inr ⟨by simp, hlooked⟩⟩
      | ok rows =>
        have hrows := (visible_iff hseen).2 hknown
        have hbatch := connection_batch (c := link.connection) hknown
          (record_written s.now (hit :: hits) rows)
        simp only [hbatch] at h
        cases hwritable : (!link.isWritable s.files) with
        | true =>
          simp only [hwritable, if_true] at h
          cases h
          refine ⟨rfl, .inr ⟨by simp, ?_⟩⟩
          rw [hrows]
          exact working_visible (seen_link hseen) hknown
        | false =>
          simp only [hwritable] at h
          rw [if_neg (by simp), Action.perform_bind, keep_link_perform] at h
          cases hall : (hit :: hits).all fitting with
          | true =>
            rw [hall] at h
            cases h
          | false =>
            rw [hall] at h
            cases h
            refine ⟨?_, .inl ⟨rfl, rfl, rows, hrows, ?_⟩⟩
            · rw [Session.kept, if_pos (by simp)]
              rfl
            · rw [Session.kept, if_pos (by simp)]
              exact working_visible (seen_link hseen) (known_put hknown _)

end

/-- The rows in the file of a history, and those that its connection sees while it has one. -/
structure Ledger where
  saved : Except Failure (List Row)
  seen : Option (Except Failure (List Row))

namespace Ledger

def fresh (rows : Except Failure (List Row)) : Ledger := ⟨rows, some rows⟩

def shown (l : Ledger) : Except Failure (List Row) := l.seen.getD (.error (.history .closed))

def apply (now : Int) (l : Ledger) : Use → Ledger
  | .opens => { l with seen := some (l.seen.getD l.saved) }
  | .tracks hits =>
    match l.seen with
    | some (.ok rows) =>
      let later := .ok (written now (accepted hits) rows)
      ⟨if !hits.isEmpty && hits.all fitting then later else l.saved, some later⟩
    | _ => l
  | .searches _ _ => l
  | .counts => l
  | .closes => { l with seen := none }

def run : List (Int × Use) → Ledger → Ledger
  | [], l => l
  | (now, use) :: rest, l => run rest (l.apply now use)

theorem apply_tracks {l : Ledger} {rows : List Row} (h : l.seen = some (.ok rows)) (now : Int)
    (hits : List Hit) :
    l.apply now (.tracks hits) =
      ⟨if !hits.isEmpty && hits.all fitting then .ok (written now (accepted hits) rows)
        else l.saved, some (.ok (written now (accepted hits) rows))⟩ := by
  rw [apply, h]

end Ledger

def Reopens (path : Path) (files : Files) (rows : Except Failure (List Row)) : Prop :=
  ∀ later : Session, later.shared = none → later.files = files →
    ∃ reopened, (openAt path).perform later = (.ok (), reopened) ∧ visible reopened = rows

structure Follows (path : Path) (s : Session) (l : Ledger) : Prop where
  shown : visible s = l.shown
  saved : Reopens path s.files l.saved

structure Kept (path : Path) (s : Session) (l : Ledger) : Prop where
  saved : ∃ db, Durable path db s ∧ l.saved = db.rows
  seen : l.seen = s.shared.map fun _ => visible s

section
variable {path : Path} {db : Database} {s : Session} {l : Ledger}

theorem durable_shared (h : Durable path db s) (hopen : visible s ≠ .error (.history .closed)) :
    ∃ manager, s.shared = some manager := by
  rcases h.connection with hclosed | ⟨place, working, hlinked⟩
  · rw [visible, closed_seen hclosed] at hopen
    exact absurd rfl hopen
  · obtain ⟨opened, hshared⟩ := hlinked.shared
    exact ⟨_, hshared⟩

theorem durable_steady {rows : List Row} (h : Durable path db s) (hrows : visible s = .ok rows) :
    Steady s rows := by
  rcases h.connection with hclosed | ⟨place, working, hlinked⟩
  · rw [visible, closed_seen hclosed] at hrows
    cases hrows
  · have hseen := linked_seen hlinked
    exact ⟨_, hseen, hlinked.entry, (visible_iff hseen).1 hrows⟩

theorem rows_not_closed (db : Database) : db.rows ≠ .error (.history .closed) := by
  rw [Database.rows]
  cases db.known <;> intro h <;> cases h

theorem kept_follows (h : Kept path s l) : Follows path s l := by
  obtain ⟨⟨db, hdurable, hsaved⟩, hseen⟩ := h
  constructor
  case shown =>
    rw [Ledger.shown, hseen]
    cases hshared : s.shared with
    | none =>
      rw [visible, closed_seen hshared]
      rfl
    | some manager => rfl
  case saved =>
    intro later hclosed hfiles
    obtain ⟨reopened, hopen, -, hrows⟩ := open_lasting hclosed (hfiles ▸ hdurable.lasting)
    exact ⟨reopened, hopen, hrows.trans hsaved.symm⟩

theorem kept_seen {rows : List Row} (h : Kept path s l) (hrows : visible s = .ok rows) :
    l.seen = some (.ok rows) := by
  obtain ⟨db, hdurable, -⟩ := h.saved
  obtain ⟨manager, hmanager⟩ := durable_shared hdurable (by simp [hrows])
  rw [h.seen, hmanager, hrows]
  rfl

theorem kept_steady {rows : List Row} (h : Kept path s l) (hrows : visible s = .ok rows) :
    Steady s rows := by
  obtain ⟨db, hdurable, -⟩ := h.saved
  exact durable_steady hdurable hrows

theorem kept_quiet (h : Kept path s l) {t : Session} (hquiet : s.Quiet t) : Kept path t l := by
  obtain ⟨⟨db, hdurable, hsaved⟩, hseen⟩ := h
  obtain ⟨notes, rfl⟩ := durable_quiet hdurable hquiet
  exact ⟨⟨db, durable_elsewhere hdurable rfl rfl rfl, hsaved⟩, hseen⟩

theorem kept_opens (h : Kept path s l) :
    Kept path (Use.opens.apply path s) (l.apply s.now .opens) := by
  obtain ⟨db, hdurable, hsaved⟩ := h.saved
  rcases hdurable.connection with hclosed | ⟨place, working, hlinked⟩
  · obtain ⟨t, hopen, hopened, hrows⟩ := open_lasting hclosed hdurable.lasting
    obtain ⟨manager, hmanager⟩ := durable_shared hopened (hrows ▸ rows_not_closed db)
    have hnone : l.seen = none := by
      rw [h.seen, hclosed]
      rfl
    simp only [Use.apply, hopen]
    refine ⟨⟨db, hopened, hsaved⟩, ?_⟩
    rw [hmanager, Ledger.apply, hnone]
    exact congrArg some (hsaved.trans hrows.symm)
  · obtain ⟨opened, hshared⟩ := hlinked.shared
    obtain ⟨notes, hopen⟩ := open_again hlinked
    have hsame : l.apply s.now .opens = l := by
      have hseen := h.seen
      rw [hshared] at hseen
      obtain ⟨saved, seen⟩ := l
      cases hseen
      rfl
    simp only [Use.apply, hopen, hsame]
    exact kept_quiet h (.noted notes)

theorem kept_tracks (h : Kept path s l) (hits : List Hit) :
    Kept path ((Use.tracks hits).apply path s) (l.apply s.now (.tracks hits)) := by
  obtain ⟨db, hdurable, hsaved⟩ := h.saved
  cases hrows : visible s with
  | error e =>
    have hsame : l.apply s.now (.tracks hits) = l := by
      rw [Ledger.apply, h.seen, hrows]
      cases s.shared <;> rfl
    rw [hsame]
    cases hits with
    | nil => exact h
    | cons hit hits =>
      obtain ⟨t, htrack, hquiet⟩ := track_unseen hrows hit hits
      simp only [Use.apply, htrack]
      exact kept_quiet h hquiet
  | ok rows =>
    obtain ⟨t, htrack, hsteady, -⟩ :=
      track_steady (kept_steady h hrows) (record_written s.now hits rows)
    obtain ⟨db', hdurable', hsaves, hleaves⟩ := use_durable hdurable (.tracks hits)
    have hlater := steady_visible hsteady
    rw [Ledger.apply_tracks (kept_seen h hrows)]
    simp only [Use.apply, Use.saves, htrack] at hdurable' hsaves hleaves ⊢
    obtain ⟨manager, hmanager⟩ := durable_shared hdurable' (by simp [hlater])
    have hdone : (if hits.all fitting = true then Except.ok ()
        else .error (.history .tooLarge) : Except Failure Unit).isOk = hits.all fitting := by
      cases hits.all fitting <;> rfl
    rw [hdone] at hsaves hleaves
    refine ⟨⟨db', hdurable', ?_⟩, ?_⟩
    · cases hcase : !hits.isEmpty && hits.all fitting with
      | true => exact hlater.symm.trans (hsaves hcase)
      | false => exact hsaved.trans (congrArg Database.rows (hleaves hcase).symm)
    · rw [hmanager, hlater]
      rfl

theorem kept_use (h : Kept path s l) (use : Use) :
    Kept path (use.apply path s) (l.apply s.now use) := by
  cases use with
  | opens => exact kept_opens h
  | tracks hits => exact kept_tracks h hits
  | searches query extension => exact kept_quiet h (search_perform query extension s).2
  | counts => exact kept_quiet h (count_perform s).2
  | closes =>
    obtain ⟨db, hdurable, hsaved⟩ := h.saved
    exact ⟨⟨db, ⟨hdurable.lasting, .inl rfl⟩, hsaved⟩, rfl⟩

theorem kept_now (h : Kept path s l) (now : Int) : Kept path { s with now } l := by
  obtain ⟨db, hdurable, hsaved⟩ := h.saved
  exact ⟨⟨db, durable_elsewhere hdurable rfl rfl rfl, hsaved⟩, h.seen⟩

/-- By induction on the uses: a history in a file and its ledger stay in line. -/
theorem kept_run (h : Kept path s l) (uses : List (Int × Use)) :
    Kept path (useAll path uses s) (l.run uses) := by
  induction uses generalizing s l with
  | nil => exact h
  | cons first rest ih =>
    obtain ⟨now, use⟩ := first
    exact ih (kept_use (kept_now h now) use)

theorem kept_opened {opened : Session} (hshared : s.shared = none)
    (hfile : path.text ≠ Link.memoryName) (hopen : (openAt path).perform s = (.ok (), opened)) :
    Kept path opened (.fresh (visible opened)) := by
  obtain ⟨db, hdurable, hrows⟩ := open_durable hshared hfile hopen
  obtain ⟨manager, hmanager⟩ := durable_shared hdurable (hrows ▸ rows_not_closed db)
  refine ⟨⟨db, hdurable, hrows⟩, ?_⟩
  rw [hmanager]
  rfl

end

structure LeavesPart (last : Session) (hits : List Hit) (failure : Failure) (t : Session) :
    Prop where
  /-- The hits in front of the first one that does not fit are seen like those of any batch. -/
  oversized : failure = .history .tooLarge → hits.all fitting = false ∧
    ∃ rows, visible last = .ok rows ∧ visible t = .ok (written last.now (accepted hits) rows)
  refused : failure ≠ .history .tooLarge → visible t = visible last
  files : t.files = last.files

structure SavesPart (path : Path) (last : Session) (l : Ledger) (hits : List Hit) (t : Session) :
    Prop where
  before : Follows path last l
  /-- From the batch on, uses make of the rows what they would have made without a failure. -/
  after : ∀ more : List (Int × Use),
    Follows path (useAll path more t) ((l.apply last.now (.tracks hits)).run more)
  /-- So other hits take the ones that were left along to the file. -/
  swept : ∀ rows, visible last = .ok rows → ∀ (later : Int) (others : List Hit), others ≠ [] →
    others.all fitting = true → ∃ u, (track others).perform { t with now := later } = (.ok (), u) ∧
      Reopens path u.files (.ok (written later others (written last.now (accepted hits) rows)))

section
variable {path : Path} {s t : Session} {l : Ledger} {hits : List Hit} {failure : Failure}

theorem failed_saves (h : Kept path s l) (htrack : (track hits).perform s = (.error failure, t)) :
    SavesPart path s l hits t := by
  have hkept : Kept path t (l.apply s.now (.tracks hits)) := by
    have hused := kept_tracks h hits
    rwa [Use.apply, htrack] at hused
  constructor
  case before => exact kept_follows h
  case after => exact fun more => kept_follows (kept_run hkept more)
  case swept =>
    intro rows hrows later others hne hall
    have hnow := kept_now hkept later
    have hseen : (l.apply s.now (.tracks hits)).seen =
        some (.ok (written s.now (accepted hits) rows)) := by
      rw [Ledger.apply_tracks (kept_seen h hrows)]
    have hvisible : visible { t with now := later } =
        .ok (written s.now (accepted hits) rows) := by
      rw [(kept_follows hnow).shown, Ledger.shown, hseen]
      rfl
    obtain ⟨u, hothers, -, -⟩ :=
      track_steady (kept_steady hnow hvisible) (record_written later others _)
    rw [hall, if_pos rfl] at hothers
    have hafter := kept_tracks hnow others
    rw [Use.apply, hothers, Ledger.apply_tracks hseen, hall, accepted_all hall,
      List.isEmpty_eq_false_iff.2 hne] at hafter
    exact ⟨u, hothers, (kept_follows hafter).saved⟩

theorem failed_leaves (htrack : (track hits).perform s = (.error failure, t)) :
    LeavesPart s hits failure t := by
  obtain ⟨hfiles, ⟨hlarge, hunfit, hrows⟩ | ⟨hother, hsame⟩⟩ := track_failed htrack
  · exact ⟨fun _ => ⟨hunfit, hrows⟩, fun hne => absurd hlarge hne, hfiles⟩
  · exact ⟨fun hlarge => absurd hlarge hother, fun _ => hsame, hfiles⟩

/-- However a history has been used since it was opened, a batch that fails in front of a hit
that does not fit is not taken back: its rows are shown, and the next batch saves them. -/
theorem failed_track_partial {opened : Session} (hshared : s.shared = none)
    (hopen : (openAt path).perform s = (.ok (), opened)) (uses : List (Int × Use)) (now : Int)
    (htrack : (track hits).perform { useAll path uses opened with now } = (.error failure, t)) :
    LeavesPart { useAll path uses opened with now } hits failure t ∧
      (path.text ≠ Link.memoryName → SavesPart path { useAll path uses opened with now }
        ((Ledger.fresh (visible opened)).run uses) hits t) := by
  refine ⟨failed_leaves htrack, fun hfile => failed_saves ?_ htrack⟩
  exact kept_now (kept_run (kept_opened hshared hfile hopen) uses) now

end

def oversizedBatch : List Hit := [⟨"h", 7, "a", 1, []⟩, ⟨"h", 2 ^ 63, "b", 0, []⟩]

def afterOversized : Session := ((track oversizedBatch).perform emptyHistory).2

theorem oversized_batch_partial :
    ({} : Session).shared = none ∧
      (openAt ⟨"", ["known.db"]⟩).perform {} = (.ok (), emptyHistory) ∧
      (track oversizedBatch).perform emptyHistory = (.error (.history .tooLarge), afterOversized) ∧
      LeavesPart emptyHistory oversizedBatch (.history .tooLarge) afterOversized ∧
      SavesPart ⟨"", ["known.db"]⟩ emptyHistory (.fresh (visible emptyHistory)) oversizedBatch
        afterOversized := by
  have hopen : (openAt ⟨"", ["known.db"]⟩).perform {} = (.ok (), emptyHistory) :=
    Prod.ext (by decide +kernel) rfl
  have htrack : (track oversizedBatch).perform emptyHistory =
      (.error (.history .tooLarge), afterOversized) := Prod.ext (by decide +kernel) rfl
  obtain ⟨hleaves, hsaves⟩ := failed_track_partial rfl hopen [] emptyHistory.now htrack
  exact ⟨rfl, hopen, htrack, hleaves, hsaves (by decide)⟩

def afterOther : Session := ((track [⟨"k", 1, "c", 0, []⟩]).perform afterOversized).2

/-- The row of the first hit is shown after the failure, and a batch without it makes it last. -/
theorem oversized_batch_kept :
    (track oversizedBatch).perform emptyHistory =
        (.error (.history .tooLarge), afterOversized) ∧
      visible emptyHistory = .ok [] ∧ visible afterOversized = .ok [⟨⟨"h", 7, "a"⟩, 1, 0, 0⟩] ∧
      (track [⟨"k", 1, "c", 0, []⟩]).perform afterOversized = (.ok (), afterOther) ∧
      ∃ reopened, (openAt ⟨"", ["known.db"]⟩).perform (closeManager.run afterOther).2 =
          (.ok (), reopened) ∧
        visible reopened = .ok [⟨⟨"h", 7, "a"⟩, 1, 0, 0⟩, ⟨⟨"k", 1, "c"⟩, 0, 0, 0⟩] := by
  refine ⟨Prod.ext (by decide +kernel) rfl, by decide +kernel, by decide +kernel,
    Prod.ext (by decide +kernel) rfl, _, Prod.ext (by decide +kernel) rfl, by decide +kernel⟩

end FileSearch.History
