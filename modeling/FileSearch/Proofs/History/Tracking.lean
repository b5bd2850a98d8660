import FileSearch.Proofs.History.Opening
import FileSearch.Proofs.History.Recounting
import FileSearch.Proofs.History.Recency

/-!
# Tracking

Each batch that is tracked to its end leaves a store behind that has no open transaction.
So the rows of a store recount all batches since it was opened on an empty table.
-/

set_option autoImplicit false

namespace FileSearch.History

theorem track_perform {s : Session} {link : Link} {hit : Hit} {hits : List Hit} {c : Connection}
    {complete : Bool} (hseen : s.seen = .ok link) (hplace : link.isInPlace s.files = true)
    (hc : link.connection.track s.now ((hit :: hits).map Sighting.ofHit) = .ok (c, complete)) :
    (track (hit :: hits)).perform s =
      let kept := (s.withLink link).kept link { link with connection := c }
      if complete then
        (.ok (), kept.withNotes
          (kept.notes ++ [⟨Log.debug, s!"Tracked {(hit :: hits).length} known hits"⟩]))
      else (.error (.history .tooLarge), kept) := by
  have hwritable : (!link.isWritable s.files) = false := by
    rw [Link.isWritable, hplace]
    rfl
  rw [track, if_neg (by simp), Action.perform_bind, use_link_perform, hseen]
  simp only
  rw [Action.perform_bind, Action.perform_get]
  simp only [Session.link_now, Session.link_files, hc, hwritable]
  rw [if_neg (by simp), Action.perform_bind, keep_link_perform]
  cases complete <;> rfl

/-- A batch that is recorded to its end leaves its rows behind. -/
theorem track_ready {s : Session} {rows later : List Row} {hits : List Hit}
    (hready : Ready s rows)
    (hall : recordAll s.now (hits.map Sighting.ofHit) rows = (later, true)) :
    ∃ t, (track hits).perform s = (.ok (), t) ∧ Ready t later := by
  obtain ⟨link, hseen, hidle, hplace, hknown⟩ := hready
  cases hits with
  | nil =>
    cases hall
    exact ⟨s, rfl, link, hseen, hidle, hplace, hknown⟩
  | cons hit hits =>
    obtain ⟨c, hc, hcommit⟩ := connection_track hidle hknown hall
    have hc' := hcommit rfl
    refine ⟨_, track_perform hseen hplace hc, { link with connection := c }, ?_, ?_, ?_, ?_⟩
    · exact Session.seen_kept (seen_link hseen) rfl hidle (by rw [hc']) hplace
    · rw [hc']
    · exact Session.in_place_kept rfl hplace
    · rw [hc']
      exact known_put hknown later

theorem track_refused {s : Session} {rows later : List Row} {hits : List Hit}
    (hready : Ready s rows)
    (hall : recordAll s.now (hits.map Sighting.ofHit) rows = (later, false)) :
    ∃ failure t, (track hits).perform s = (.error failure, t) := by
  obtain ⟨link, hseen, hidle, hplace, hknown⟩ := hready
  cases hits with
  | nil => cases hall
  | cons hit hits =>
    obtain ⟨c, hc, -⟩ := connection_track hidle hknown hall
    exact ⟨_, _, track_perform hseen hplace hc⟩

theorem track_ok {s t : Session} {rows : List Row} {hits : List Hit} (hready : Ready s rows)
    (h : (track hits).perform s = (.ok (), t)) :
    ∃ later, recordAll s.now (hits.map Sighting.ofHit) rows = (later, true) ∧ Ready t later := by
  rcases hall : recordAll s.now (hits.map Sighting.ofHit) rows with ⟨later, _ | _⟩
  · obtain ⟨failure, u, hfailed⟩ := track_refused hready hall
    rw [hfailed] at h
    cases h
  · obtain ⟨u, hdone, hready'⟩ := track_ready hready hall
    rw [hdone] at h
    cases h
    exact ⟨later, rfl, hready'⟩

def trackAll : List (Int × List Hit) → Action Unit
  | [] => return
  | (now, hits) :: rest => do
    modify fun s => { s with now }
    track hits
    trackAll rest

def events (batches : List (Int × List Hit)) : List Event :=
  batches.flatMap fun batch => batch.2.map fun hit => ⟨batch.1, Sighting.ofHit hit⟩

theorem track_all_cons {now : Int} {hits : List Hit} {rest : List (Int × List Hit)}
    {s t : Session} (h : (trackAll ((now, hits) :: rest)).perform s = (.ok (), t)) :
    ∃ m, (track hits).perform { s with now } = (.ok (), m) ∧
      (trackAll rest).perform m = (.ok (), t) := by
  change Action.perform (track hits >>= fun _ => trackAll rest) { s with now } = _ at h
  obtain ⟨_, m, htrack, hrest⟩ := Action.perform_bind_ok h
  exact ⟨m, htrack, hrest⟩

theorem track_all_step {batch : Int × List Hit} {rest : List (Int × List Hit)} {s m t : Session}
    (htrack : (track batch.2).perform { s with now := batch.1 } = (.ok (), m))
    (hrest : (trackAll rest).perform m = (.ok (), t)) :
    (trackAll (batch :: rest)).perform s = (.ok (), t) := by
  change Action.perform (track batch.2 >>= fun _ => trackAll rest) { s with now := batch.1 } = _
  rw [Action.perform_bind, htrack]
  exact hrest

theorem track_all_append {earlier later : List (Int × List Hit)} {s t : Session}
    (h : (trackAll (earlier ++ later)).perform s = (.ok (), t)) :
    ∃ m, (trackAll earlier).perform s = (.ok (), m) ∧ (trackAll later).perform m = (.ok (), t) := by
  induction earlier generalizing s with
  | nil => exact ⟨s, rfl, h⟩
  | cons batch earlier ih =>
    obtain ⟨u, htrack, hrest⟩ := track_all_cons h
    obtain ⟨m, hearlier, hlater⟩ := ih hrest
    exact ⟨m, track_all_step htrack hearlier, hlater⟩

theorem track_all_ok {batches : List (Int × List Hit)} {before : List Event} {rows : List Row}
    {s t : Session} (hready : Ready s rows) (hrows : Recounts before rows)
    (h : (trackAll batches).perform s = (.ok (), t)) :
    ∃ later, Ready t later ∧ Recounts (before ++ events batches) later := by
  induction batches generalizing s before rows with
  | nil =>
    cases h
    exact ⟨rows, hready, by simpa [events] using hrows⟩
  | cons batch rest ih =>
    obtain ⟨m, htrack, hrest⟩ := track_all_cons h
    have hready₀ : Ready { s with now := batch.1 } rows := hready
    obtain ⟨next, hall, hready'⟩ := track_ok hready₀ htrack
    obtain ⟨later, hlater, hrecounts⟩ := ih hready' (recounts_batch hrows batch.1 _ hall) hrest
    refine ⟨later, hlater, ?_⟩
    rw [List.append_assoc, List.map_map] at hrecounts
    exact hrecounts

theorem track_all_fits {batches : List (Int × List Hit)} {s : Session} {rows : List Row}
    (hready : Ready s rows)
    (hfits : ∀ batch ∈ batches, ∀ hit ∈ batch.2, (Sighting.ofHit hit).fits = true) :
    ∃ t, (trackAll batches).perform s = (.ok (), t) := by
  induction batches generalizing s rows with
  | nil => exact ⟨s, rfl⟩
  | cons batch rest ih =>
    have hfirst : ∀ x ∈ batch.2.map Sighting.ofHit, x.fits = true := by
      intro x hx
      obtain ⟨hit, hhit, rfl⟩ := List.mem_map.1 hx
      exact hfits batch (by simp) hit hhit
    obtain ⟨later, hall⟩ := record_all_fits hfirst batch.1 rows
    have hready₀ : Ready { s with now := batch.1 } rows := hready
    obtain ⟨m, htrack, hready'⟩ := track_ready hready₀ hall
    obtain ⟨t, hrest⟩ := ih hready' fun other hother => hfits other (by simp [hother])
    exact ⟨t, track_all_step htrack hrest⟩

structure LastWriteWins (batches : List (Int × List Hit)) (s : Session) (rows : List Row) :
    Prop where
  sees : visible s = .ok rows
  recounts : Recounts (events batches) rows
  counts : (count.perform s).1 = .ok ((events batches).map (·.key)).toFinset.card
  finds : ∀ query extension, ∃ found : List Row,
    ((search query extension).perform s).1 = .ok (found.map Row.toHit) ∧
      found.Perm (rows.filter (passes query extension)) ∧ found.Pairwise (Before rows)

theorem ready_last_write_wins {batches : List (Int × List Hit)} {s : Session} {rows : List Row}
    (hready : Ready s rows) (hrows : Recounts (events batches) rows) :
    LastWriteWins batches s rows := by
  have hsees := ready_visible hready
  constructor
  case sees => exact hsees
  case recounts => exact hrows
  case counts =>
    rw [(count_perform s).1, hsees, ← recounts_length hrows]
    rfl
  case finds =>
    intro query extension
    obtain ⟨found, hfound, hperm, hbefore⟩ := select_spec query extension rows
    refine ⟨found, ?_, hperm, hbefore⟩
    rw [(search_perform query extension s).1, hsees, ← hfound]
    rfl

/-- A store that is opened on an empty table is a map from keys to their last sightings,
whatever the times of the batches are. No batch fails whose numbers fit a column. -/
theorem track_all_refines {s opened : Session} {path : Path} (hshared : s.shared = none)
    (hopen : (openAt path).perform s = (.ok (), opened)) (hempty : visible opened = .ok [])
    (batches : List (Int × List Hit)) :
    ((∀ batch ∈ batches, ∀ hit ∈ batch.2, (Sighting.ofHit hit).fits = true) →
      ∃ last, (trackAll batches).perform opened = (.ok (), last)) ∧
    ∀ last, (trackAll batches).perform opened = (.ok (), last) →
      ∃ rows, LastWriteWins batches last rows ∧
        ∀ earlier later, batches = earlier ++ later →
          ∃ middle rows', (trackAll earlier).perform opened = (.ok (), middle) ∧
            LastWriteWins earlier middle rows' ∧
            ∀ row' ∈ rows', ∃ row ∈ rows, row.key = row'.key ∧ row.firstSeen = row'.firstSeen := by
  have hready := open_ready hshared hopen hempty
  refine ⟨track_all_fits hready, fun last hall => ?_⟩
  obtain ⟨rows, hready', hrows⟩ := track_all_ok hready recounts_nil hall
  rw [List.nil_append] at hrows
  refine ⟨rows, ready_last_write_wins hready' hrows, ?_⟩
  rintro earlier later rfl
  obtain ⟨middle, hearlier, -⟩ := track_all_append hall
  obtain ⟨rows', hmiddle, hrows'⟩ := track_all_ok hready recounts_nil hearlier
  rw [List.nil_append] at hrows'
  refine ⟨middle, rows', hearlier, ready_last_write_wins hmiddle hrows', ?_⟩
  rw [events, List.flatMap_append, ← events, ← events] at hrows
  exact recounts_stays hrows' hrows

def sample : List (Int × List Hit) :=
  [(5, [⟨"h", 7, "a", 2, []⟩, ⟨"h", 7, "b", 1, []⟩, ⟨"h", 7, "a", 3, []⟩]),
   (3, [⟨"h", 7, "a", 4, []⟩])]

def sampleOpened : Session := ((openAt ⟨"", ["known.db"]⟩).perform {}).2

def sampleLast : Session := ((trackAll sample).perform sampleOpened).2

theorem sample_refines :
    ({} : Session).shared = none ∧
      (openAt ⟨"", ["known.db"]⟩).perform {} = (.ok (), sampleOpened) ∧
      visible sampleOpened = .ok [] ∧
      (trackAll sample).perform sampleOpened = (.ok (), sampleLast) ∧
      visible sampleLast = .ok [⟨⟨"h", 7, "a"⟩, 4, 5, 3⟩, ⟨⟨"h", 7, "b"⟩, 1, 5, 5⟩] ∧
      ∃ rows, LastWriteWins sample sampleLast rows := by
  have hopen : (openAt ⟨"", ["known.db"]⟩).perform {} = (.ok (), sampleOpened) :=
    Prod.ext (by decide +kernel) rfl
  have hempty : visible sampleOpened = .ok [] := by decide +kernel
  have hall : (trackAll sample).perform sampleOpened = (.ok (), sampleLast) :=
    Prod.ext (by decide +kernel) rfl
  obtain ⟨rows, hrows, -⟩ := (track_all_refines rfl hopen hempty sample).2 sampleLast hall
  exact ⟨rfl, hopen, hempty, hall, by decide +kernel, rows, hrows⟩

end FileSearch.History
