import FileSearch.Proofs.Files.Places
import FileSearch.Proofs.History.Tracking

/-!
# A store in use

A store that is used by one connection sees what it has recorded last, also while a
transaction is open: a batch that does not fit leaves one behind. At the end of each batch
the connection agrees with its file, and nothing but that file has changed.
-/

set_option autoImplicit false

namespace FileSearch.History

def Link.Held (files : Files) (l : Link) : Prop :=
  match l.backing with
  | .memory => True
  | .file place => files.entry? place = some (.database l.connection.committed)

def Steady (s : Session) (rows : List Row) : Prop :=
  ∃ link, s.seen = .ok link ∧ link.Held s.files ∧ link.connection.current.known = .ok rows

theorem held_in_place {files : Files} {l : Link} (h : l.Held files) :
    l.isInPlace files = true := by
  obtain ⟨_ | place, connection⟩ := l
  · rfl
  · change (files.entry? place).isSome = true
    rw [show files.entry? place = _ from h]
    rfl

theorem held_refresh {files later : Files} {l looked : Link} (h : l.refresh files = .ok looked)
    (hheld : looked.Held files) (hlater : looked.Held later) : l.refresh later = .ok looked := by
  obtain ⟨_ | place, committed, _ | working⟩ := l
  · exact h
  · exact h
  · have hbacking := refresh_backing h
    obtain ⟨backing, connection⟩ := looked
    cases hbacking
    have hstored : Link.stored later place = Link.stored files place := by
      rw [Link.stored, Link.stored, show files.entry? place = _ from hheld,
        show later.entry? place = _ from hlater]
    simp only [Link.refresh] at h ⊢
    rw [hstored]
    exact h
  · exact h

theorem refresh_held {files : Files} {l : Link} (h : l.Held files) : l.refresh files = .ok l := by
  obtain ⟨_ | place, committed, _ | working⟩ := l
  · rfl
  · rfl
  · simp [Link.refresh, Link.stored, show files.entry? place = _ from h, bind, Except.bind]
  · rfl

theorem steady_visible {s : Session} {rows : List Row} (h : Steady s rows) :
    visible s = .ok rows := by
  obtain ⟨link, hseen, -, hknown⟩ := h
  exact (visible_iff hseen).2 hknown

/-- A store that sees its table has read it from a database, since other files have none. -/
theorem ready_steady {s : Session} {rows : List Row} (h : Ready s rows) : Steady s rows := by
  obtain ⟨link, hseen, hidle, hplace, hknown⟩ := h
  refine ⟨link, hseen, ?_, by rwa [current_idle hidle]⟩
  have hrefresh := Session.seen_refresh hseen
  obtain ⟨_ | place, committed, working⟩ := link
  · trivial
  · cases hidle
    simp only [Link.refresh, Link.stored] at hrefresh
    have hthere : (s.files.entry? place).isSome = true := hplace
    cases hentry : s.files.entry? place with
    | none =>
      rw [hentry] at hthere
      cases hthere
    | some entry =>
      cases entry with
      | folder =>
        rw [hentry] at hrefresh
        cases hrefresh
      | database db =>
        rw [hentry] at hrefresh
        cases hrefresh
        exact hentry
      | text content =>
        -- a text is read as a database without tables, if at all
        rw [hentry] at hrefresh
        by_cases hshort : content.utf8ByteSize < Link.signatureLength
        · simp only [if_pos hshort] at hrefresh
          cases hrefresh
          cases hknown
        · simp only [if_neg hshort] at hrefresh
          cases hrefresh

theorem quiet_now {s t : Session} (h : s.Quiet t) : t.now = s.now := by
  cases h <;> rfl

theorem quiet_time {s t : Session} (h : s.Quiet t) : t.time = s.time := by
  cases h <;> rfl

theorem quiet_steady {s t : Session} {rows : List Row} (h : s.Quiet t) (hs : Steady s rows) :
    Steady t rows := by
  rw [Steady, Session.quiet_seen h, Session.quiet_files h]
  exact hs

/-- The store is not concerned by a change of the clock, the log or other files. -/
theorem steady_elsewhere {s t : Session} {rows : List Row} (hshared : t.shared = s.shared)
    (hattached : t.attached = s.attached)
    (hfiles : ∀ place db, s.files.entry? place = some (.database db) →
      t.files.entry? place = some (.database db))
    (h : Steady s rows) : Steady t rows := by
  obtain ⟨link, hseen, hheld, hknown⟩ := h
  have hheld' : link.Held t.files := by
    obtain ⟨_ | place, connection⟩ := link
    · trivial
    · exact hfiles place _ hheld
  obtain ⟨hon, path, l, hl⟩ := Session.seen_attached hseen
  rw [Session.seen_eq hon hl] at hseen
  refine ⟨link, ?_, hheld', hknown⟩
  rw [Session.seen_eq (hattached.trans hon) (hshared.trans hl)]
  exact held_refresh hseen hheld hheld'

theorem held_kept {s : Session} {before : Link} (h : before.Held s.files) (after : Link)
    (hbacking : after.backing = before.backing) :
    after.Held (s.kept before after).files ∧ s.files.Alike (s.kept before after).files := by
  obtain ⟨backing, connection⟩ := after
  obtain ⟨_, connection'⟩ := before
  cases hbacking
  rw [Session.kept]
  by_cases hsame : connection.committed = connection'.committed
  · rw [if_pos hsame]
    refine ⟨?_, Files.alike_refl _⟩
    cases backing with
    | memory => trivial
    | file place =>
      change s.files.entry? place = some (.database connection.committed)
      rw [hsame]
      exact h
  · rw [if_neg hsame]
    cases backing with
    | memory => exact ⟨trivial, Files.alike_refl _⟩
    | file place =>
      have hentry : s.files.entry? place = some (.database connection'.committed) := h
      have hthere : (Link.mk (.file place) connection).isInPlace s.files = true := by
        change (s.files.entry? place).isSome = true
        rw [hentry]
        rfl
      have hfile : s.files.entry? place ≠ some .folder := by simp [hentry]
      simp only [Link.save, hthere, if_true]
      exact ⟨Files.entry_set (Files.not_folder hfile), Files.alike_set hentry _⟩

theorem connection_records {c : Connection} {now : Int} {batch : List Sighting}
    {rows later : List Row} {complete : Bool} (hknown : c.current.known = .ok rows)
    (hall : recordAll now batch rows = (later, complete)) :
    ∃ c', c.track now batch = .ok (c', complete) ∧ c'.current.known = .ok later := by
  rw [Connection.track, hknown]
  simp only [bind, Except.bind, hall]
  refine ⟨_, rfl, ?_⟩
  have hlater := known_put hknown later
  cases complete with
  | false => exact hlater
  | true => exact hlater

theorem track_steady {s : Session} {rows later : List Row} {hits : List Hit} {complete : Bool}
    (h : Steady s rows)
    (hall : recordAll s.now (hits.map Sighting.ofHit) rows = (later, complete)) :
    ∃ t, (track hits).perform s =
        (if complete then .ok () else .error (.history .tooLarge), t) ∧
      Steady t later ∧ s.files.Alike t.files := by
  obtain ⟨link, hseen, hheld, hknown⟩ := h
  cases hits with
  | nil =>
    cases hall
    exact ⟨s, rfl, ⟨link, hseen, hheld, hknown⟩, Files.alike_refl _⟩
  | cons hit hits =>
    obtain ⟨c, hc, hlater⟩ := connection_records hknown hall
    have htrack := track_perform hseen (held_in_place hheld) hc
    have hheld₀ : link.Held (s.withLink link).files := hheld
    obtain ⟨hkept, halike⟩ := held_kept hheld₀ { link with connection := c } rfl
    have hseen' : ((s.withLink link).kept link { link with connection := c }).seen =
        .ok { link with connection := c } := by
      obtain ⟨hattached, path, l, hshared⟩ := Session.seen_attached (seen_link hseen)
      have hattached' := Session.kept_attached (s.withLink link) link { link with connection := c }
      have hshared' := Session.kept_shared (s.withLink link) link { link with connection := c }
      rw [hshared] at hshared'
      rw [Session.seen_eq (hattached'.trans hattached) hshared']
      exact refresh_held hkept
    have hsteady : Steady ((s.withLink link).kept link { link with connection := c }) later :=
      ⟨_, hseen', hkept, hlater⟩
    cases complete with
    | false => exact ⟨_, htrack, hsteady, halike⟩
    | true => exact ⟨_, htrack, quiet_steady (.noted _) hsteady, halike⟩

end FileSearch.History
