import FileSearch.Proofs.History.Actions

/-!
# Connections and their files

A connection without an open transaction agrees with its file, and still does when a
change of it is kept: what is committed goes to the file, and is read from there.
-/

set_option autoImplicit false

namespace FileSearch

namespace Files

theorem lookup_filter_self (entries : List (Place × Entry)) (place : Place) :
    (entries.filter (·.1 != place)).lookup place = none := by
  rw [List.lookup_eq_none_iff]
  intro p hp
  have hne : p.1 ≠ place := by simpa using (List.mem_filter.1 hp).2
  simpa using hne.symm

theorem entry_set {files : Files} {place : Place} {entry : Entry}
    (hplace : ¬ (place = [] ∨ place = outside)) :
    Files.entry? (files.set place entry) place = some entry := by
  rw [Files.entry?, if_neg hplace, set, List.lookup_append, lookup_filter_self, Option.none_or]
  simp

theorem entry_set_some (files : Files) (place : Place) (entry : Entry) :
    (Files.entry? (files.set place entry) place).isSome = true := by
  by_cases hplace : place = [] ∨ place = outside
  · rw [Files.entry?, if_pos hplace]
    rfl
  · rw [entry_set hplace]
    rfl

theorem entry_none {files : Files} {place : Place} (h : files.entry? place = none) :
    ¬ (place = [] ∨ place = outside) := by
  intro hroot
  rw [Files.entry?, if_pos hroot] at h
  cases h

end Files

namespace History

theorem table_put {db : Database} {name : String} (h : (db.table? name).isSome)
    (table : Table) : (db.put name table).table? name = some table := by
  obtain ⟨version, tables, indexes⟩ := db
  induction tables with
  | nil => cases h
  | cons t tables ih =>
    by_cases hname : Database.sameName t.1 name = true
    · simp [Database.table?, Database.put, hname]
    · have hrest : (Database.table? ⟨version, tables, indexes⟩ name).isSome := by
        simpa [Database.table?, hname] using h
      simpa [Database.table?, Database.put, hname] using ih hrest

theorem known_put {db : Database} {rows : List Row} (h : db.known = .ok rows)
    (later : List Row) : (db.put knownName (.known later)).known = .ok later := by
  have hthere : (db.table? knownName).isSome := by
    rw [Database.known] at h
    cases htable : db.table? knownName with
    | none =>
      rw [htable] at h
      cases h
    | some table => rfl
  rw [Database.known, table_put hthere]

theorem current_idle {c : Connection} (hidle : c.working = none) : c.current = c.committed := by
  rw [Connection.current, hidle, Option.getD_none]

theorem connection_track {c : Connection} {now : Int} {batch : List Sighting}
    {rows later : List Row} {complete : Bool} (hidle : c.working = none)
    (hknown : c.committed.known = .ok rows) (hall : recordAll now batch rows = (later, complete)) :
    ∃ c', c.track now batch = .ok (c', complete) ∧
      (complete = true → c' = ⟨c.committed.put knownName (.known later), none⟩) := by
  rw [Connection.track, current_idle hidle, hknown]
  simp only [bind, Except.bind, hall]
  refine ⟨_, rfl, ?_⟩
  intro hcomplete
  rw [hcomplete, if_pos rfl, Connection.start, current_idle hidle]
  rfl

theorem refresh_idle {files : Files} {l l' : Link} (hidle : l.connection.working = none)
    (h : l.refresh files = .ok l') : l'.connection.working = none := by
  obtain ⟨backing, committed, working⟩ := l
  cases hidle
  cases backing with
  | memory =>
    cases h
    rfl
  | file place =>
    simp only [Link.refresh] at h
    cases hs : Link.stored files place with
    | error r =>
      rw [hs] at h
      cases h
    | ok found =>
      rw [hs] at h
      cases found <;> cases h <;> rfl

theorem refresh_backing {files : Files} {l l' : Link} (h : l.refresh files = .ok l') :
    l'.backing = l.backing := by
  obtain ⟨backing, committed, working⟩ := l
  cases backing with
  | memory =>
    cases h
    rfl
  | file place =>
    cases working with
    | some db =>
      cases h
      rfl
    | none =>
      simp only [Link.refresh] at h
      cases hs : Link.stored files place with
      | error r =>
        rw [hs] at h
        cases h
      | ok found =>
        rw [hs] at h
        cases found <;> cases h <;> rfl

theorem in_place_backing {l l' : Link} (h : l'.backing = l.backing) (files : Files) :
    l'.isInPlace files = l.isInPlace files := by
  rw [Link.isInPlace, Link.isInPlace, h]

theorem in_place_save {files : Files} {l : Link} (h : l.isInPlace files = true) :
    l.isInPlace (l.save files) = true := by
  obtain ⟨backing, connection⟩ := l
  cases backing with
  | memory => rfl
  | file place =>
    change Link.isInPlace
      (if _ then files.set place (.database connection.committed) else files) _ = true
    rw [if_pos h]
    exact Files.entry_set_some files place _

/-- What is written to a file is read from it. -/
theorem refresh_saved {files : Files} {before after : Link}
    (hbefore : before.refresh files = .ok before) (hbacking : after.backing = before.backing)
    (hidle : before.connection.working = none) (hidle' : after.connection.working = none)
    (hplace : before.isInPlace files = true) :
    after.refresh (after.save files) = .ok after := by
  obtain ⟨backing, committed, working⟩ := after
  obtain ⟨_, connection⟩ := before
  cases hbacking
  cases hidle'
  cases backing with
  | memory => rfl
  | file place =>
    -- the connection could not have looked at a place that is always a folder
    have hroot : ¬ (place = [] ∨ place = Files.outside) := by
      intro hroot
      simp only [Link.refresh] at hbefore
      rw [hidle] at hbefore
      simp [Link.stored, Files.entry?, hroot, bind, Except.bind] at hbefore
    have hthere : (Link.mk (.file place) ⟨committed, none⟩).isInPlace files = true := hplace
    change Link.refresh (if _ then files.set place (.database committed) else files) _ = _
    rw [if_pos hthere]
    simp [Link.refresh, Link.stored, Files.entry_set hroot, bind, Except.bind]

end History

namespace Session

theorem kept_shared (s : Session) (before after : History.Link) :
    (s.kept before after).shared = s.shared.map fun m => { m with link := some after } := by
  rw [kept]
  split <;> rfl

theorem kept_attached (s : Session) (before after : History.Link) :
    (s.kept before after).attached = s.attached := by
  rw [kept]
  split <;> rfl

theorem seen_attached {s : Session} {link : History.Link} (h : s.seen = .ok link) :
    s.attached = true ∧ ∃ path l, s.shared = some ⟨path, some l⟩ := by
  rcases s with ⟨files, now, notes, shared, attached⟩
  cases attached with
  | false => cases h
  | true =>
    rcases shared with _ | ⟨path, _ | l⟩
    · cases h
    · cases h
    · exact ⟨rfl, path, l, rfl⟩

theorem seen_eq {s : Session} {path : Path} {link : History.Link} (hattached : s.attached = true)
    (hshared : s.shared = some ⟨path, some link⟩) : s.seen = link.refresh s.files := by
  rw [seen, hattached, hshared]

theorem seen_refresh {s : Session} {link : History.Link} (h : s.seen = .ok link) :
    link.refresh s.files = .ok link := by
  obtain ⟨hattached, path, l, hshared⟩ := seen_attached h
  rw [seen_eq hattached hshared] at h
  exact History.refresh_refresh h

theorem refresh_kept (s : Session) {before after : History.Link}
    (hbefore : before.refresh s.files = .ok before) (hbacking : after.backing = before.backing)
    (hidle : before.connection.working = none) (hidle' : after.connection.working = none)
    (hplace : before.isInPlace s.files = true) :
    after.refresh (s.kept before after).files = .ok after := by
  rw [kept]
  by_cases hsame : after.connection.committed = before.connection.committed
  · have heq : after = before := by
      obtain ⟨_, _, _⟩ := before
      obtain ⟨_, _, _⟩ := after
      cases hbacking
      cases hidle
      cases hidle'
      cases hsame
      rfl
    rw [if_pos hsame, heq]
    exact hbefore
  · rw [if_neg hsame]
    exact History.refresh_saved hbefore hbacking hidle hidle' hplace

theorem in_place_kept {s : Session} {before after : History.Link}
    (hbacking : after.backing = before.backing) (hplace : before.isInPlace s.files = true) :
    after.isInPlace (s.kept before after).files = true := by
  rw [← History.in_place_backing hbacking] at hplace
  rw [kept]
  split
  · exact hplace
  · exact History.in_place_save hplace

theorem seen_kept {s : Session} {before after : History.Link} (hseen : s.seen = .ok before)
    (hbacking : after.backing = before.backing) (hidle : before.connection.working = none)
    (hidle' : after.connection.working = none) (hplace : before.isInPlace s.files = true) :
    (s.kept before after).seen = .ok after := by
  obtain ⟨hattached, path, l, hshared⟩ := seen_attached hseen
  rw [← kept_attached s before after] at hattached
  have hshared' := kept_shared s before after
  rw [hshared] at hshared'
  rw [seen_eq hattached hshared']
  exact refresh_kept s (seen_refresh hseen) hbacking hidle hidle' hplace

end Session

namespace History

def Ready (s : Session) (rows : List Row) : Prop :=
  ∃ link, s.seen = .ok link ∧ link.connection.working = none ∧ link.isInPlace s.files = true ∧
    link.connection.committed.known = .ok rows

theorem ready_visible {s : Session} {rows : List Row} (h : Ready s rows) :
    visible s = .ok rows := by
  obtain ⟨link, hseen, hidle, -, hknown⟩ := h
  exact (visible_iff hseen).2 (by rwa [current_idle hidle])

theorem visible_ready {s : Session} {rows : List Row} {link : Link} (h : visible s = .ok rows)
    (hseen : s.seen = .ok link) (hidle : link.connection.working = none)
    (hplace : link.isInPlace s.files = true) : Ready s rows := by
  have hknown := (visible_iff hseen).1 h
  rw [current_idle hidle] at hknown
  exact ⟨link, hseen, hidle, hplace, hknown⟩

end History

end FileSearch
