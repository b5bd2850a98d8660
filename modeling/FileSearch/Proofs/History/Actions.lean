import FileSearch.History.Store

/-!
# Actions of the store

Each action of the history store, written out as a function on sessions. Searching and
counting are quiet: all they change is the log, and what the connection last read from
its file. What the store sees is the same before and after.
-/

set_option autoImplicit false

namespace FileSearch

def Action.perform {α : Type} (action : Action α) (s : Session) : Except Failure α × Session :=
  action.run.run s

theorem Action.perform_get (s : Session) : Action.perform (get : Action Session) s = (.ok s, s) :=
  rfl

theorem Action.perform_bind {α β : Type} (x : Action α) (f : α → Action β) (s : Session) :
    Action.perform (x >>= f) s =
      match x.perform s with
      | (.ok a, s') => (f a).perform s'
      | (.error e, s') => (.error e, s') := by
  simp only [Action.perform, ExceptT.run_bind, StateT.run_bind]
  rcases (ExceptT.run x).run s with ⟨_ | _, _⟩ <;> rfl

/-- An action with a result has results all along. -/
theorem Action.perform_bind_ok {α β : Type} {x : Action α} {f : α → Action β} {s t : Session}
    {b : β} (h : Action.perform (x >>= f) s = (.ok b, t)) :
    ∃ a m, x.perform s = (.ok a, m) ∧ (f a).perform m = (.ok b, t) := by
  rw [perform_bind] at h
  rcases hx : x.perform s with ⟨_ | a, m⟩
  · rw [hx] at h
    cases h
  · rw [hx] at h
    exact ⟨a, m, rfl, h⟩

namespace Session

def seen (s : Session) : Except History.Refusal History.Link :=
  match s.attached, s.shared with
  | true, some ⟨_, some link⟩ => link.refresh s.files
  | _, _ => .error .closed

def withLink (s : Session) (link : History.Link) : Session :=
  { s with shared := s.shared.map fun m => { m with link := some link } }

def withNotes (s : Session) (notes : List Log.Record) : Session := { s with notes }

def kept (s : Session) (before after : History.Link) : Session :=
  if after.connection.committed = before.connection.committed then s.withLink after
  else { s.withLink after with files := after.save s.files }

@[simp]
theorem seen_notes (s : Session) (notes : List Log.Record) :
    (s.withNotes notes).seen = s.seen := rfl

@[simp]
theorem link_files (s : Session) (link : History.Link) : (s.withLink link).files = s.files := rfl

@[simp]
theorem link_now (s : Session) (link : History.Link) : (s.withLink link).now = s.now := rfl

theorem link_link (s : Session) (a b : History.Link) :
    (s.withLink a).withLink b = s.withLink b := by
  rcases s with ⟨files, now, notes, _ | m, attached⟩ <;> rfl

end Session

namespace History

theorem refresh_refresh {files : Files} {l l' : Link} (h : l.refresh files = .ok l') :
    l'.refresh files = .ok l' := by
  obtain ⟨backing, committed, working⟩ := l
  cases backing with
  | memory =>
    cases h
    rfl
  | file place =>
    cases working with
    | some db =>
      cases h
      rfl
    | none =>
      simp only [Link.refresh] at h ⊢
      cases hs : Link.stored files place with
      | error r => simp [hs, bind, Except.bind] at h
      | ok found =>
        cases found with
        | none =>
          simp only [hs, bind, Except.bind, Except.ok.injEq] at h
          subst h
          simp [hs, bind, Except.bind]
        | some db =>
          simp only [hs, bind, Except.bind, Except.ok.injEq] at h
          subst h
          simp [hs, bind, Except.bind]

theorem seen_link {s : Session} {link : Link} (h : s.seen = .ok link) :
    (s.withLink link).seen = .ok link := by
  rcases s with ⟨files, now, notes, shared, attached⟩
  cases attached with
  | false => cases h
  | true =>
    rcases shared with _ | ⟨path, _ | l⟩
    · cases h
    · cases h
    · exact refresh_refresh h

end History

/-- The later session has other notes, and a connection that has looked at its file or
the same one; nothing else has changed. -/
inductive Session.Quiet (s : Session) : Session → Prop
  | noted (notes : List Log.Record) : Quiet s (s.withNotes notes)
  | looked {link : History.Link} (h : s.seen = .ok link) (notes : List Log.Record) :
    Quiet s ((s.withLink link).withNotes notes)

namespace Session

theorem quiet_refl (s : Session) : s.Quiet s := Quiet.noted s.notes

theorem quiet_seen {s t : Session} (h : s.Quiet t) : t.seen = s.seen := by
  cases h with
  | noted notes => rfl
  | looked hlink notes => rw [seen_notes, History.seen_link hlink, hlink]

theorem quiet_files {s t : Session} (h : s.Quiet t) : t.files = s.files := by
  cases h <;> rfl

theorem quiet_trans {s t u : Session} (hst : s.Quiet t) (htu : t.Quiet u) : s.Quiet u := by
  cases htu with
  | noted notes =>
    cases hst with
    | noted _ => exact Quiet.noted notes
    | looked hlink _ => exact Quiet.looked hlink notes
  | looked hlink notes =>
    rw [quiet_seen hst] at hlink
    cases hst with
    | noted _ => exact Quiet.looked hlink notes
    | looked _ _ =>
      have h := Quiet.looked hlink notes
      rwa [← link_link s] at h

end Session

namespace History

theorem use_link_perform (s : Session) :
    useLink.perform s =
      match s.seen with
      | .ok link => (.ok link, s.withLink link)
      | .error refusal => (.error (.history refusal), s) := by
  rcases s with ⟨files, now, notes, shared, attached⟩
  cases attached with
  | false => rfl
  | true =>
    rcases shared with _ | ⟨path, _ | link⟩
    · rfl
    · rfl
    · simp only [Session.seen]
      change Action.perform
        (do let link ← lift (link.refresh files); setLink link; return link) _ = _
      cases link.refresh files <;> rfl

theorem keep_link_perform (before after : Link) (s : Session) :
    (keepLink before after).perform s = (.ok (), s.kept before after) := by
  rw [keepLink, Action.perform_bind, Session.kept]
  by_cases hsame : after.connection.committed = before.connection.committed
  · rw [if_pos hsame, hsame]
    simp only [bne_self_eq_false]
    rfl
  · rw [if_neg hsame]
    simp only [bne_iff_ne.2 hsame]
    rfl

def Link.migrated (l : Link) : Link :=
  { l with connection := (Migration.runOn shipped l.connection).connection }

theorem migrate_perform (link : Link) (s : Session) :
    (migrate link).perform s =
      match link.refresh s.files with
      | .error refusal => (.error (.history refusal), s)
      | .ok link =>
        let outcome := Migration.runOn shipped link.connection
        let t := s.kept link link.migrated
        (match outcome.error with
          | none => .ok ()
          | some error => .error (.history (.ofMigration error)),
          t.withNotes (t.notes ++ outcome.notes)) := by
  rw [migrate, Action.perform_bind, Action.perform_get]
  dsimp only
  cases link.refresh s.files with
  | error refusal => rfl
  | ok link =>
    dsimp only
    change Action.perform (keepLink _ _ >>= _) s = _
    rw [Action.perform_bind, keep_link_perform]
    cases (Migration.runOn shipped link.connection).error <;> rfl

theorem open_manager_perform {s : Session} (hshared : s.shared = none) (path : Path) :
    (openManager path).perform s =
      match Link.connect s.files path with
      | (files, .error refusal) =>
        (.error (.history refusal), { s with files, shared := some ⟨path, none⟩ })
      | (files, .ok link) =>
        let migrating := (migrate link).perform { s with files, shared := some ⟨path, some link⟩ }
        (migrating.1.map fun _ => false, migrating.2) := by
  rw [openManager, Action.perform_bind, Action.perform_get]
  dsimp only
  rw [hshared, if_neg (by simp)]
  rcases Link.connect s.files path with ⟨files, refusal | link⟩
  · rfl
  · change Action.perform (migrate link >>= fun _ => pure false) _ = _
    rw [Action.perform_bind]
    dsimp only
    rcases (migrate link).perform _ with ⟨_ | _, t⟩
    · rfl
    · rfl

def visible (s : Session) : Except Failure (List Row) :=
  match s.seen with
  | .error refusal => .error (.history refusal)
  | .ok link => link.connection.current.known.mapError fun e => .history (.data e)

theorem visible_iff {s : Session} {link : Link} (h : s.seen = .ok link) {rows : List Row} :
    visible s = .ok rows ↔ link.connection.current.known = .ok rows := by
  rw [visible, h]
  change link.connection.current.known.mapError _ = _ ↔ _
  cases link.connection.current.known with
  | ok found =>
    constructor
    · intro hrows
      cases hrows
      rfl
    · intro hknown
      cases hknown
      rfl
  | error cause =>
    constructor
    · intro hrows
      cases hrows
    · intro hknown
      cases hknown

theorem rows_perform (s : Session) :
    (rows.perform s).1 = visible s ∧ s.Quiet (rows.perform s).2 := by
  rw [rows, Action.perform_bind, use_link_perform, visible]
  cases hs : s.seen with
  | error refusal => exact ⟨rfl, s.quiet_refl⟩
  | ok link =>
    have hquiet : s.Quiet (s.withLink link) := Session.Quiet.looked hs s.notes
    dsimp only
    cases link.connection.current.known with
    | error e => exact ⟨rfl, hquiet⟩
    | ok rows => exact ⟨rfl, hquiet⟩

theorem search_perform (query : String) (extension : Option String) (s : Session) :
    ((search query extension).perform s).1 = (visible s).map (select query extension) ∧
      s.Quiet ((search query extension).perform s).2 := by
  obtain ⟨hrows, hquiet⟩ := rows_perform s
  rw [search, Action.perform_bind, ← hrows]
  rcases hp : rows.perform s with ⟨_ | found, t⟩
  · rw [hp] at hquiet
    exact ⟨rfl, hquiet⟩
  · rw [hp] at hquiet
    exact ⟨rfl, Session.quiet_trans hquiet (Session.Quiet.noted _)⟩

theorem count_perform (s : Session) :
    (count.perform s).1 = (visible s).map List.length ∧ s.Quiet (count.perform s).2 := by
  obtain ⟨hrows, hquiet⟩ := rows_perform s
  rw [count, Action.perform_bind, ← hrows]
  rcases hp : rows.perform s with ⟨_ | found, t⟩
  · rw [hp] at hquiet
    exact ⟨rfl, hquiet⟩
  · rw [hp] at hquiet
    exact ⟨rfl, hquiet⟩

theorem quiet_visible {s t : Session} (h : s.Quiet t) : visible t = visible s := by
  rw [visible, Session.quiet_seen h, visible]

end History

end FileSearch
