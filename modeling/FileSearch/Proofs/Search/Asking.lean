import FileSearch.Proofs.History.Actions
import FileSearch.Search.Service

/-!
# Asking the sources

What a source answers depends on the session in which the search starts, and not on
the sources asked before it: asking changes the log, and at most makes the connection
look at its file. So all turns of a search can be read off its first session, in whatever
order the sources finish.
-/

set_option autoImplicit false

namespace FileSearch.Search

open Session

section
variable (query : String) (extension : Option String)

def Dump.given (files : Files) (d : Dump) : Except Failure (List Hit) × Dump :=
  match d.load files with
  | .error failure => (.error failure, d)
  | .ok hits => (.ok (Dump.select query extension hits), { d with loaded := some hits })

theorem Dump.search_run (d : Dump) (s : Session) :
    ((d.search query extension).run s).1 = d.given query extension s.files ∧
      s.Quiet ((d.search query extension).run s).2 := by
  rw [given, search, StateT.run_bind]
  simp only [StateT.run_get, pure_bind]
  cases d.load s.files with
  | error failure => exact ⟨rfl, s.quiet_refl⟩
  | ok hits =>
    simp only
    cases d.loaded.isNone with
    | true => exact ⟨rfl, Quiet.noted _⟩
    | false => exact ⟨rfl, s.quiet_refl⟩

def Source.answer (s : Session) : Source → Except Failure (List Hit) × Source
  | .dump d => ((d.given query extension s.files).1, .dump (d.given query extension s.files).2)
  | .known => ((History.visible s).map (History.select query extension), .known)
  | .scripted script =>
    (script.hits.mapError .scripted,
      .scripted { script with calls := script.calls ++ [.search query extension] })

namespace Source

theorem search_run (source : Source) (s : Session) :
    ((source.search query extension).run s).1 = source.answer query extension s ∧
      s.Quiet ((source.search query extension).run s).2 := by
  cases source with
  | dump d =>
    obtain ⟨hgiven, hquiet⟩ := d.search_run query extension s
    refine ⟨?_, hquiet⟩
    rw [answer, ← hgiven]
    rfl
  | known =>
    obtain ⟨hfound, hquiet⟩ := History.search_perform query extension s
    refine ⟨?_, hquiet⟩
    rw [answer, ← hfound]
    rfl
  | scripted script => exact ⟨rfl, s.quiet_refl⟩

theorem answer_quiet {s t : Session} (h : s.Quiet t) (source : Source) :
    source.answer query extension t = source.answer query extension s := by
  cases source with
  | dump d => rw [answer, quiet_files h, answer]
  | known => rw [answer, History.quiet_visible h, answer]
  | scripted script => rfl

theorem answer_remote (s : Session) (source : Source) :
    (source.answer query extension s).2.isRemote = source.isRemote := by
  cases source <;> rfl

theorem answer_name (s : Session) (source : Source) :
    (source.answer query extension s).2.name? = source.name? := by
  cases source <;> rfl

theorem answer_calls (s : Session) (source : Source) :
    (source.answer query extension s).2.calls? =
      source.calls?.map (· ++ [.search query extension]) := by
  cases source <;> rfl

def isUp (files : Files) (source : Source) : Bool :=
  match source.probe files with
  | .missing => true
  | .gives up => up
  | .fails _ => false

end Source

def Source.breaksOff (files : Files) (source : Source) : Bool :=
  !source.isUp files && source.name?.isNone

theorem Source.breaks_off_iff (files : Files) (source : Source) :
    source.breaksOff files = true ↔ source.isUp files = false ∧ source.name? = none := by
  rw [breaksOff, Bool.and_eq_true, Bool.not_eq_true', Option.isNone_iff_eq_none]

theorem Service.is_available_perform (source : Source) (s : Session) :
    ∃ t, s.Quiet t ∧ (Service.isAvailable source).perform s =
      (if source.breaksOff s.files then .error source.unnamed else .ok (source.isUp s.files),
        t) := by
  rw [Source.breaksOff, Source.isUp, Service.isAvailable, Action.perform_bind, Action.perform_get]
  dsimp only
  cases source.probe s.files with
  | missing => exact ⟨s, s.quiet_refl, rfl⟩
  | gives up =>
    cases up with
    | true => exact ⟨s, s.quiet_refl, rfl⟩
    | false =>
      cases source.name? with
      | none => exact ⟨s, s.quiet_refl, rfl⟩
      | some name => exact ⟨_, Quiet.noted _, rfl⟩
  | fails message =>
    cases source.name? with
    | none => exact ⟨s, s.quiet_refl, rfl⟩
    | some name => exact ⟨_, Quiet.noted _, rfl⟩

/-- The sources are probed in their order, up to the first that breaks the search off. -/
theorem Service.probe_all_perform (sources : List Source) (s : Session) :
    ∃ t, s.Quiet t ∧ (Service.probeAll sources).perform s =
      (match sources.find? (·.breaksOff s.files) with
        | some source => .error source.unnamed
        | none => .ok (sources.map (·.isUp s.files)), t) := by
  induction sources generalizing s with
  | nil => exact ⟨s, s.quiet_refl, rfl⟩
  | cons source sources ih =>
    obtain ⟨t, hquiet, hfirst⟩ := is_available_perform source s
    rw [probeAll, Action.perform_bind, hfirst, List.find?_cons]
    cases source.breaksOff s.files with
    | true => exact ⟨t, hquiet, rfl⟩
    | false =>
      obtain ⟨u, hquiet', hrest⟩ := ih t
      rw [quiet_files hquiet] at hrest
      refine ⟨u, quiet_trans hquiet hquiet', ?_⟩
      rw [if_neg Bool.false_ne_true]
      dsimp only
      rw [Action.perform_bind, hrest]
      cases sources.find? (·.breaksOff s.files) <;> rfl

def Source.turn (s : Session) (source : Source) : Service.Turn :=
  if source.isUp s.files then
    ⟨(source.answer query extension s).2, some (source.answer query extension s).1⟩
  else ⟨source, none⟩

theorem Service.ask_all_run {asked : List (Nat × Source)} {s t : Session} (h : s.Quiet t)
    (hup : ∀ entry ∈ asked, entry.2.isUp s.files = true) :
    ∃ u, s.Quiet u ∧ (Service.askAll query extension asked).run t =
      (asked.map fun entry => (entry.1, entry.2.turn query extension s), u) := by
  induction asked generalizing t with
  | nil => exact ⟨t, h, rfl⟩
  | cons entry asked ih =>
    obtain ⟨place, source⟩ := entry
    obtain ⟨hfirst, hothers⟩ := List.forall_mem_cons.1 hup
    obtain ⟨hanswer, hquiet⟩ := source.search_run query extension t
    rw [Source.answer_quiet query extension h] at hanswer
    rcases hrun : (source.search query extension).run t with ⟨answer, m⟩
    rw [hrun] at hanswer hquiet
    obtain ⟨u, hquiet', hrest⟩ := ih (quiet_trans h hquiet) hothers
    refine ⟨u, hquiet', ?_⟩
    rw [List.map_cons, Source.turn, if_pos hfirst, askAll, StateT.run_bind, hrun, ← hanswer]
    change (askAll query extension asked >>= fun turns => pure (_ :: turns)).run m = _
    rw [StateT.run_bind, hrest]
    rfl

end

namespace Service

def seats (files : Files) (sources : List Source) : List (Nat × Source) :=
  placed sources (sources.map (·.isUp files))

theorem seats_eq (files : Files) (sources : List Source) :
    seats files sources =
      (sources.zipIdx.filter fun entry => entry.1.isUp files).map Prod.swap := by
  have hzip : (sources.map id).zip (sources.map (·.isUp files)) =
      sources.map fun source => (id source, source.isUp files) := List.zip_map'
  rw [List.map_id] at hzip
  rw [seats, placed, hzip, List.zipIdx_map, List.filter_map, List.map_map]
  rfl

theorem seats_sources (files : Files) (sources : List Source) :
    (seats files sources).map (·.2) = sources.filter (·.isUp files) := by
  calc (seats files sources).map (·.2)
      = (sources.zipIdx.filter fun entry => entry.1.isUp files).map Prod.fst := by
        rw [seats_eq, List.map_map]
        rfl
    _ = (sources.zipIdx.map Prod.fst).filter (·.isUp files) := by
        rw [List.filter_map]
        rfl
    _ = sources.filter (·.isUp files) := by rw [List.zipIdx_map_fst]

theorem seat_mem {files : Files} {sources : List Source} {place : Nat} {source : Source} :
    (place, source) ∈ seats files sources ↔
      (source, place) ∈ sources.zipIdx ∧ source.isUp files = true := by
  rw [seats_eq, List.mem_map]
  constructor
  · rintro ⟨⟨source, place⟩, hmem, heq⟩
    cases heq
    exact List.mem_filter.1 hmem
  · exact fun h => ⟨(source, place), List.mem_filter.2 h, rfl⟩

theorem seats_nodup (files : Files) (sources : List Source) :
    ((seats files sources).map (·.1)).Nodup := by
  have hplaces : (sources.zipIdx.map Prod.snd).Nodup := by
    rw [List.zipIdx_map_snd]
    exact List.nodup_range'
  rw [seats_eq, List.map_map]
  exact hplaces.sublist (List.filter_sublist.map _)

theorem lookup_place {α : Type} {l : List (Nat × α)} (hnodup : (l.map (·.1)).Nodup) {place : Nat}
    {a : α} (hmem : (place, a) ∈ l) : l.lookup place = some a := by
  induction l with
  | nil => cases hmem
  | cons first rest ih =>
    obtain ⟨hfirst, hrest⟩ := List.nodup_cons.1 hnodup
    rcases List.mem_cons.1 hmem with rfl | hmem
    · rw [List.lookup_cons_self]
    · have hother : (place == first.1) = false := by
        refine beq_false_of_ne fun hsame => hfirst ?_
        exact List.mem_map.2 ⟨_, hmem, hsame⟩
      rw [List.lookup_cons, hother]
      exact ih hrest hmem

theorem lookup_no_place {α : Type} {l : List (Nat × α)} {place : Nat}
    (hnone : ∀ a, (place, a) ∉ l) : l.lookup place = none := by
  rw [List.lookup_eq_none_iff]
  rintro ⟨other, a⟩ hmem
  refine bne_iff_ne.2 fun hsame : place = other => hnone a ?_
  rwa [hsame]

/-- However the sources finish, each has its turn at its place. -/
theorem seated_turns (query : String) (extension : Option String) (s : Session)
    {sources : List Source} {asked : List (Nat × Source)}
    (h : asked.Perm (seats s.files sources)) :
    seated sources (asked.map fun entry => (entry.1, entry.2.turn query extension s)) =
      sources.map (·.turn query extension s) := by
  let turns := asked.map fun entry => (entry.1, entry.2.turn query extension s)
  have hplaces : turns.map (·.1) = asked.map (·.1) := List.map_map
  have hnodup : (turns.map (·.1)).Nodup := by
    rw [hplaces, (h.map _).nodup_iff]
    exact seats_nodup s.files sources
  have hseat : ∀ entry ∈ sources.zipIdx,
      (turns.lookup entry.2).getD ⟨entry.1, none⟩ = entry.1.turn query extension s := by
    rintro ⟨source, place⟩ hentry
    by_cases hup : source.isUp s.files = true
    · have hasked : (place, source) ∈ asked := h.mem_iff.2 (seat_mem.2 ⟨hentry, hup⟩)
      rw [lookup_place hnodup (List.mem_map.2 ⟨_, hasked, rfl⟩), Option.getD_some]
    · rw [lookup_no_place, Option.getD_none, Source.turn, if_neg hup]
      intro turn hturn
      obtain ⟨⟨place, other⟩, hasked, heq⟩ := List.mem_map.1 hturn
      cases heq
      obtain ⟨hother, hup'⟩ := seat_mem.1 (h.mem_iff.1 hasked)
      have hsame : some other = some source :=
        (List.mem_zipIdx_iff_getElem?.1 hother).symm.trans (List.mem_zipIdx_iff_getElem?.1 hentry)
      cases hsame
      exact hup hup'
  calc seated sources turns
      = sources.zipIdx.map ((·.turn query extension s) ∘ Prod.fst) := List.map_congr_left hseat
    _ = sources.map (·.turn query extension s) := by rw [← List.map_map, List.zipIdx_map_fst]

end Service

end FileSearch.Search
