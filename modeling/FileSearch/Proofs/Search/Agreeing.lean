import FileSearch.Proofs.Hit.Listing
import FileSearch.Proofs.History.Recalling
import FileSearch.Proofs.Search.Pipeline

/-!
# What is remembered and what is shown

A search counts twice: the hits that it shows are merged, and those that its store remembers get
the sums of their contents. Both counts are taken over all hits of the search, so every hit that
is remembered is shown once, with the same count, under whatever names and in whatever order the
sources have offered it.
-/

set_option autoImplicit false

namespace FileSearch

open History Session

theorem filter_label {α β : Type} [DecidableEq β] {label : α → β} {l : List α}
    (hnodup : (l.map label).Nodup) {a : α} (ha : a ∈ l) : l.filter (label · = label a) = [a] := by
  induction l with
  | nil => cases ha
  | cons first rest ih =>
    obtain ⟨hfirst, hrest⟩ := List.nodup_cons.1 hnodup
    rcases List.mem_cons.1 ha with rfl | ha
    · have hnone : rest.filter (label · = label a) = [] := by
        rw [List.filter_eq_nil_iff]
        intro other hother hsame
        exact hfirst (of_decide_eq_true hsame ▸ List.mem_map_of_mem hother)
      rw [List.filter_cons_of_pos (by simp), hnone]
    · have hother : label first ≠ label a := fun hsame =>
        hfirst (hsame ▸ List.mem_map_of_mem ha)
      rw [List.filter_cons_of_neg (by simpa using hother), ih hrest ha]

namespace Search

structure Agrees (remembered shown : List Hit) : Prop where
  /-- Each is shown once, with its count. -/
  once : ∀ h ∈ remembered, ∃ r, shown.filter (·.label = h.label) = [r] ∧ r.sources = h.sources
  alike : ∀ h ∈ remembered, ∀ other ∈ remembered, other.hash = h.hash → other.size = h.size →
    other.name = h.name → other.sources = h.sources
  /-- The table has this count of it, in whatever order the hits are written. -/
  stored : ∀ order : List Hit, order.Perm remembered → ∀ (now : Int) (rows : List Row),
    (rows.map (·.key)).Nodup → (order.map Sighting.ofHit).all Sighting.fits = true →
    ∀ h ∈ remembered, ∃ row,
      (recordAll now (order.map Sighting.ofHit) rows).1.filter
        (·.key = (Sighting.ofHit h).key) = [row] ∧ row.sources = h.sources

theorem agrees_nil (shown : List Hit) : Agrees [] shown :=
  ⟨by simp, by simp, by simp⟩

section
variable {hits all : List Hit}

def contentSum (all : List Hit) (content : String) : Int :=
  Hit.totalSources (Hit.sharing content all)

theorem group_sources_counted (hmem : ∀ hit ∈ hits, hit ∈ all) :
    Hit.withGroupSources hits all = counted (contentSum all) hits :=
  Hit.with_group_sources_eq hmem

theorem counted_once (hmem : ∀ hit ∈ hits, hit ∈ all) {h : Hit}
    (hh : h ∈ counted (contentSum all) hits) :
    ∃ r, (Hit.aggregate all).filter (·.label = h.label) = [r] ∧ r.sources = h.sources := by
  obtain ⟨hit, hhit, rfl⟩ := List.mem_map.1 hh
  have hlabel : hit.label ∈ (Hit.aggregate all).map Hit.label :=
    (Hit.labels_mem all _).2 (List.mem_map_of_mem (hmem hit hhit))
  obtain ⟨r, hr, hsame⟩ := List.mem_map.1 hlabel
  refine ⟨r, ?_, ?_⟩
  · have hone := filter_label (Hit.labels_nodup all) hr
    rw [hsame] at hone
    exact hone
  · rw [Hit.aggregate_sources hr]
    exact congrArg (contentSum all) (Prod.mk.inj hsame).1

theorem counted_agrees (hmem : ∀ hit ∈ hits, hit ∈ all) :
    Agrees (counted (contentSum all) hits) (Hit.aggregate all) where
  once _ := counted_once hmem
  alike h hh other hother hhash hsize hname := by
    have hlabel : other.label = h.label := by
      rw [Hit.label, Hit.label, Hit.contentKey, Hit.contentKey, hhash, hsize, hname]
    obtain ⟨r, hr, hcount⟩ := counted_once hmem hh
    obtain ⟨r', hr', hcount'⟩ := counted_once hmem hother
    rw [hlabel, hr] at hr'
    rw [← hcount, ← hcount', (List.cons.inj hr').1]
  stored order hperm now rows hnodup hfits h hh := by
    have hkey : (Sighting.ofHit h).key ∈ (order.map Sighting.ofHit).map (·.key) := by
      rw [List.map_map]
      exact List.mem_map_of_mem (hperm.mem_iff.2 hh)
    have hthere := (record_keys hfits now rows _).2 (.inr hkey)
    obtain ⟨row, hrow, hsame⟩ := List.mem_map.1 hthere
    have hsums : ∀ x ∈ order.map Sighting.ofHit, x.sources = contentSum all x.key.content := by
      intro x hx
      obtain ⟨hit, hhit, rfl⟩ := List.mem_map.1 hx
      exact counted_sources _ _ _ (List.mem_map_of_mem (hperm.mem_iff.1 hhit))
    refine ⟨row, ?_, ?_⟩
    · rw [← hsame]
      exact filter_label (record_nodup hnodup now _) hrow
    · have hsum := record_sources (f := fun key => contentSum all key.content) hnodup hfits hsums
        hrow (hsame ▸ hkey)
      rw [hsum, hsame]
      exact (counted_sources _ _ _ (List.mem_map_of_mem hh)).symm

end

namespace Service

def passed (query : String) (extension : Option String) (s : Session) (service : Service)
    (finishing : Finishing) : List Hit :=
  match ((search query extension { service with recorder := .list [] } finishing).run
    s).1.2.recorder with
  | .list hits => hits
  | _ => []

def Passes (service : Service) (s : Session) (hits : List Hit) (after : Service) (t : Session) :
    Prop :=
  ∃ m u notes, s.Quiet m ∧ (service.recorder.record hits).perform m = (.ok after.recorder, u) ∧
    t = u.withNotes notes

theorem record_nil (recorder : Recorder) (s : Session) :
    (recorder.record []).perform s = (.ok recorder, s) := by
  cases recorder with
  | nothing => rfl
  | list kept => exact congrArg (fun kept => (Except.ok (Recorder.list kept), s)) kept.append_nil
  | history => rfl

def Turn.counted (sanitizes : Bool) (turns : List Turn) : List Hit :=
  Hit.withGroupSources (Turn.remote sanitizes turns) (Turn.all sanitizes turns)

theorem conclude_records (query : String) (turns : List Turn) (service : Service) (t : Session) :
    (conclude query turns service).run t =
      match (service.recorder.record (Turn.counted service.sanitizes turns)).perform t with
      | (.ok recorder, u) =>
        ((.ok (Hit.aggregate (Turn.all service.sanitizes turns)), { service with recorder }),
          u.withNotes (u.notes ++
            [finished query (Hit.aggregate (Turn.all service.sanitizes turns))]))
      | (.error failure, u) => ((.error failure, service), u) := by
  by_cases h : service.recorder.isPresent = false ∨ Turn.remote service.sanitizes turns = []
  · have hcall : (service.recorder.record (Turn.counted service.sanitizes turns)).perform t =
        (.ok service.recorder, t) := by
      rcases h with habsent | hnone
      · cases hrecorder : service.recorder with
        | nothing => rfl
        | list kept =>
          rw [hrecorder] at habsent
          cases habsent
        | history =>
          rw [hrecorder] at habsent
          cases habsent
      · rw [Turn.counted, hnone]
        exact record_nil service.recorder t
    rw [conclude_silent service rfl rfl h, hcall]
  · simp only [not_or, Bool.not_eq_false] at h
    exact conclude_recorded service rfl rfl h.1 h.2 query t

section
variable {query : String} {extension : Option String} {s t : Session}
  {service after : Service} {finishing : Finishing} {shown : List Hit}

theorem counted_turns_agree (sanitizes : Bool) (turns : List Turn) :
    Agrees (Turn.counted sanitizes turns) (Hit.aggregate (Turn.all sanitizes turns)) := by
  have hmem : ∀ hit ∈ Turn.remote sanitizes turns, hit ∈ Turn.all sanitizes turns := by
    intro hit hhit
    obtain ⟨turn, hturn, hhit⟩ := List.mem_flatMap.1 hhit
    exact List.mem_flatMap.2 ⟨turn, (List.mem_filter.1 hturn).1, hhit⟩
  rw [Turn.counted, group_sources_counted hmem]
  exact counted_agrees hmem

variable (query extension s service finishing) in
/-- How a search goes, whichever store it has: it ends without a call, or comes to a conclusion. -/
theorem search_course :
    (∃ result, ∀ recorder, ∃ sources t, s.Quiet t ∧
      (search query extension { service with recorder } finishing).run s =
        ((result, { service with sources, recorder }), t)) ∨
    ∃ sources turns, ∀ recorder, ∃ t, s.Quiet t ∧
      (search query extension { service with recorder } finishing).run s =
        (conclude query turns { service with sources, recorder }).run t := by
  by_cases hquery : query.isEmpty = true
  · refine .inl ⟨.ok [], fun recorder => ⟨service.sources, s, s.quiet_refl, ?_⟩⟩
    rw [search, if_pos hquery]
    rfl
  by_cases hsources : service.sources = []
  · refine .inl ⟨.error .noSources, fun recorder => ⟨service.sources, s, s.quiet_refl, ?_⟩⟩
    rw [search, if_neg hquery, if_pos (List.isEmpty_iff.2 hsources)]
    rfl
  have hends (recorder : Recorder) := search_ends query extension s { service with recorder }
    finishing (by simpa using hquery) hsources
  cases hbreaks : service.sources.find? (·.breaksOff s.files) with
  | some source =>
    refine .inl ⟨.error source.unnamed, fun recorder => ?_⟩
    obtain ⟨t, hquiet, hrun⟩ := hends recorder
    simp only [hbreaks] at hrun
    exact ⟨service.sources, t, hquiet, hrun⟩
  | none =>
    simp only [hbreaks] at hends
    let sources := (service.turns query extension s).map (·.source)
    by_cases hnone : service.available s = []
    · refine .inl ⟨.ok [], fun recorder => ?_⟩
      obtain ⟨t, hquiet, hrun⟩ := hends recorder
      exact ⟨service.sources, t, hquiet, hrun.trans (if_pos hnone)⟩
    by_cases hall : service.answering query extension s = []
    · refine .inl ⟨.error (.allFailed (failedNames (service.asked query extension s finishing))),
        fun recorder => ?_⟩
      obtain ⟨t, hquiet, hrun⟩ := hends recorder
      exact ⟨sources, t, hquiet, hrun.trans ((if_neg hnone).trans (if_pos hall))⟩
    · refine .inr ⟨sources, service.turns query extension s, fun recorder => ?_⟩
      obtain ⟨t, hquiet, hrun⟩ := hends recorder
      exact ⟨t, hquiet, hrun.trans ((if_neg hnone).trans (if_neg hall))⟩

/-- Whatever the sources of a search are, what it passes to its store agrees with what it
shows. -/
theorem recorded_agrees
    (h : (service.search query extension finishing).run s = ((.ok shown, after), t)) :
    service.Passes s (service.passed query extension s finishing) after t ∧
      Agrees (service.passed query extension s finishing) shown := by
  rcases search_course query extension s service finishing with
    ⟨result, hcourse⟩ | ⟨sources, turns, hcourse⟩
  · obtain ⟨_, m, hquiet, hrun⟩ := hcourse service.recorder
    obtain ⟨_, u, -, hlisted⟩ := hcourse (.list [])
    have hpassed : service.passed query extension s finishing = [] := by
      rw [passed, hlisted]
    cases h.symm.trans hrun
    rw [hpassed]
    exact ⟨⟨t, t, t.notes, hquiet, record_nil service.recorder t, rfl⟩, agrees_nil shown⟩
  · obtain ⟨m, hquiet, hrun⟩ := hcourse service.recorder
    obtain ⟨u, -, hlisted⟩ := hcourse (.list [])
    have hpassed : service.passed query extension s finishing =
        Turn.counted service.sanitizes turns := by
      rw [passed, hlisted, conclude_records]
      exact List.nil_append _
    rw [conclude_records] at hrun
    rw [hpassed]
    rcases hrecord : (service.recorder.record (Turn.counted service.sanitizes turns)).perform m
      with ⟨failure | recorder, v⟩
    · simp only [hrecord] at hrun
      cases h.symm.trans hrun
    · simp only [hrecord] at hrun
      cases h.symm.trans hrun
      exact ⟨⟨m, v, _, hquiet, hrecord, rfl⟩, counted_turns_agree service.sanitizes turns⟩

end

def uneven : Service where
  sources := [
    .scripted { isRemote := true, hits := .ok [⟨"12", 3, "a b", 2, []⟩, ⟨"1", 23, "a.b", 5, []⟩] },
    .scripted { name := some "server", isRemote := true, hits := .error "timed out" },
    .scripted { name := some "local", hits := .ok [⟨"12", 3, "c", 10, []⟩] }]
  recorder := .list []

theorem uneven_agrees : ∃ shown after t,
    (uneven.search "a" none).run {} = ((.ok shown, after), t) ∧
    (uneven.passed "a" none {} .inTurn).map Hit.tally =
        [(("123", "a.b"), 17), (("123", "a.b"), 17)] ∧
    uneven.Passes {} (uneven.passed "a" none {} .inTurn) after t ∧
    Agrees (uneven.passed "a" none {} .inTurn) shown := by
  have hok : ((uneven.search "a" none).run {}).1.1.isOk = true := by decide +kernel
  rcases hrun : (uneven.search "a" none).run {} with ⟨⟨failure | shown, after⟩, t⟩
  · rw [hrun] at hok
    cases hok
  · exact ⟨shown, after, t, rfl, by decide +kernel, recorded_agrees hrun⟩

end Service

end Search

end FileSearch
