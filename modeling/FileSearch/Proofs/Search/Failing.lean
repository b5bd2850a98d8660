import FileSearch.Proofs.History.Partial
import FileSearch.Proofs.Search.Repeating

/-!
# Searches that fail

A search that fails has not touched a file, whatever it has asked and tracked before: a
batch that is not tracked to its end stays in the open transaction.
-/

set_option autoImplicit false

namespace FileSearch.Search

theorem record_failed_files {recorder : Recorder} {hits : List Hit} {s t : Session} {e : Failure}
    (h : (recorder.record hits).perform s = (.error e, t)) : t.files = s.files := by
  cases recorder with
  | nothing => cases h
  | list kept => cases h
  | history =>
    rw [Service.record_history] at h
    obtain ⟨hresult, hlast⟩ := Prod.mk.inj h
    cases htrack : ((History.track hits).perform s).1 with
    | ok done =>
      rw [htrack] at hresult
      cases hresult
    | error cause =>
      rw [← hlast]
      exact (History.track_failed (Prod.ext htrack rfl)).1

theorem search_failed_files {query : String} {extension : Option String} {s t : Session}
    {service after : Service} {finishing : Finishing} {e : Failure}
    (hnames : ∀ source ∈ service.sources, source.name?.isSome)
    (h : (service.search query extension finishing).run s = ((.error e, after), t)) :
    t.files = s.files := by
  have hcalls := Service.search_calls query extension s service finishing hnames
  rw [h] at hcalls
  rcases hcalls with hquiet | ⟨m, hits, hquiet, hrecord⟩
  · exact Session.quiet_files hquiet
  · rw [← Session.quiet_files hquiet]
    rcases hperform : (service.recorder.record hits).perform m with ⟨failure | recorder, u⟩
    · rw [hperform] at hrecord
      obtain ⟨-, rfl⟩ := hrecord
      exact record_failed_files hperform
    · rw [hperform] at hrecord
      cases hrecord.1

end FileSearch.Search
