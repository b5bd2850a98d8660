import FileSearch.Output.Writer
import FileSearch.Proofs.Calendar.Stamps
import FileSearch.Proofs.Files.Texts

/-!
# Names of result files

A result file is named for its action and the time at which it is saved. The name is the last
segment of its path and of every place that the path leads to, so that two result files of one
action are at one place only if they have the same stamp. No result file is a log.
-/

set_option autoImplicit false

namespace FileSearch

namespace Path

theorem cut_no_slash {s : List Char} (h : '/' ∉ s) : cut s = [s] := by
  induction s with
  | nil => rfl
  | cons c s ih =>
    have hc : c ≠ '/' := fun hc => h (hc ▸ List.mem_cons_self)
    rw [cut, if_neg hc, ih fun hmem => h (List.mem_cons_of_mem _ hmem)]

theorem name_segments {name : String} (h : '/' ∉ name.toList) (hlong : 1 < name.toList.length) :
    (ofString name).segments = [name] := by
  have hstep : isStep name.toList = true := by
    rw [isStep, Bool.and_eq_true, Bool.not_eq_true', List.isEmpty_eq_false_iff, bne_iff_ne]
    constructor
    · intro hnil
      rw [hnil] at hlong
      exact absurd hlong (by decide)
    · intro hdot
      rw [hdot] at hlong
      exact absurd hlong (by decide)
  simp [ofString, cut_no_slash h, hstep]

end Path

namespace Output.ResultFile

def ending : String := ".json"

def nameAt (action : String) (time : Calendar) : String :=
  action ++ "_" ++ time.resultStamp ++ ending

section
variable {action : String} {time later : Calendar}

theorem name_injective (h : nameAt action time = nameAt action later) :
    time.resultStamp = later.resultStamp := by
  simpa only [nameAt, String.append_left_inj, String.append_right_inj] using h

theorem name_no_slash (haction : '/' ∉ action.toList) (time : Calendar) :
    '/' ∉ (nameAt action time).toList := by
  have hending : '/' ∉ ending.toList := by decide
  simp [nameAt, haction, hending, Calendar.result_stamp_no_slash]

theorem name_back (action : String) (time : Calendar) :
    (nameAt action time).toList.getLast? = some 'n' := by
  rw [nameAt, String.toList_append, List.getLast?_append]
  rfl

theorem name_length (action : String) (time : Calendar) :
    1 < (nameAt action time).toList.length := by
  have hending : ending.toList.length = 5 := rfl
  rw [nameAt, String.toList_append, List.length_append, hending]
  omega

theorem path_segments (haction : '/' ∉ action.toList) (time : Calendar) (file : ResultFile) :
    ∃ segments, (file.path action time).segments = segments ++ [nameAt action time] := by
  have hname := Path.name_segments (name_no_slash haction time) (name_length action time)
  obtain ⟨segments, hsegments⟩ := Path.child_segments file.folder (nameAt action time)
  rw [hname] at hsegments
  exact ⟨segments, hsegments⟩

def IsResult (action : String) (time : Calendar) (place : Files.Place) : Prop :=
  ∃ above, place = above ++ [nameAt action time]

variable {files : Files} {place : Files.Place}

theorem path_place (haction : '/' ∉ action.toList) {file : ResultFile}
    (h : files.locate (file.path action time) = .ok place) : IsResult action time place := by
  obtain ⟨segments, hsegments⟩ := path_segments haction time file
  have hup : nameAt action time ≠ ".." := by
    intro hup
    have hback := name_back action time
    rw [hup] at hback
    exact absurd hback (by decide)
  exact Files.locate_last hsegments hup h

theorem result_no_log (h : IsResult action time place) : ¬ Log.IsLog place := by
  obtain ⟨above, rfl⟩ := h
  rintro ⟨above', last, heq⟩
  have hlast := congrArg List.getLast? heq
  rw [List.getLast?_concat, List.getLast?_concat] at hlast
  have hback := Log.ending_back last
  rw [← Option.some.inj hlast, name_back] at hback
  exact absurd hback (by decide)

theorem result_stamp (h : IsResult action time place) (h' : IsResult action later place) :
    time.resultStamp = later.resultStamp := by
  obtain ⟨above, rfl⟩ := h
  obtain ⟨above', heq⟩ := h'
  have hlast := congrArg List.getLast? heq
  rw [List.getLast?_concat, List.getLast?_concat] at hlast
  exact name_injective (Option.some.inj hlast)

end

end Output.ResultFile

end FileSearch
