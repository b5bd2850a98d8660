import FileSearch.Proofs.Files.Places

/-!
# Folders that are made

Making the folders of a path adds folders where nothing was, and touches nothing else. The
path leads to a folder afterwards, and making its folders once more makes none.
-/

set_option autoImplicit false

namespace FileSearch.Files

section
variable {files later : Files} {path : Path} {entry : Entry}

theorem find_ok_iff :
    files.find path = .ok entry ↔
      ∃ place, files.locate path = .ok place ∧ files.entry? place = some entry := by
  rw [find]
  cases files.locate path with
  | error fault => simp
  | ok place => cases hentry : files.entry? place <;> simp [hentry]

def MoreFolders (files later : Files) : Prop :=
  ∀ place, later.entry? place = files.entry? place ∨
    files.entry? place = none ∧ later.entry? place = some .folder

theorem more_folders_refl (files : Files) : files.MoreFolders files := fun _ => .inl rfl

theorem more_folders_trans {last : Files} (h : files.MoreFolders later)
    (h' : later.MoreFolders last) : files.MoreFolders last := by
  intro place
  rcases h' place with hlast | ⟨hnone, hlast⟩
  · rw [hlast]
    exact h place
  · rcases h place with hlater | ⟨-, hlater⟩
    · exact .inr ⟨hlater ▸ hnone, hlast⟩
    · rw [hlater] at hnone
      cases hnone

theorem more_folders_kept (h : files.MoreFolders later) {place : Place}
    (hentry : files.entry? place = some entry) : later.entry? place = some entry := by
  rcases h place with hlater | ⟨hnone, -⟩
  · rw [hlater, hentry]
  · rw [hentry] at hnone
    cases hnone

theorem more_folders_same (h : files.MoreFolders later) {place : Place}
    (hentry : later.entry? place ≠ some .folder) : later.entry? place = files.entry? place :=
  (h place).resolve_right fun hmade => hentry hmade.2

/-- A path still leads to an entry of which nothing is known but where it is. -/
theorem find_kept {entry' : Entry}
    (hfolders : ∀ place, files.entry? place = some .folder → later.entry? place = some .folder)
    (hentry : ∀ place, files.entry? place = some entry → later.entry? place = some entry')
    (h : files.find path = .ok entry) : later.find path = .ok entry' := by
  obtain ⟨place, hlocate, hplace⟩ := find_ok_iff.1 h
  exact find_ok_iff.2 ⟨place, locate_kept hfolders hlocate, hentry place hplace⟩

theorem make_folder_ok (h : files.makeFolder path = .ok later) :
    files.MoreFolders later ∧ later.find path = .ok .folder := by
  rw [makeFolder] at h
  cases hlocate : files.locate path with
  | error fault =>
    rw [hlocate] at h
    cases h
  | ok place =>
    rw [hlocate] at h
    dsimp only at h
    cases hentry : files.entry? place with
    | some entry =>
      rw [hentry] at h
      cases h
    | none =>
      rw [hentry] at h
      cases h
      have hplace := entry_none hentry
      have hmore : files.MoreFolders (files.set place .folder) := by
        intro other
        by_cases hother : other = place
        · subst hother
          exact .inr ⟨hentry, entry_set hplace⟩
        · exact .inl (entry_set_ne files _ hother)
      refine ⟨hmore, find_ok_iff.2 ⟨place, ?_, entry_set hplace⟩⟩
      exact locate_kept (fun _ => more_folders_kept hmore) hlocate

theorem is_folder_true (h : files.isFolder path = .ok true) : files.find path = .ok .folder := by
  rw [isFolder, test] at h
  cases hfind : files.find path with
  | error fault =>
    rw [hfind] at h
    dsimp only at h
    split at h <;> cases h
  | ok entry =>
    rw [hfind] at h
    have hfolder : (entry == .folder) = true := Except.ok.inj h
    rw [beq_iff_eq.1 hfolder]

theorem ensure_folder_ok (h : files.ensureFolder path = .ok later) :
    files.MoreFolders later ∧ later.find path = .ok .folder := by
  rw [ensureFolder] at h
  cases hmake : files.makeFolder path with
  | ok made =>
    rw [hmake] at h
    cases h
    exact make_folder_ok hmake
  | error refusal =>
    rw [hmake] at h
    rcases hfolder : files.isFolder path with _ | _ | _
    · rw [hfolder] at h
      cases h
    · rw [hfolder] at h
      cases h
    · rw [hfolder] at h
      cases h
      exact ⟨more_folders_refl files, is_folder_true hfolder⟩

structure Making (files : Files) (path : Path) (r : Files × Except Refusal Unit) : Prop where
  more : files.MoreFolders r.1
  there : r.2 = .ok () → r.1.find path = .ok .folder

theorem try_folder_making (files : Files) (path : Path) :
    Making files path (files.tryFolder path) := by
  rw [tryFolder]
  split
  · next later hmade =>
    obtain ⟨hmore, hfind⟩ := ensure_folder_ok hmade
    exact ⟨hmore, fun _ => hfind⟩
  · exact ⟨more_folders_refl files, nofun⟩

theorem make_within_making (n : Nat) (files : Files) (path : Path) :
    Making files path (makeWithin n files path) := by
  induction n generalizing files path with
  | zero => exact try_folder_making files path
  | succ n ih =>
    rw [makeWithin]
    split
    -- the folder above is made first
    · split
      · next made hmade =>
        have habove := ih files path.parent
        rw [hmade] at habove
        have hmaking := try_folder_making made path
        exact ⟨more_folders_trans habove.more hmaking.more, hmaking.there⟩
      · next hfailed =>
        refine ⟨(ih files path.parent).more, fun h => ?_⟩
        exact (hfailed _ (Prod.ext rfl h)).elim
    · exact try_folder_making files path

theorem make_folders_making (files : Files) (path : Path) :
    Making files path (files.makeFolders path) :=
  make_within_making _ files path

theorem ensure_folders_eq (h : files.ensureFolders path = .ok later) :
    files.makeFolders path = (later, .ok ()) := by
  rw [ensureFolders] at h
  cases hresult : (files.makeFolders path).2 with
  | error refusal =>
    rw [hresult] at h
    cases h
  | ok =>
    rw [hresult] at h
    cases h
    exact Prod.ext rfl hresult

theorem ensure_folders_ok (h : files.ensureFolders path = .ok later) :
    files.MoreFolders later ∧ later.find path = .ok .folder := by
  have hmaking := make_folders_making files path
  rw [ensure_folders_eq h] at hmaking
  exact ⟨hmaking.more, hmaking.there rfl⟩

theorem make_folders_there (h : files.find path = .ok .folder) :
    files.makeFolders path = (files, .ok ()) := by
  obtain ⟨place, hlocate, hentry⟩ := find_ok_iff.1 h
  have hmake : files.makeFolder path = .error ⟨.exists, path⟩ := by
    rw [makeFolder, hlocate]
    simp only [hentry]
  have htry : files.tryFolder path = (files, .ok ()) := by
    rw [tryFolder, ensureFolder, hmake]
    simp [isFolder, test, h, bind, Except.bind]
  rw [makeFolders]
  cases path.segments.length with
  | zero => exact htry
  | succ n => rw [makeWithin, hmake, htry]

end

/-- Walks of the same segments end at the same place, whatever files they are in. -/
theorem walk_target {files later : Files} {segments : List String} {start p q : Place}
    (hp : files.walk start segments = .ok p) (hq : later.walk start segments = .ok q) :
    p = q := by
  induction segments generalizing start with
  | nil =>
    cases hp
    cases hq
    rfl
  | cons segment segments ih =>
    rw [walk] at hp hq
    split at hp
    · cases hp
    · split at hp
      · cases hp
      · split at hq
        · cases hq
        · split at hq
          · cases hq
          · exact ih hp hq
        · cases hq
    · cases hp

theorem locate_target {files later : Files} {path : Path} {p q : Place}
    (hp : files.locate path = .ok p) (hq : later.locate path = .ok q) : p = q := by
  rw [locate] at hp hq
  split at hp
  · cases hp
  · next hnull =>
    split at hp
    · cases hp
    · next hlong =>
      rw [if_neg hnull, if_neg hlong] at hq
      exact walk_target hp hq

theorem entry_erased (files : Files) (place : Place) :
    Files.entry? (files.erase place) place = none ∨
      Files.entry? (files.erase place) place = some .folder := by
  rw [Files.entry?]
  split
  · exact .inr rfl
  · exact .inl (lookup_filter_self files.entries place)

theorem read_removed (files : Files) (path : Path) :
    ∃ refusal, (files.remove path).readText path = .error refusal := by
  rw [remove]
  cases hplace : files.locate path with
  | error fault => exact ⟨⟨fault, path⟩, by rw [readText, find, hplace]⟩
  | ok place =>
    dsimp only
    rw [readText, find]
    cases hagain : (files.erase place).locate path with
    | error fault => exact ⟨⟨fault, path⟩, rfl⟩
    | ok target =>
      obtain rfl := locate_target hplace hagain
      rcases entry_erased files place with hentry | hentry
      · exact ⟨⟨.notFound, path⟩, by simp only [hentry]; rfl⟩
      · exact ⟨⟨.isFolder, path⟩, by simp only [hentry]; rfl⟩

end FileSearch.Files
