import FileSearch.Proofs.History.Keeping

/-!
# Places in changed folders

Where a path leads depends on the folders it passes. A path is followed to the same place as
long as folders stay folders, so a text that has been written is read at its path.
-/

set_option autoImplicit false

namespace FileSearch.Files

theorem lookup_filter_ne {place other : Place} (h : other ≠ place)
    (entries : List (Place × Entry)) :
    (entries.filter (·.1 != place)).lookup other = entries.lookup other := by
  induction entries with
  | nil => rfl
  | cons e entries ih =>
    obtain ⟨here, entry⟩ := e
    by_cases hhere : here = place
    · subst hhere
      have hskip : (other == here) = false := beq_false_of_ne h
      rw [List.filter_cons_of_neg (by simp), ih, List.lookup_cons, hskip]
    · rw [List.filter_cons_of_pos (by simpa using hhere), List.lookup_cons, ih, List.lookup_cons]

theorem entry_set_ne (files : Files) {place other : Place} (entry : Entry) (h : other ≠ place) :
    Files.entry? (files.set place entry) other = files.entry? other := by
  have hskip : (other == place) = false := beq_false_of_ne h
  rw [Files.entry?, Files.entry?, set, List.lookup_append, lookup_filter_ne h, List.lookup_cons,
    hskip, List.lookup_nil, Option.or_none]

theorem not_folder {files : Files} {place : Place} (h : files.entry? place ≠ some .folder) :
    ¬ (place = [] ∨ place = outside) := by
  intro hroot
  rw [Files.entry?, if_pos hroot] at h
  exact h rfl

theorem walk_kept {files later : Files}
    (h : ∀ place, files.entry? place = some .folder → later.entry? place = some .folder)
    {start target : Place} {segments : List String}
    (hwalk : files.walk start segments = .ok target) :
    later.walk start segments = .ok target := by
  induction segments generalizing start with
  | nil => exact hwalk
  | cons segment segments ih =>
    rw [walk] at hwalk ⊢
    split at hwalk
    · cases hwalk
    · next hfolder =>
      rw [h start hfolder]
      split at hwalk
      · cases hwalk
      · next hlength =>
        simp only [if_neg hlength]
        exact ih hwalk
    · cases hwalk

theorem locate_kept {files later : Files}
    (h : ∀ place, files.entry? place = some .folder → later.entry? place = some .folder)
    {path : Path} {target : Place} (hlocate : files.locate path = .ok target) :
    later.locate path = .ok target := by
  rw [locate] at hlocate ⊢
  split at hlocate
  · cases hlocate
  · next hnull =>
    split at hlocate
    · cases hlocate
    · next hlong =>
      rw [if_neg hnull, if_neg hlong]
      exact walk_kept h hlocate

theorem write_text_ok {files later : Files} {path : Path} {content : String}
    (h : files.writeText path content = .ok later) :
    ∃ place, files.locate path = .ok place ∧ files.entry? place ≠ some .folder ∧
      later = files.set place (.text content) := by
  rw [writeText, editText] at h
  cases hlocate : files.locate path with
  | error fault =>
    rw [hlocate] at h
    cases h
  | ok place =>
    rw [hlocate] at h
    refine ⟨place, rfl, ?_⟩
    cases hentry : files.entry? place with
    | none =>
      simp only [hentry] at h
      exact ⟨by simp, (Except.ok.inj h).symm⟩
    | some entry =>
      cases entry with
      | folder => simp only [hentry, reduceCtorEq] at h
      | text old =>
        simp only [hentry] at h
        exact ⟨by simp, (Except.ok.inj h).symm⟩
      | database db =>
        simp only [hentry] at h
        exact ⟨by simp, (Except.ok.inj h).symm⟩

theorem read_written {files later : Files} {path : Path} {content : String}
    (h : files.writeText path content = .ok later) : later.readText path = .ok content := by
  obtain ⟨place, hlocate, hentry, rfl⟩ := write_text_ok h
  have hfolders : ∀ other, files.entry? other = some .folder →
      Files.entry? (files.set place (.text content)) other = some .folder := by
    intro other hother
    have hne : other ≠ place := by
      rintro rfl
      exact hentry hother
    rw [entry_set_ne files _ hne, hother]
  rw [readText, find, locate_kept hfolders hlocate]
  simp only [entry_set (not_folder hentry), Option.elim_some]

def Alike (files later : Files) : Prop :=
  ∀ place, later.entry? place = files.entry? place ∨
    ∃ db db', files.entry? place = some (.database db) ∧ later.entry? place = some (.database db')

theorem alike_refl (files : Files) : files.Alike files := fun _ => .inl rfl

theorem alike_set {files : Files} {place : Place} {db : History.Database}
    (h : files.entry? place = some (.database db)) (db' : History.Database) :
    files.Alike (files.set place (.database db')) := by
  intro other
  by_cases hother : other = place
  · subst hother
    have hfile : files.entry? other ≠ some .folder := by simp [h]
    exact .inr ⟨db, db', h, entry_set (not_folder hfile)⟩
  · exact .inl (entry_set_ne files _ hother)

section
variable {files later : Files} (h : files.Alike later)
include h

theorem alike_walk (start : Place) (segments : List String) :
    later.walk start segments = files.walk start segments := by
  induction segments generalizing start with
  | nil => rfl
  | cons segment segments ih =>
    rw [walk, walk]
    rcases h start with hsame | ⟨db, db', hbefore, hafter⟩
    · simp only [hsame, ih]
    · simp only [hbefore, hafter]

theorem alike_locate (path : Path) : later.locate path = files.locate path := by
  rw [locate, locate, alike_walk h]

theorem alike_read (path : Path) : later.readText path = files.readText path := by
  rw [readText, readText, find, find, alike_locate h]
  cases files.locate path with
  | error fault => rfl
  | ok place =>
    rcases h place with hsame | ⟨db, db', hbefore, hafter⟩
    · simp only [hsame]
    · simp only [hbefore, hafter, Option.elim_some]

theorem alike_is_file (path : Path) : later.isFile path = files.isFile path := by
  rw [isFile, isFile, test, test, find, find, alike_locate h]
  cases files.locate path with
  | error fault => rfl
  | ok place =>
    rcases h place with hsame | ⟨db, db', hbefore, hafter⟩
    · simp only [hsame]
    · simp only [hbefore, hafter, Option.elim_some]
      rfl

end

end FileSearch.Files
