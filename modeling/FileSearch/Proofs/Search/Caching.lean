import FileSearch.Proofs.Files.Folders
import FileSearch.Search.Dump

/-!
# What a result file source keeps

A source keeps the hits of the first search that could read its file, until it is closed. What
it answers is told here from the outside: from the files as the searches since the last closing
have found them, whatever was written or removed in between. Whether the file is there is never
told from what is kept.
-/

set_option autoImplicit false

namespace FileSearch.Search.Dump

inductive Event where
  /-- The files are changed by somebody else. -/
  | change (edit : Files → Files)
  | look
  | search (query : String) (extension : Option String)
  | close

namespace Event

def write (path : Path) (content : String) : Event :=
  .change fun files => (files.writeText path content).toOption.getD files

def delete (path : Path) : Event := .change fun files => files.remove path

def isClosing : Event → Bool
  | .close => true
  | _ => false

def isPassive : Event → Bool
  | .change _ => true
  | .look => true
  | _ => false

def step : Event → Dump × Session → Dump × Session
  | .change edit, (d, s) => (d, { s with files := edit s.files })
  | .look, (d, s) => (d, s)
  | .search query extension, (d, s) =>
    let ((_, d), s) := (d.search query extension).run s
    (d, s)
  | .close, (d, s) => (d.close, s)

end Event

def run : List Event → Dump × Session → Dump × Session
  | [], here => here
  | event :: events, here => run events (event.step here)

def answer (query : String) (extension : Option String) (here : Dump × Session) :
    Except Failure (List Hit) :=
  ((here.1.search query extension).run here.2).1.1

/-- The files as they are, and as the searches since the last closing have found them. -/
structure Story where
  now : Files
  searched : List Files := []

def Event.tell : Event → Story → Story
  | .change edit, story => { story with now := edit story.now }
  | .look, story => story
  | .search _ _, story => { story with searched := story.searched ++ [story.now] }
  | .close, story => { story with searched := [] }

def tell : List Event → Story → Story
  | [], story => story
  | event :: events, story => tell events (event.tell story)

def firstRead (path : Path) : List Files → Option (List Hit)
  | [] => none
  | files :: later =>
    match readFile path files with
    | .ok hits => some hits
    | .error _ => firstRead path later

def Story.served (path : Path) (story : Story) : Except Failure (List Hit) :=
  match firstRead path story.searched with
  | some hits => .ok hits
  | none => readFile path story.now

theorem tell_append (events later : List Event) (story : Story) :
    tell (events ++ later) story = tell later (tell events story) := by
  induction events generalizing story with
  | nil => rfl
  | cons event events ih => exact ih (event.tell story)

theorem first_read_append (path : Path) (before later : List Files) :
    firstRead path (before ++ later) = (firstRead path before).or (firstRead path later) := by
  induction before with
  | nil => rfl
  | cons files before ih =>
    rw [List.cons_append, firstRead, firstRead]
    cases readFile path files with
    | ok hits => rfl
    | error failure => exact ih

theorem tell_open {path : Path} {later : List Event} {hits : List Hit} {story : Story}
    (hopen : ∀ event ∈ later, event.isClosing = false)
    (h : firstRead path story.searched = some hits) :
    firstRead path (tell later story).searched = some hits := by
  induction later generalizing story with
  | nil => exact h
  | cons event later ih =>
    obtain ⟨hevent, hlater⟩ := List.forall_mem_cons.1 hopen
    apply ih hlater
    cases event with
    | change edit => exact h
    | look => exact h
    | search query extension =>
      rw [Event.tell, first_read_append, h, Option.some_or]
    | close => cases hevent

theorem tell_passive {changes : List Event} (hpassive : ∀ event ∈ changes, event.isPassive = true)
    (story : Story) : (tell changes story).searched = story.searched := by
  induction changes generalizing story with
  | nil => rfl
  | cons event changes ih =>
    obtain ⟨hevent, hchanges⟩ := List.forall_mem_cons.1 hpassive
    rw [tell, ih hchanges]
    cases event with
    | change edit => rfl
    | look => rfl
    | search query extension => cases hevent
    | close => cases hevent

structure Agrees (path : Path) (here : Dump × Session) (story : Story) : Prop where
  source : here.1 = ⟨path, firstRead path story.searched⟩
  files : here.2.files = story.now

section
variable {path : Path} {here : Dump × Session} {story : Story}

theorem load_agrees (h : Agrees path here story) :
    here.1.load here.2.files = story.served path := by
  rw [load, h.source, h.files]
  cases hfirst : firstRead path story.searched with
  | none => simp only [Story.served, hfirst]
  | some hits => simp only [Story.served, hfirst]

theorem search_agrees (h : Agrees path here story) (query : String) (extension : Option String) :
    answer query extension here = (story.served path).map (select query extension) ∧
      Agrees path ((Event.search query extension).step here)
        ((Event.search query extension).tell story) := by
  obtain ⟨d, s⟩ := here
  have hload := load_agrees h
  obtain ⟨hsource, hfiles⟩ := h
  dsimp only at hload hsource hfiles
  subst hsource
  have hread : firstRead path (story.searched ++ [story.now]) =
      (story.served path).toOption := by
    rw [first_read_append, Story.served]
    cases firstRead path story.searched with
    | some hits => rfl
    | none =>
      rw [Option.none_or, firstRead]
      cases readFile path story.now <;> rfl
  cases hserved : story.served path with
  | error failure =>
    rw [hserved] at hload hread
    have hnone : firstRead path story.searched = none := by
      rw [first_read_append] at hread
      exact (Option.or_eq_none_iff.1 hread).1
    have hrun : StateT.run (search query extension ⟨path, firstRead path story.searched⟩) s =
        ((.error failure, ⟨path, firstRead path story.searched⟩), s) := by
      rw [search, StateT.run_bind, StateT.run_get]
      simp only [pure_bind, hload]
      rfl
    refine ⟨by rw [answer, hrun]; rfl, ⟨?_, ?_⟩⟩
    · rw [Event.step, hrun, Event.tell, hread, hnone]
      rfl
    · rw [Event.step, hrun, Event.tell]
      exact hfiles
  | ok hits =>
    rw [hserved] at hload hread
    obtain ⟨notes, hrun⟩ : ∃ notes,
        StateT.run (search query extension ⟨path, firstRead path story.searched⟩) s =
          ((.ok (select query extension hits), ⟨path, some hits⟩), { s with notes }) := by
      rw [search, StateT.run_bind, StateT.run_get]
      simp only [pure_bind, hload]
      cases firstRead path story.searched with
      | none => exact ⟨_, rfl⟩
      | some kept => exact ⟨s.notes, rfl⟩
    refine ⟨by rw [answer, hrun]; rfl, ⟨?_, ?_⟩⟩
    · rw [Event.step, hrun, Event.tell, hread]
      rfl
    · rw [Event.step, hrun, Event.tell]
      exact hfiles

theorem step_agrees (h : Agrees path here story) (event : Event) :
    Agrees path (event.step here) (event.tell story) := by
  cases event with
  | change edit => exact ⟨h.source, congrArg edit h.files⟩
  | look => exact h
  | search query extension => exact (search_agrees h query extension).2
  | close =>
    refine ⟨?_, h.files⟩
    change here.1.close = _
    rw [h.source]
    rfl

theorem run_agrees (h : Agrees path here story) (events : List Event) :
    Agrees path (run events here) (tell events story) := by
  induction events generalizing here story with
  | nil => exact h
  | cons event events ih => exact ih (step_agrees h event)

end

def fresh (path : Path) (s : Session) : Dump × Session := (⟨path, none⟩, s)

def story (events : List Event) (s : Session) : Story := tell events ⟨s.files, []⟩

def HasFile (files : Files) (path : Path) : Prop :=
  ∃ entry, files.find path = .ok entry ∧ entry ≠ .folder

theorem fresh_agrees (path : Path) (events : List Event) (s : Session) :
    Agrees path (run events (fresh path s)) (story events s) :=
  run_agrees ⟨rfl, rfl⟩ events

theorem served_first {path : Path} {told : Story} {hits : List Hit}
    (h : told.served path = .ok hits) :
    firstRead path (told.searched ++ [told.now]) = some hits := by
  rw [Story.served] at h
  rw [first_read_append]
  cases hread : firstRead path told.searched with
  | some kept =>
    rw [hread] at h
    rw [Option.some_or, Except.ok.inj h]
  | none =>
    rw [hread] at h
    have hnow : readFile path told.now = .ok hits := h
    rw [Option.none_or, firstRead, hnow]

/-- The hits that are read first are those of a text that the file held when it was searched. -/
theorem first_read_text {path : Path} {searched : List Files} {hits : List Hit}
    (h : firstRead path searched = some hits) :
    ∃ files ∈ searched, ∃ content, files.readText path = .ok content ∧
      parse path content = .ok hits := by
  induction searched with
  | nil => cases h
  | cons files later ih =>
    rw [firstRead] at h
    cases hread : readFile path files with
    | error failure =>
      rw [hread] at h
      obtain ⟨found, hmem, htext⟩ := ih h
      exact ⟨found, List.mem_cons_of_mem _ hmem, htext⟩
    | ok kept =>
      rw [hread] at h
      cases h
      rw [readFile] at hread
      cases htext : files.readText path with
      | error refusal =>
        rw [htext] at hread
        cases hread
      | ok content =>
        rw [htext] at hread
        exact ⟨files, List.mem_cons_self, content, htext, hread⟩

def CanLook (files : Files) (path : Path) : Prop :=
  ∀ fault, files.find path = .error fault → fault.isAbsence = true

theorem is_file_iff (files : Files) (path : Path) (up : Bool) :
    files.isFile path = .ok up ↔ CanLook files path ∧ (up = true ↔ HasFile files path) := by
  rw [Files.isFile, Files.test, CanLook]
  cases hfind : files.find path with
  | ok entry =>
    have hfile : HasFile files path ↔ entry ≠ .folder := by
      constructor
      · rintro ⟨found, hsame, hfound⟩
        obtain rfl := Except.ok.inj (hfind.symm.trans hsame)
        exact hfound
      · intro hentry
        exact ⟨entry, hfind, hentry⟩
    simp only [hfile, Except.ok.injEq, ne_eq, reduceCtorEq, false_imp_iff, implies_true, true_and]
    cases up <;> simp
  | error fault =>
    have hfile : ¬ HasFile files path := by simp [HasFile, hfind]
    dsimp only
    cases habsent : fault.isAbsence <;> simp [hfile, habsent]

theorem is_available_iff (path : Path) (kept : Option (List Hit)) (files : Files) (up : Bool) :
    isAvailable ⟨path, kept⟩ files = .ok up ↔
      CanLook files path ∧ (up = true ↔ HasFile files path) := by
  rw [← is_file_iff, isAvailable]
  cases files.isFile path with
  | ok found =>
    change Except.ok found = .ok up ↔ _
    rw [Except.ok.injEq, Except.ok.injEq]
  | error refusal =>
    constructor
    · intro h
      cases h
    · intro h
      cases h

theorem is_available_refused {path : Path} {files : Files} {fault : Files.Fault}
    (hfind : files.find path = .error fault) (hfault : fault.isAbsence = false)
    (kept : Option (List Hit)) :
    isAvailable ⟨path, kept⟩ files = .error (.file ⟨fault, path⟩) := by
  rw [isAvailable, Files.isFile, Files.test, hfind]
  dsimp only
  rw [hfault]
  rfl

structure Caches (path : Path) (s : Session) (events : List Event) : Prop where
  /-- A search chooses from the hits that were read first since the last closing, and reads the
  file itself if none were. -/
  answers : ∀ query extension, answer query extension (run events (fresh path s)) =
    ((story events s).served path).map (select query extension)
  /-- Once a search has found something to choose from, all searches up to the next closing choose
  from the same, which is what a text held when it was searched. -/
  kept : ∀ query extension found,
    answer query extension (run events (fresh path s)) = .ok found →
      ∃ hits, (story events s).served path = .ok hits ∧ found = select query extension hits ∧
        (∃ files ∈ (story events s).searched ++ [(story events s).now], ∃ content,
          files.readText path = .ok content ∧ parse path content = .ok hits) ∧
        ∀ later, (∀ event ∈ later, event.isClosing = false) → ∀ query' extension',
          answer query' extension'
              (run (events ++ .search query extension :: later) (fresh path s)) =
            .ok (select query' extension' hits)
  /-- A search that fails has failed to read the file, and the next one reads it as it is then. -/
  failed : ∀ query extension failure,
    answer query extension (run events (fresh path s)) = .error failure →
      readFile path (story events s).now = .error failure ∧
      ∀ changes, (∀ event ∈ changes, event.isPassive = true) → ∀ query' extension',
        answer query' extension'
            (run (events ++ .search query extension :: changes) (fresh path s)) =
          (readFile path (story (events ++ changes) s).now).map (select query' extension')
  /-- After a closing the file is read again. -/
  closed : ∀ changes, (∀ event ∈ changes, event.isPassive = true) → ∀ query extension,
    answer query extension (run (events ++ .close :: changes) (fresh path s)) =
      (readFile path (story (events ++ changes) s).now).map (select query extension)
  /-- Whether the file is there is told of the files as they are, if it can be looked for. -/
  available : ∀ up, (run events (fresh path s)).1.isAvailable (run events (fresh path s)).2.files =
      .ok up ↔
    CanLook (story events s).now path ∧ (up = true ↔ HasFile (story events s).now path)
  /-- What keeps it from being looked for is the error, unless it says that nothing is there. -/
  refused : ∀ fault, (story events s).now.find path = .error fault → fault.isAbsence = false →
    (run events (fresh path s)).1.isAvailable (run events (fresh path s)).2.files =
      .error (.file ⟨fault, path⟩)
  /-- The files are what somebody else has made of them. -/
  files : (run events (fresh path s)).2.files = (story events s).now
  /-- What was written is what is read. -/
  written : ∀ content files, (story events s).now.writeText path content = .ok files →
    readFile path (story (events ++ [.write path content]) s).now = parse path content
  removed : ∃ failure, readFile path (story (events ++ [.delete path]) s).now = .error failure

section
variable {path : Path} {s : Session} {events changes : List Event} {query : String}
  {extension : Option String}

theorem story_append (events later : List Event) (s : Session) :
    story (events ++ later) s = tell later (story events s) :=
  tell_append events later ⟨s.files, []⟩

theorem answer_served (path : Path) (s : Session) (events : List Event) (query : String)
    (extension : Option String) :
    answer query extension (run events (fresh path s)) =
      ((story events s).served path).map (select query extension) :=
  (search_agrees (fresh_agrees path events s) query extension).1

theorem answer_read (hnone : firstRead path (story events s).searched = none) :
    answer query extension (run events (fresh path s)) =
      (readFile path (story events s).now).map (select query extension) := by
  rw [answer_served, Story.served, hnone]

theorem tell_now (hpassive : ∀ event ∈ changes, event.isPassive = true) {told other : Story}
    (h : told.now = other.now) : (tell changes told).now = (tell changes other).now := by
  induction changes generalizing told other with
  | nil => exact h
  | cons event changes ih =>
    obtain ⟨hevent, hchanges⟩ := List.forall_mem_cons.1 hpassive
    apply ih hchanges
    cases event with
    | change edit => exact congrArg edit h
    | look => exact h
    | search query extension => cases hevent
    | close => cases hevent

/-- A search that nothing was read by, or a closing, and then changes: the next search reads the
file as it is then. -/
theorem answer_changed (event : Event)
    (hnow : (event.tell (story events s)).now = (story events s).now)
    (hnone : firstRead path (event.tell (story events s)).searched = none)
    (hpassive : ∀ event ∈ changes, event.isPassive = true) :
    answer query extension (run (events ++ event :: changes) (fresh path s)) =
      (readFile path (story (events ++ changes) s).now).map (select query extension) := by
  have hstory : story (events ++ event :: changes) s = tell changes (event.tell (story events s)) :=
    story_append events (event :: changes) s
  rw [answer_read, hstory, story_append, tell_now hpassive hnow]
  rw [hstory, tell_passive hpassive, hnone]

theorem answer_error {failure : Failure}
    (h : answer query extension (run events (fresh path s)) = .error failure) :
    firstRead path (story events s).searched = none ∧
      readFile path (story events s).now = .error failure := by
  rw [answer_served, Story.served] at h
  cases hread : firstRead path (story events s).searched with
  | some hits =>
    rw [hread] at h
    cases h
  | none =>
    rw [hread] at h
    refine ⟨rfl, ?_⟩
    cases hnow : readFile path (story events s).now with
    | ok hits =>
      simp only [hnow] at h
      cases h
    | error found =>
      simp only [hnow] at h
      cases h
      rfl

end

theorem searches_cached (path : Path) (s : Session) (events : List Event) :
    Caches path s events := by
  have hagrees := fresh_agrees path events s
  constructor
  case answers => exact fun query extension => answer_served path s events query extension
  case kept =>
    intro query extension found hfound
    rw [answer_served] at hfound
    cases hserved : (story events s).served path with
    | error failure =>
      rw [hserved] at hfound
      cases hfound
    | ok hits =>
      rw [hserved] at hfound
      have hfirst := served_first hserved
      refine ⟨hits, rfl, (Except.ok.inj hfound).symm, first_read_text hfirst, ?_⟩
      intro later hopen query' extension'
      have hstory : story (events ++ .search query extension :: later) s =
          tell later ((Event.search query extension).tell (story events s)) :=
        story_append events _ s
      have hlater : firstRead path (tell later ((Event.search query extension).tell
          (story events s))).searched = some hits := tell_open hopen hfirst
      rw [answer_served, hstory, Story.served, hlater]
      rfl
  case failed =>
    intro query extension failure hfailure
    obtain ⟨hnone, hread⟩ := answer_error hfailure
    refine ⟨hread, fun changes hpassive query' extension' => ?_⟩
    apply answer_changed (.search query extension) rfl _ hpassive
    change firstRead path ((story events s).searched ++ [(story events s).now]) = none
    rw [first_read_append, hnone, Option.none_or, firstRead, hread]
    rfl
  case closed =>
    intro changes hpassive query extension
    exact answer_changed .close rfl rfl hpassive
  case available =>
    intro up
    rw [hagrees.source, hagrees.files]
    exact is_available_iff path _ _ up
  case refused =>
    intro fault hfind hfault
    rw [hagrees.source, hagrees.files]
    exact is_available_refused hfind hfault _
  case files => exact hagrees.files
  case written =>
    intro content files hwrite
    have hnow : (story (events ++ [.write path content]) s).now = files := by
      rw [story_append]
      change ((story events s).now.writeText path content).toOption.getD _ = files
      rw [hwrite]
      rfl
    rw [hnow, readFile, Files.read_written hwrite]
    rfl
  case removed =>
    obtain ⟨refusal, hrefusal⟩ := Files.read_removed (story events s).now path
    refine ⟨.file refusal, ?_⟩
    have hnow : (story (events ++ [.delete path]) s).now = (story events s).now.remove path := by
      rw [story_append]
      rfl
    rw [hnow, readFile, hrefusal]
    rfl

def longSegment : String := String.ofList (List.replicate (Files.segmentLimit + 1) 'a')

def longName : Path := ⟨"", [longSegment]⟩

theorem long_name_found : Files.find {} longName = .error .nameTooLong := by
  have hnull : longSegment.toList.contains '\x00' = false := by
    rw [longSegment, String.toList_ofList]
    decide +kernel
  have hlong : Files.segmentLimit < longSegment.utf8ByteSize := by decide +kernel
  have htext : longName.text = longSegment := by decide +kernel
  have hpath : ¬ Files.pathLimit < longSegment.utf8ByteSize := by decide +kernel
  rw [Files.find, Files.locate, htext, hnull, if_neg hpath]
  simp [longName, Files.walk, Files.entry?, hlong]

/-- Whether a file of too long a name is there cannot be told. -/
theorem long_name_untold :
    ¬ ∀ (path : Path) (s : Session) (events : List Event), ∃ up,
      (run events (fresh path s)).1.isAvailable (run events (fresh path s)).2.files = .ok up := by
  intro hall
  obtain ⟨up, hup⟩ := hall longName {} []
  obtain ⟨hlook, -⟩ := (is_available_iff longName none {} up).1 hup
  exact absurd (hlook .nameTooLong long_name_found) (by decide)

end FileSearch.Search.Dump
