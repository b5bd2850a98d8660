import FileSearch.Output.Writer
import FileSearch.Proofs.Files.Places
import FileSearch.Proofs.Hit.Records
import FileSearch.Proofs.Query.Reduction
import FileSearch.Proofs.Search.Asking

/-!
# Saved results as a source

The file that a writer leaves is a source of the hits that it was given, in their order. A
block is recognised by its hits and not by a query, and a record inside a block is never
taken for a block, whatever its further fields are called.
-/

set_option autoImplicit false

namespace FileSearch.Output

open Session

theorem with_files_perform (change : Files → Except Files.Refusal Files) (s : Session) :
    (withFiles change).perform s =
      match change s.files with
      | .ok files => (.ok (), { s with files })
      | .error refusal => (.error (.file refusal), s) := by
  rw [withFiles, Action.perform_bind, Action.perform_get]
  dsimp only
  cases change s.files <;> rfl

namespace ResultFile

theorem block_exact {hits : List Hit} (h : ∀ hit ∈ hits, hit.Storable) (query : String) :
    (block query hits).Exact := by
  have hnames : ["query", "hits"].Nodup := by decide
  refine .object hnames ?_
  intro field hfield
  simp only [List.mem_cons, List.not_mem_nil, or_false] at hfield
  rcases hfield with rfl | rfl
  · exact .text query
  · exact Hit.records_exact h

theorem read_block {hits : List Hit} (h : ∀ hit ∈ hits, hit.Storable) (place query : String) :
    Hit.readItem place (block query hits) = .ok (hits.map Hit.bare) :=
  Hit.read_records h (place ++ ".hits") 0

def blocksOf (searches : List (String × List Hit)) : List Json :=
  searches.map fun search => block search.1 search.2

def hitsOf (searches : List (String × List Hit)) : List Hit :=
  searches.flatMap fun search => search.2.map Hit.bare

variable {searches : List (String × List Hit)}

theorem read_blocks (h : ∀ search ∈ searches, ∀ hit ∈ search.2, hit.Storable) (place : String)
    (i : Nat) : Hit.readItems place i (blocksOf searches) = .ok (hitsOf searches) := by
  induction searches generalizing i with
  | nil => rfl
  | cons search searches ih =>
    have hfirst := read_block (h search (by simp)) (Hit.indexed place i) search.1
    have hrest := ih (fun other ho => h other (by simp [ho])) (i + 1)
    rw [blocksOf, List.map_cons, Hit.readItems, hfirst, ← blocksOf, hrest]
    rfl

theorem blocks_exact (h : ∀ search ∈ searches, ∀ hit ∈ search.2, hit.Storable) :
    (Json.list (blocksOf searches)).Exact := by
  refine .list ?_
  intro item hitem
  obtain ⟨search, hsearch, rfl⟩ := List.mem_map.1 hitem
  exact block_exact (h search hsearch) search.1

theorem parse_content (h : ∀ search ∈ searches, ∀ hit ∈ search.2, hit.Storable) (path : Path)
    {file : ResultFile} (hblocks : file.blocks = blocksOf searches) :
    Search.Dump.parse path file.content = .ok (hitsOf searches) := by
  have hexact := blocks_exact h
  rw [Search.Dump.parse, content, hblocks]
  simp only [Json.unify_pretty hexact, Json.read_pretty hexact]
  change (Hit.readDocument path.text (.list (blocksOf searches))).mapError _ = _
  rw [Hit.readDocument, read_blocks h]
  rfl

theorem make_folders_perform (path : Path) (s : Session) :
    (makeFolders path).perform s =
      ((s.files.makeFolders path).2.mapError .file,
        { s with files := (s.files.makeFolders path).1 }) := by
  rw [makeFolders, Action.perform_bind, Action.perform_get]
  dsimp only
  rcases s.files.makeFolders path with ⟨files, _ | _⟩ <;> rfl

theorem save_perform (action : String) (file : ResultFile) (s : Session) :
    (file.save action).perform s =
      let path := file.path action s.time
      match s.files.makeFolders file.folder with
      | (files, .error refusal) => (.error (.file refusal), { s with files })
      | (files, .ok ()) =>
        match files.writeText path file.content with
        | .error refusal => (.error (.file refusal), { s with files })
        | .ok later =>
          (.ok { file with lastPath := some path },
            { s with
              files := later
              notes := s.notes ++ [⟨Log.info, s!"JSON saved to {path.text}"⟩] }) := by
  rw [save, Action.perform_bind, make_folders_perform]
  rcases s.files.makeFolders file.folder with ⟨files, refusal | _⟩
  · rfl
  · dsimp only [Except.mapError]
    rw [Action.perform_bind, Action.perform_get]
    dsimp only
    have htime : Session.time { s with files } = s.time := rfl
    rw [htime, Action.perform_bind, with_files_perform]
    dsimp only
    cases files.writeText (file.path action s.time) file.content <;> rfl

/-- A file that has been saved holds its content. If it has not, the files of the session
have refused its folder or its text. -/
theorem save_outcome (action : String) (file : ResultFile) (s : Session) :
    (∃ t, (file.save action).perform s =
        (.ok { file with lastPath := some (file.path action s.time) }, t) ∧
      t.files.readText (file.path action s.time) = .ok file.content) ∨
    ∃ refusal t, (file.save action).perform s = (.error (.file refusal), t) ∧
      (s.files.ensureFolders file.folder = .error refusal ∨
        ∃ files, s.files.ensureFolders file.folder = .ok files ∧
          files.writeText (file.path action s.time) file.content = .error refusal) := by
  have hsave := save_perform action file s
  rw [Files.ensureFolders]
  rcases hmake : s.files.makeFolders file.folder with ⟨files, refusal | _⟩
  · rw [hmake] at hsave
    exact .inr ⟨refusal, { s with files }, hsave, .inl rfl⟩
  · rw [hmake] at hsave
    dsimp only at hsave
    cases hwrite : files.writeText (file.path action s.time) file.content with
    | error refusal =>
      rw [hwrite] at hsave
      exact .inr ⟨refusal, { s with files }, hsave, .inr ⟨files, rfl, hwrite⟩⟩
    | ok later =>
      rw [hwrite] at hsave
      exact .inl ⟨_, hsave, Files.read_written hwrite⟩

end ResultFile

namespace Writer

open ResultFile

def record (action : String) : List (String × List Hit) → Writer → Action Writer
  | [], writer => writer.finalize action
  | (query, hits) :: searches, writer => do record action searches (← writer.write query hits)

theorem record_json (action : String) (searches : List (String × List Hit)) (file : ResultFile)
    (s : Session) :
    (record action searches (.json file)).perform s =
      (finalize action
        (.json { file with blocks := file.blocks ++ blocksOf searches })).perform s := by
  induction searches generalizing file with
  | nil => rw [record, blocksOf, List.map_nil, List.append_nil]
  | cons search searches ih =>
    have hblocks : (file.add search.1 search.2).blocks ++ blocksOf searches =
        file.blocks ++ blocksOf (search :: searches) := by
      rw [add, blocksOf, blocksOf, List.map_cons, List.append_assoc, List.singleton_append]
    have hrest := ih (file.add search.1 search.2)
    rw [hblocks] at hrest
    exact hrest

theorem finalize_perform (action : String) (file : ResultFile) (s : Session) :
    (finalize action (.json file)).perform s =
      (((file.save action).perform s).1.map .json, ((file.save action).perform s).2) := by
  rw [finalize, Action.perform_bind]
  rcases (file.save action).perform s with ⟨_ | saved, t⟩ <;> rfl

end Writer

theorem load_text {files : Files} {path : Path} {content : String}
    (h : files.readText path = .ok content) :
    Search.Dump.load { path } files = Search.Dump.parse path content := by
  rw [Search.Dump.load, Search.Dump.readFile, h]
  rfl

theorem select_all (hits : List Hit) : Search.Dump.select "" none hits = hits := by
  have hall : ∀ h ∈ hits, (Query.hasExtension h.name none &&
      (Query.parse "").accepts h.name.toList) = true := by
    intro h _
    rw [Query.hasExtension, show Query.parse "" = .group .and [] by cbv, Query.Tree.accepts_group]
    rfl
  exact List.filter_eq_self.2 hall

def ResultFile.holding (base : String) (searches : List (String × List Hit)) : ResultFile :=
  { below base with blocks := blocksOf searches }

/-- What the searches of a run have found is read from the file in which the run has saved it:
all hits, in the order in which they were written. If there is no such file, the files of
the session have refused its folder or its text. -/
theorem saved_read_back (action base : String) {searches : List (String × List Hit)}
    (h : ∀ search ∈ searches, ∀ hit ∈ search.2, hit.Storable) (s : Session) :
    let run := (Writer.record action searches (.json (.below base))).perform s
    let file := ResultFile.holding base searches
    let path := file.path action s.time
    (∃ t, run = (.ok (.json { file with lastPath := some path }), t) ∧
      ((Search.Dump.search "" none { path }).run t).1.1 = .ok (ResultFile.hitsOf searches)) ∨
    ∃ refusal t, run = (.error (.file refusal), t) ∧
      (s.files.ensureFolders file.folder = .error refusal ∨
        ∃ files, s.files.ensureFolders file.folder = .ok files ∧
          files.writeText path file.content = .error refusal) := by
  intro run file path
  have hrun : run =
      (((file.save action).perform s).1.map .json, ((file.save action).perform s).2) := by
    change (Writer.record action searches (.json (.below base))).perform s = _
    rw [Writer.record_json]
    exact Writer.finalize_perform action file s
  rcases ResultFile.save_outcome action file s with ⟨t, hsave, hread⟩ | ⟨refusal, t, hsave, hcause⟩
  · refine .inl ⟨t, ?_, ?_⟩
    · rw [hrun, hsave]
      rfl
    · have hload : Search.Dump.load { path } t.files = .ok (ResultFile.hitsOf searches) := by
        rw [load_text hread]
        exact ResultFile.parse_content h path rfl
      have hsearch := (Search.Dump.search_run "" none { path } t).1
      rw [hsearch, Search.Dump.given, hload]
      dsimp only
      rw [select_all]
  · refine .inr ⟨refusal, t, ?_, hcause⟩
    rw [hrun, hsave]
    rfl

def awkward : List (String × List Hit) :=
  [("nothing", []),
    ("song",
      [{ hash := "ab", size := 7, name := "Song\r.mp3", sources := 3,
         extra := [("hits", .int 1), ("query", .null), ("size", .text "big")] },
        { hash := "cd", size := 0 }])]

theorem awkward_read_back :
    (∀ search ∈ awkward, ∀ hit ∈ search.2, hit.Storable) ∧
    ∃ path t, (Writer.record "find" awkward (.json (.below "out"))).perform {} =
        (.ok (.json { ResultFile.holding "out" awkward with lastPath := some path }), t) ∧
      ((Search.Dump.search "" none { path }).run t).1.1 =
        .ok [{ hash := "ab", size := 7, name := "Song\r.mp3", sources := 3,
               extra := [("hits", .int 1), ("query", .null)] },
          { hash := "cd", size := 0 }] := by
  have hstorable : ∀ search ∈ awkward, ∀ hit ∈ search.2, hit.Storable := by
    simp only [awkward, List.forall_mem_cons, List.not_mem_nil, false_imp_iff, implies_true,
      and_true]
    refine ⟨trivial, ⟨by decide, by decide, by decide, ?_⟩, ⟨by decide, by decide, by decide, ?_⟩⟩
    · simp only [List.forall_mem_cons, List.not_mem_nil, false_imp_iff, implies_true, and_true]
      exact ⟨.int 1, .null, .text "big"⟩
    · simp
  refine ⟨hstorable, ?_⟩
  rcases saved_read_back "find" "out" hstorable {} with ⟨t, hrun, hread⟩ | ⟨refusal, t, -, hcause⟩
  · exact ⟨_, t, hrun, hread⟩
  · exfalso
    -- nothing is in the way of a new folder, or of a new text in it
    have hfolder : (ResultFile.holding "out" awkward).folder = ⟨"", ["out", "json"]⟩ := by
      decide +kernel
    have hpath : (ResultFile.holding "out" awkward).path "find" (Session.time {}) =
        ⟨"", ["out", "json", "find_19700101_000000.json"]⟩ := by
      decide +kernel
    have hmade : Files.ensureFolders {} ⟨"", ["out", "json"]⟩ =
        .ok ⟨[(["out"], .folder), (["out", "json"], .folder)]⟩ := rfl
    rw [hfolder, hmade] at hcause
    rcases hcause with hcause | ⟨files, hfiles, hcause⟩
    · cases hcause
    · cases hfiles
      rw [hpath] at hcause
      cases hcause

end FileSearch.Output
