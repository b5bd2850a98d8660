import FileSearch.Output.Writer
import FileSearch.Proofs.History.Actions
import FileSearch.Proofs.Output.Sizes
import FileSearch.Proofs.Text.Lines

/-!
# The frame of shown hits

A hit is shown on four lines, the last of which is empty. A text without a line boundary cannot
leave its line, so cutting the block of all hits into lines gives each hit the lines at its own
place, whatever the other hits are. What the block loses at its end are the last empty line and
the blanks behind the last hash.
-/

set_option autoImplicit false

namespace FileSearch.Output

open Session

def numberLine (number : Nat) (h : Hit) : String := s!"{number}. {shownName h}"

def sizeLine (h : Hit) (size : String) : String := s!"   Size: {size}  Sources: {h.sources}"

def hashLine (h : Hit) : String := s!"   Hash: {h.hash}"

section
variable {number : Nat} {h : Hit} {hits : List Hit} {lines : List String}

theorem block_lines_cons :
    blockLines number (h :: hits) = .ok lines ↔
      ∃ size more, formatSize h.size = .ok size ∧ blockLines (number + 1) hits = .ok more ∧
        lines = numberLine number h :: sizeLine h size :: hashLine h :: "" :: more := by
  rw [blockLines, hitLines]
  cases formatSize h.size with
  | error error => simp [bind, Except.bind]
  | ok size =>
    cases blockLines (number + 1) hits with
    | error error => simp [bind, Except.bind]
    | ok more =>
      simp only [bind, Except.bind, Except.ok.injEq, exists_and_left, exists_eq_left', eq_comm]
      rfl

theorem block_lines_ok (hsizes : ∀ h ∈ hits, ∃ size, formatSize h.size = .ok size)
    (number : Nat) : ∃ lines, blockLines number hits = .ok lines := by
  induction hits generalizing number with
  | nil => exact ⟨[], rfl⟩
  | cons h hits ih =>
    obtain ⟨⟨size, hsize⟩, hrest⟩ := List.forall_mem_cons.1 hsizes
    obtain ⟨more, hmore⟩ := ih hrest (number + 1)
    exact ⟨_, block_lines_cons.2 ⟨size, more, hsize, hmore, rfl⟩⟩

theorem block_lines_length (hlines : blockLines number hits = .ok lines) :
    lines.length = 4 * hits.length := by
  induction hits generalizing number lines with
  | nil =>
    cases hlines
    rfl
  | cons h hits ih =>
    obtain ⟨size, more, -, hmore, rfl⟩ := block_lines_cons.1 hlines
    have hlength := ih hmore
    simp only [List.length_cons]
    omega

theorem block_lines_place (hlines : blockLines number hits = .ok lines) {i : Nat}
    (hi : hits[i]? = some h) :
    lines[4 * i]? = some (numberLine (number + i) h) ∧
      (∃ size, formatSize h.size = .ok size ∧ lines[4 * i + 1]? = some (sizeLine h size)) ∧
      lines[4 * i + 2]? = some (hashLine h) ∧ lines[4 * i + 3]? = some "" := by
  induction hits generalizing number lines i with
  | nil => cases hi
  | cons first hits ih =>
    obtain ⟨size, more, hsize, hmore, rfl⟩ := block_lines_cons.1 hlines
    cases i with
    | zero =>
      cases hi
      exact ⟨rfl, ⟨size, hsize, rfl⟩, rfl, rfl⟩
    | succ i =>
      have hplace := ih hmore hi
      rw [Nat.succ_add_eq_add_succ] at hplace
      exact hplace

theorem block_lines_end (hlines : blockLines number hits = .ok lines) (hne : hits ≠ []) :
    ∃ front last, lines = front ++ [hashLine last, ""] := by
  induction hits generalizing number lines with
  | nil => exact absurd rfl hne
  | cons h hits ih =>
    obtain ⟨size, more, -, hmore, rfl⟩ := block_lines_cons.1 hlines
    by_cases hmany : hits = []
    · subst hmany
      cases hmore
      exact ⟨[numberLine number h, sizeLine h size], h, rfl⟩
    · obtain ⟨front, last, rfl⟩ := ih hmore hmany
      exact ⟨numberLine number h :: sizeLine h size :: hashLine h :: "" :: front, last, rfl⟩

theorem unit_one_line (size power : Nat) {unit : String} (hunit : Text.OneLine unit.toList) :
    Text.OneLine (inUnit size power unit).toList := by
  have hpoint : Text.OneLine ".".toList := by decide
  have hspace : Text.OneLine " ".toList := by decide
  simp only [inUnit, Decimal.tenthsText, String.toList_append, Text.one_line_append]
  exact ⟨⟨⟨⟨Text.nat_one_line _, hpoint⟩, Text.nat_one_line _⟩, hspace⟩, hunit⟩

theorem format_size_one_line {size : Int} {text : String} (hsize : formatSize size = .ok text) :
    Text.OneLine text.toList := by
  rw [formatSize] at hsize
  split at hsize
  · cases hsize
    change Text.OneLine (toString size ++ " B").toList
    rw [String.toList_append, Text.one_line_append]
    exact ⟨Text.int_one_line size, by decide⟩
  · dsimp only at hsize
    split at hsize
    · cases hsize
    · cases hsize
      rw [largeSize]
      split_ifs
      · exact unit_one_line _ _ (by decide)
      · exact unit_one_line _ _ (by decide)
      · exact unit_one_line _ _ (by decide)
      · exact unit_one_line _ _ (by decide)

theorem shown_name_one_line (hname : Text.OneLine h.name.toList) :
    Text.OneLine (shownName h).toList := by
  rw [shownName]
  split
  · decide
  · exact hname

theorem number_line_one (number : Nat) (hname : Text.OneLine h.name.toList) :
    Text.OneLine (numberLine number h).toList := by
  change Text.OneLine (toString number ++ ". " ++ shownName h).toList
  simp only [String.toList_append, Text.one_line_append]
  exact ⟨⟨Text.nat_one_line number, by decide⟩, shown_name_one_line hname⟩

theorem size_line_one {size : String} (hsize : Text.OneLine size.toList) :
    Text.OneLine (sizeLine h size).toList := by
  change Text.OneLine ("   Size: " ++ size ++ "  Sources: " ++ toString h.sources).toList
  simp only [String.toList_append, Text.one_line_append]
  exact ⟨⟨⟨by decide, hsize⟩, by decide⟩, Text.int_one_line h.sources⟩

theorem hash_line_one (hhash : Text.OneLine h.hash.toList) :
    Text.OneLine (hashLine h).toList := by
  change Text.OneLine ("   Hash: " ++ h.hash).toList
  rw [String.toList_append, Text.one_line_append]
  exact ⟨by decide, hhash⟩

structure Showable (h : Hit) : Prop where
  name : Text.OneLine h.name.toList
  hash : Text.OneLine h.hash.toList
  size : ∃ size, formatSize h.size = .ok size

theorem block_lines_one (hhits : ∀ h ∈ hits, Showable h)
    (hlines : blockLines number hits = .ok lines) : ∀ line ∈ lines, Text.OneLine line.toList := by
  induction hits generalizing number lines with
  | nil =>
    cases hlines
    exact List.forall_mem_nil _
  | cons h hits ih =>
    obtain ⟨hfirst, hrest⟩ := List.forall_mem_cons.1 hhits
    obtain ⟨size, more, hsize, hmore, rfl⟩ := block_lines_cons.1 hlines
    simp only [List.forall_mem_cons]
    exact ⟨number_line_one number hfirst.name, size_line_one (format_size_one_line hsize),
      hash_line_one hfirst.hash, by decide, ih hrest hmore⟩

theorem trim_block (front : List String) (h : Hit) :
    Text.trimRight ("\n".intercalate (front ++ [hashLine h, ""])).toList =
      Text.ended (front.map String.toList) ++ Text.trimRight (hashLine h).toList := by
  -- the label in front of the hash has more than blanks, so trimming stays in its line
  have hcolon : Text.isBlank ':' = false := by decide
  have hhash : (hashLine h).toList = "   Hash".toList ++ ':' :: (' ' :: h.hash.toList) := by
    change ("   Hash: " ++ h.hash).toList = _
    rw [String.toList_append]
    rfl
  have hlines : (front ++ [hashLine h, ""]).map String.toList =
      (front.map String.toList ++ [(hashLine h).toList]) ++ [[]] := by
    simp
  rw [String.toList_intercalate, hlines]
  change Text.trimRight (['\n'].intercalate _) = _
  rw [Text.intercalate_ended, hhash, Text.trim_right_ended hcolon]

theorem render_block {front : List String}
    (hlines : blockLines 1 hits = .ok (front ++ [hashLine h, ""])) :
    renderText hits = .ok (String.ofList
      (Text.ended ((front ++ [Text.trimEnd (hashLine h)]).map String.toList))) := by
  have hended : Text.ended ((front ++ [Text.trimEnd (hashLine h)]).map String.toList) =
      Text.ended (front.map String.toList) ++ Text.trimRight (hashLine h).toList ++ ['\n'] := by
    simp [Text.ended, Text.trimEnd]
  rw [hended, ← trim_block, String.ofList_append, renderText, hlines]
  change (if (front ++ [hashLine h, ""]).isEmpty then _ else _) = _
  rw [if_neg (by simp)]

/-- Cutting the text of hits gives their lines back. Behind the last hash the blanks are missing,
and so is the last empty line. -/
theorem render_lines {front : List String}
    (hlines : blockLines 1 hits = .ok (front ++ [hashLine h, ""]))
    (hone : ∀ line ∈ front ++ [hashLine h, ""], Text.OneLine line.toList) :
    ∃ text, renderText hits = .ok text ∧
      Text.lines text = front ++ [Text.trimEnd (hashLine h)] := by
  refine ⟨_, render_block hlines, Text.lines_ended ?_⟩
  simp only [List.forall_mem_append, List.forall_mem_cons] at hone
  obtain ⟨hfront, hhash, -⟩ := hone
  rw [List.forall_mem_append, List.forall_mem_singleton]
  exact ⟨hfront, Text.trim_end_one_line hhash⟩

/-- All lines but that of the last hash are those of the block. -/
theorem shown_place {front : List String} {last : Hit} {i : Nat}
    (hlines : blockLines 1 hits = .ok (front ++ [hashLine last, ""])) (hi : hits[i]? = some h) :
    let shown := front ++ [Text.trimEnd (hashLine last)]
    shown[4 * i]? = some (numberLine (i + 1) h) ∧
      (∃ size, formatSize h.size = .ok size ∧ shown[4 * i + 1]? = some (sizeLine h size)) ∧
      shown[4 * i + 2]? =
        some (if i + 1 = hits.length then Text.trimEnd (hashLine h) else hashLine h) ∧
      (i + 1 < hits.length → shown[4 * i + 3]? = some "") := by
  intro shown
  have hless : i < hits.length := (List.getElem?_eq_some_iff.1 hi).1
  have hlength : front.length + 2 = 4 * hits.length := by
    simpa using block_lines_length hlines
  obtain ⟨hname, ⟨size, hsize, hsized⟩, hhash, hempty⟩ := block_lines_place hlines hi
  have hsame {j : Nat} (hj : j < front.length) :
      shown[j]? = (front ++ [hashLine last, ""])[j]? := by
    rw [List.getElem?_append_left hj, List.getElem?_append_left hj]
  refine ⟨?_, ⟨size, hsize, ?_⟩, ?_, ?_⟩
  · rw [hsame (by omega), hname, Nat.add_comm]
  · rw [hsame (by omega), hsized]
  · by_cases hlast : i + 1 = hits.length
    · have hplace : 4 * i + 2 = front.length := by omega
      rw [hplace, List.getElem?_append_right le_rfl, Nat.sub_self] at hhash
      have hown : hashLine last = hashLine h := Option.some.inj hhash
      rw [hplace, List.getElem?_concat_length, hown, if_pos hlast]
    · rw [hsame (by omega), hhash, if_neg hlast]
  · intro hmore
    rw [hsame (by omega), hempty]

theorem console_perform {text : String} (hrender : renderText hits = .ok text) (query : String)
    (s : Session) :
    (Writer.console.write query hits).perform s =
      (.ok .console, s.withNotes (s.notes ++ ⟨Log.info, s!"Results for '{query}':"⟩ ::
        (Text.lines text).map (⟨Log.info, ·⟩))) := by
  rw [← List.singleton_append, ← List.append_assoc, Text.lines, List.map_map]
  simp only [Writer.write, hrender]
  rfl

end

/-- Hits whose texts have no line boundaries, and whose sizes can be shown, are shown with four
lines each, at places that depend on no other hit. The block has one line less, and lacks the
blanks behind the last hash. The log gets a record for each line and one for the query. -/
theorem hits_in_place {hits : List Hit} (hne : hits ≠ []) (hhits : ∀ h ∈ hits, Showable h) :
    ∃ text, renderText hits = .ok text ∧
      (Text.lines text).length = 4 * hits.length - 1 ∧
      (∀ i h, hits[i]? = some h →
        let name := if h.name = "" then "-" else h.name
        let hash := s!"   Hash: {h.hash}"
        (Text.lines text)[4 * i]? = some s!"{i + 1}. {name}" ∧
        (∃ size, formatSize h.size = .ok size ∧
          (Text.lines text)[4 * i + 1]? = some s!"   Size: {size}  Sources: {h.sources}") ∧
        (Text.lines text)[4 * i + 2]? =
          some (if i + 1 = hits.length then Text.trimEnd hash else hash) ∧
        (i + 1 < hits.length → (Text.lines text)[4 * i + 3]? = some "")) ∧
      ∀ query s, ∃ records : List Log.Record,
        (Writer.console.write query hits).perform s =
          (.ok .console, s.withNotes (s.notes ++ records)) ∧
        records = ⟨Log.info, s!"Results for '{query}':"⟩ ::
          (Text.lines text).map (⟨Log.info, ·⟩) ∧
        records.length = 4 * hits.length := by
  obtain ⟨lines, hlines⟩ := block_lines_ok (fun h hh => (hhits h hh).size) 1
  obtain ⟨front, last, rfl⟩ := block_lines_end hlines hne
  obtain ⟨text, htext, hshown⟩ := render_lines hlines (block_lines_one hhits hlines)
  have hcount : (Text.lines text).length + 1 = 4 * hits.length := by
    rw [hshown, ← block_lines_length hlines]
    simp
  refine ⟨text, htext, by omega, ?_, ?_⟩
  · intro i h hi
    have hplace := shown_place hlines hi
    rw [← hshown] at hplace
    simpa only [numberLine, sizeLine, hashLine, shownName, String.isEmpty_iff] using hplace
  · intro query s
    refine ⟨_, console_perform htext query s, rfl, ?_⟩
    rw [List.length_cons, List.length_map, hcount]

def misleading : List Hit :=
  [{ hash := "   Hash: 1", size := 2048, name := "2. -", sources := 3 },
    { hash := " \t", size := 10, sources := -1 },
    { hash := "1. \t", size := -3, name := " " }]

theorem misleading_in_place :
    misleading ≠ [] ∧ (∀ h ∈ misleading, Showable h) ∧
      ∃ text, renderText misleading = .ok text ∧ (Text.lines text).length = 11 ∧
        (Text.lines text)[0]? = some "1. 2. -" ∧
        (Text.lines text)[2]? = some "   Hash:    Hash: 1" ∧ (Text.lines text)[3]? = some "" ∧
        (Text.lines text)[4]? = some "2. -" ∧
        (Text.lines text)[6]? = some "   Hash:  \t" ∧
        (Text.lines text)[8]? = some "3.  " ∧
        (Text.lines text)[10]? = some "   Hash: 1." ∧
        ∀ query s, ∃ records : List Log.Record,
          (Writer.console.write query misleading).perform s =
            (.ok .console, s.withNotes (s.notes ++ records)) ∧ records.length = 12 := by
  have hshowable : ∀ h ∈ misleading, Showable h := by
    simp only [misleading, List.forall_mem_cons]
    exact ⟨⟨by decide, by decide, "2.0 KiB", by decide +kernel⟩,
      ⟨by decide, by decide, "10 B", rfl⟩, ⟨by decide, by decide, "-3 B", rfl⟩,
      List.forall_mem_nil _⟩
  have hne : misleading ≠ [] := List.cons_ne_nil _ _
  obtain ⟨text, htext, hlength, hplaces, hlog⟩ := hits_in_place hne hshowable
  obtain ⟨hname, -, hhash, hempty⟩ := hplaces 0 _ rfl
  obtain ⟨hname', -, hhash', -⟩ := hplaces 1 _ rfl
  obtain ⟨hname'', -, hhash'', -⟩ := hplaces 2 _ rfl
  refine ⟨hne, hshowable, text, htext, hlength, hname, hhash, hempty (by decide), hname', hhash',
    hname'', hhash'', ?_⟩
  intro query s
  obtain ⟨records, hrecords, -, hcount⟩ := hlog query s
  exact ⟨records, hrecords, hcount⟩

end FileSearch.Output
