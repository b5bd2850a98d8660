import FileSearch.Proofs.Query.Scanning
import FileSearch.Query.Frame

/-!
# Groups read by recursion

A group can also be read by recursion on the text. An opening parenthesis then starts a
reading of its own for the group inside, which hands back the text behind that group; every
reading has its own operator, children and waiting negation. The stack of groups holds what
the readings around the innermost one have found so far, so both ways leave the same tree.
-/

set_option autoImplicit false

namespace FileSearch.Query

structure Reading (s : List Char) where
  tree : Tree
  rest : List Char
  shorter : rest.length ≤ s.length

def Reading.widen {t s : List Char} (r : Reading t) (h : t.length ≤ s.length) : Reading s :=
  ⟨r.tree, r.rest, Nat.le_trans r.shorter h⟩

def readGroup (f : Frame) (s : List Char) : Reading s :=
  match s with
  | [] => ⟨f.group, [], Nat.le_refl _⟩
  | ')' :: s => ⟨f.group, s, Nat.le_succ _⟩
  | '(' :: s =>
    let nested := readGroup {} (Text.trim s)
    have hrest : nested.rest.length ≤ s.length := Nat.le_trans nested.shorter (Text.trim_length s)
    (readGroup (f.append nested.tree) nested.rest).widen (Nat.le_succ_of_le hrest)
  | c :: s =>
    match hnot : Token.after? ['N', 'O', 'T'] (c :: s) with
    | some rest =>
      have hrest := Token.after_shorter (by decide) hnot
      (readGroup { f with negating := true } rest).widen (Nat.le_of_lt hrest)
    | none =>
      match hor : Token.after? ['O', 'R'] (c :: s) with
      | some rest =>
        have hrest := Token.after_shorter (by decide) hor
        (readGroup (f.rebind .or) rest).widen (Nat.le_of_lt hrest)
      | none =>
        match hand : Token.after? ['A', 'N', 'D'] (c :: s) with
        | some rest =>
          have hrest := Token.after_shorter (by decide) hand
          (readGroup (f.rebind .and) rest).widen (Nat.le_of_lt hrest)
        | none =>
          if Token.isSeparator c then (readGroup f.separate s).widen (Nat.le_succ _)
          else
            have hrest : (s.dropWhile (!Token.isSeparator ·)).length ≤ s.length :=
              (List.dropWhile_sublist _).length_le
            (readGroup (f.word (c :: s.takeWhile (!Token.isSeparator ·)))
              (s.dropWhile (!Token.isSeparator ·))).widen (Nat.le_succ_of_le hrest)
termination_by s.length
decreasing_by
  · exact Nat.lt_succ_of_le (Text.trim_length s)
  · exact Nat.lt_succ_of_le hrest
  · exact hrest
  · exact hrest
  · exact hrest
  · exact Nat.lt_succ_self _
  · exact Nat.lt_succ_of_le hrest

/-- In front of all but parentheses one token is read into the group, and reading goes on
behind it. -/
theorem read_group_step (f : Frame) {c : Char} (hc : c ≠ ')') (ho : c ≠ '(') (s : List Char) :
    ∃ t rest, Token.next? (c :: s) = some (t, rest) ∧ t ≠ .opening ∧ t ≠ .closing ∧
      (readGroup f (c :: s)).tree = (readGroup (f.read t) rest).tree ∧
      (readGroup f (c :: s)).rest = (readGroup (f.read t) rest).rest := by
  rw [Token.next_of_ne hc ho, readGroup.eq_4 f c s hc ho]
  split
  · next rest hnot =>
    exact ⟨.not, rest, by rw [Token.operator?, hnot]; rfl, by simp, by simp, rfl, rfl⟩
  next hnot =>
  split
  · next rest hor =>
    exact ⟨.connective .or, rest, by rw [Token.operator?, hnot, hor]; rfl, by simp, by simp, rfl,
      rfl⟩
  next hor =>
  split
  · next rest hand =>
    refine ⟨.connective .and, rest, ?_, by simp, by simp, rfl, rfl⟩
    rw [Token.operator?, hnot, hor, hand]
    rfl
  next hand =>
  have hplain : (Token.operator? (c :: s)).getD (Token.plain c s) = Token.plain c s := by
    rw [Token.operator?, hnot, hor, hand]
    rfl
  rw [hplain, Token.plain]
  by_cases hs : Token.isSeparator c = true
  · rw [if_pos hs, if_pos hs]
    exact ⟨.separator c, s, rfl, by simp, by simp, rfl, rfl⟩
  · rw [if_neg hs, if_neg hs]
    exact ⟨.word _, _, rfl, by simp, by simp, rfl, rfl⟩

theorem build_read (f : Frame) (parents : List Frame) {t : Token} (ho : t ≠ .opening)
    (hc : t ≠ .closing) (ts : List Token) :
    build f parents (t :: ts) = build (f.read t) parents ts := by
  cases t with
  | opening => exact absurd rfl ho
  | closing => exact absurd rfl hc
  | not => rfl
  | connective op => rfl
  | word chars => rfl
  | separator c => rfl

def resume (tree : Tree) (rest : List Char) : List Frame → Tree
  | [] => tree
  | parent :: parents => build (parent.append tree) parents (Token.scan rest)

/-- Reading a text with groups waiting is reading the innermost group by recursion, and going
on behind it in the group that waits for it. -/
theorem build_scan (f : Frame) (s : List Char) (parents : List Frame) :
    build f parents (Token.scan s) = resume (readGroup f s).tree (readGroup f s).rest parents := by
  induction hn : s.length using Nat.strongRecOn generalizing f s parents with
  | ind n ih =>
    subst hn
    rcases s with _ | ⟨c, s⟩
    · rw [Token.scan_nil, readGroup]
      cases parents with
      | nil => rfl
      | cons parent parents =>
        rw [resume, Token.scan_nil]
        rfl
    by_cases hc : c = ')'
    · subst hc
      rw [Token.scan_closing, readGroup]
      cases parents <;> rfl
    by_cases ho : c = '('
    -- the group around waits while the nested one is read
    · subst ho
      have hinner := Nat.lt_succ_of_le (Text.trim_length s)
      have hbehind := Nat.lt_of_le_of_lt (readGroup {} (Text.trim s)).shorter hinner
      rw [Token.scan_opening, build, ih _ hinner _ _ _ rfl, readGroup]
      exact ih _ hbehind _ _ parents rfl
    · obtain ⟨t, rest, hnext, hopening, hclosing, htree, hrest⟩ := read_group_step f hc ho s
      rw [Token.scan_of_next hnext, build_read f parents hopening hclosing,
        htree, hrest]
      exact ih _ (Token.next_shorter hnext) _ _ parents rfl

/-- A query is the group that is read from its text. What is behind that group is not read. -/
theorem parse_reads_group (query : String) : parse query = (readGroup {} query.toList).tree := by
  rw [parse, parseChars, build_scan, resume]

end FileSearch.Query
