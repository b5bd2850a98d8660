import FileSearch.Proofs.Query.Balance
import FileSearch.Proofs.Query.Display

/-!
# Queries put together

Any query whose parentheses come in pairs can be put into parentheses and joined to others by
an operator: what is accepted then is what the operator makes of the parts. An operator that
dangles, a negation that waits and separators at the ends stay inside. Inside of parentheses a
text loses its blanks at other ends than it does alone, so both readings differ in separators,
and thus in their trees, but not in what they accept.
-/

set_option autoImplicit false

namespace FileSearch.Query

def Spaces (s : List Char) : Prop := ∀ c ∈ s, c = ' '

instance (s : List Char) : Decidable (Spaces s) := List.decidableBAll (fun c => c = ' ') s

theorem spaces_nil : Spaces [] := by simp [Spaces]

theorem spaces_append {s t : List Char} (hs : Spaces s) (ht : Spaces t) : Spaces (s ++ t) := by
  intro c hc
  exact (List.mem_append.1 hc).elim (hs c) (ht c)

theorem spaces_gap {s : List Char} (h : Spaces s) : ∀ c ∈ s, isGapChar c = true := by
  intro c hc
  rw [h c hc]
  rfl

theorem trim_left_spaces {spaces : List Char} (h : Spaces spaces) (s : List Char) :
    Text.trimLeft (spaces ++ s) = Text.trimLeft s := by
  induction spaces with
  | nil => rfl
  | cons c spaces ih =>
    obtain ⟨rfl, hrest⟩ := List.forall_mem_cons.1 h
    rw [List.cons_append, trim_left_blank rfl, ih hrest]

theorem trim_right_spaces {spaces : List Char} (h : Spaces spaces) (s : List Char) :
    Text.trimRight (s ++ spaces) = Text.trimRight s := by
  have hback : Spaces spaces.reverse := fun c hc => h c (List.mem_reverse.1 hc)
  have hleft := trim_left_spaces hback s.reverse
  rw [Text.trimRight, List.reverse_append]
  exact congrArg List.reverse hleft

section
variable {s : List Char}

instance (s : List Char) : Decidable (Spaced s) :=
  List.decidableBAll (fun c => Text.isBlank c = true → c = ' ') s

theorem spaced_sublist {t : List Char} (h : t.Sublist s) (hs : Spaced s) : Spaced t :=
  fun c hc => hs c (h.subset hc)

theorem trim_left_split (hs : Spaced s) :
    ∃ spaces, Spaces spaces ∧ s = spaces ++ Text.trimLeft s := by
  refine ⟨s.takeWhile Text.isBlank, fun c hc => ?_, List.takeWhile_append_dropWhile.symm⟩
  exact hs c (List.takeWhile_sublist _ |>.subset hc) (List.all_eq_true.1 List.all_takeWhile c hc)

theorem trim_right_split (hs : Spaced s) :
    ∃ spaces, Spaces spaces ∧ s = Text.trimRight s ++ spaces := by
  have hrev : Spaced s.reverse := fun c hc => hs c (List.mem_reverse.1 hc)
  obtain ⟨spaces, hspaces, hsplit⟩ := trim_left_split hrev
  refine ⟨spaces.reverse, fun c hc => hspaces c (List.mem_reverse.1 hc), ?_⟩
  rw [Text.trimRight, ← List.reverse_append]
  exact (List.reverse_reverse s).symm.trans (congrArg List.reverse hsplit)

end

structure Ending (s : List Char) : Prop extends Follows s where
  front : SolidFront s

theorem ending_nil : Ending [] := ⟨follows_nil, by simp [SolidFront]⟩

theorem ending_closing {rest : List Char} (h : Follows rest) : Ending (')' :: rest) :=
  ⟨follows_closing h, by simp [SolidFront, show Text.isBlank ')' = false from rfl]⟩

theorem ending_no_operator {ending : List Char} (h : Ending ending) : Token.NoOperator ending := by
  rcases ending with _ | ⟨c, ending⟩
  · intro word hword hp
    exact Token.operator_word_nonempty word hword (List.prefix_nil.1 hp)
  · refine Token.no_operator_solid h.front (Token.not_operator_word_separator ?_ ending)
    exact h.separated c (by simp)

section
variable {s spaces ending : List Char}

theorem spaces_separated (hspaces : Spaces spaces) (h : Ending ending) :
    ∀ c ∈ (spaces ++ ending).head?, Token.isSeparator c = true := by
  rcases spaces with _ | ⟨c, spaces⟩
  · exact h.separated
  · obtain ⟨rfl, -⟩ := List.forall_mem_cons.1 hspaces
    simp [Token.isSeparator]

/-- Behind an opening parenthesis or an operator word, a text loses the spaces in front of it,
and those behind it too unless something follows. -/
theorem trim_before (hs : Spaced s) (hspaces : Spaces spaces) (h : Ending ending) :
    ∃ kept, Spaces kept ∧
      Text.trim (s ++ (spaces ++ ending)) = Text.trim s ++ (kept ++ ending) := by
  rw [Text.trim, Text.trim]
  by_cases hnil : Text.trimLeft s = []
  · refine ⟨[], spaces_nil, ?_⟩
    rw [trim_left_blanks hnil, trim_left_spaces hspaces, trim_left_solid h.front,
      trim_right_solid h.back, hnil]
    rfl
  · have hleft : Spaced (Text.trimLeft s) := spaced_sublist (List.dropWhile_sublist _) hs
    obtain ⟨trail, htrail, hsplit⟩ := trim_right_split hleft
    rw [trim_left_append (.inl hnil)]
    by_cases hempty : ending = []
    · refine ⟨[], spaces_nil, ?_⟩
      rw [hempty, List.append_nil, List.append_nil, List.append_nil, trim_right_spaces hspaces]
    · refine ⟨trail ++ spaces, spaces_append htrail hspaces, ?_⟩
      have hback := solid_back_of_nonempty (s := Text.trimLeft s ++ spaces) hempty h.back
      rw [List.append_assoc] at hback
      rw [trim_right_solid hback]
      conv_lhs => rw [hsplit]
      simp only [List.append_assoc]

theorem plain_before {rest : List Char} (hrest : ∀ c ∈ rest.head?, Token.isSeparator c = true)
    (c : Char) :
    Token.plain c (s ++ rest) = ((Token.plain c s).1, (Token.plain c s).2 ++ rest) := by
  have hword : (s ++ rest).takeWhile (!Token.isSeparator ·) = s.takeWhile (!Token.isSeparator ·) ∧
      (s ++ rest).dropWhile (!Token.isSeparator ·) =
        s.dropWhile (!Token.isSeparator ·) ++ rest := by
    induction s with
    | nil =>
      cases rest with
      | nil => exact ⟨rfl, rfl⟩
      | cons d rest => simp [hrest d (by simp)]
    | cons d s ih =>
      by_cases hd : Token.isSeparator d = true
      · simp [hd]
      · simpa [hd] using ih
  rw [Token.plain, Token.plain, hword.1, hword.2]
  split
  · rfl
  · rfl

/-- A text is cut at the same places whatever stands behind it, if that begins with a separator
and with no operator word. What is left of the text may lose the blanks at its ends. -/
theorem next_cut {rest : List Char} {t : Token} (hnext : Token.next? s = some (t, rest)) :
    ∃ left cut, left <:+ s ∧ (cut = id ∨ cut = Text.trim) ∧ rest = cut left ∧
      ∀ more, Token.NoOperator more → (∀ c ∈ more.head?, Token.isSeparator c = true) →
        Token.next? (s ++ more) = some (t, cut (left ++ more)) := by
  rcases s with _ | ⟨c, s⟩
  · cases hnext
  by_cases hc : c = ')'
  · subst hc
    cases hnext
    exact ⟨_, id, List.suffix_cons _ _, .inl rfl, rfl, fun _ _ _ => rfl⟩
  by_cases ho : c = '('
  · subst ho
    cases hnext
    exact ⟨s, Text.trim, List.suffix_cons _ _, .inr rfl, rfl, fun _ _ _ => rfl⟩
  rw [Token.next_of_ne hc ho] at hnext
  have hboth (more : List Char) : Token.next? (c :: s ++ more) =
      some ((Token.operator? (c :: s ++ more)).getD (Token.plain c (s ++ more))) :=
    Token.next_of_ne hc ho (s ++ more)
  cases hop : Token.operator? (c :: s) with
  | some found =>
    rw [hop] at hnext
    cases hnext
    obtain ⟨word, hword, tail, htail, rfl, -, hagain⟩ := Token.operator_front hop
    have hleft : tail <:+ Text.trimLeft (c :: s) := htail ▸ List.suffix_append word tail
    refine ⟨tail, Text.trim, hleft.trans (List.dropWhile_suffix _), .inr rfl, rfl, ?_⟩
    intro more _ _
    have hne : Text.trimLeft (c :: s) ≠ [] := by
      simp [htail, Token.operator_word_nonempty word hword]
    have hall : Text.trimLeft (c :: s ++ more) = word ++ (tail ++ more) := by
      rw [trim_left_append (.inl hne), htail, List.append_assoc]
    rw [hboth, hagain _ _ hall, Option.getD_some]
  | none =>
    rw [hop, Option.getD_none, Option.some.injEq] at hnext
    have hrest : (Token.plain c s).2 <:+ c :: s := Token.plain_suffix c s
    rw [hnext] at hrest
    refine ⟨rest, id, hrest, .inl rfl, rfl, fun more hmore hseparated => ?_⟩
    have hno := Token.no_operator_append ((Token.operator_eq_none_iff _).1 hop) hmore hseparated
    rw [hboth, (Token.operator_eq_none_iff _).2 hno, Option.getD_none, plain_before hseparated,
      hnext]
    rfl

/-- Spaces in front of an ending may be lost where the text is cut. -/
theorem next_before {rest : List Char} {t : Token} (hs : Spaced s)
    (hnext : Token.next? s = some (t, rest)) (hspaces : Spaces spaces) (h : Ending ending) :
    ∃ kept, Spaces kept ∧
      Token.next? (s ++ (spaces ++ ending)) = some (t, rest ++ (kept ++ ending)) := by
  have hno := no_operator_gap (spaces_gap hspaces) (ending_no_operator h)
  obtain ⟨left, cut, hleft, hcut, rfl, hagain⟩ := next_cut hnext
  rw [hagain _ hno (spaces_separated hspaces h)]
  rcases hcut with rfl | rfl
  · exact ⟨spaces, hspaces, rfl⟩
  · obtain ⟨kept, hkept, htrim⟩ := trim_before (spaced_sublist hleft.sublist hs) hspaces h
    exact ⟨kept, hkept, by rw [htrim]⟩

/-- What stands behind a text adds its own tokens, and separators for the spaces between. -/
theorem scan_before (hs : Spaced s) (hspaces : Spaces spaces) (h : Ending ending) :
    ∃ kept, Spaces kept ∧ Token.scan (s ++ (spaces ++ ending)) =
      Token.scan s ++ (kept.map .separator ++ Token.scan ending) := by
  induction s using Token.scan.induct generalizing spaces with
  | case1 s hend =>
    refine ⟨spaces, hspaces, ?_⟩
    rw [Token.next_eq_none hend, Token.scan_nil, List.nil_append,
      scan_gap (spaces_gap hspaces) (ending_no_operator h), List.nil_append]
  | case2 s t rest hnext ih =>
    obtain ⟨between, hbetween, hboth⟩ := next_before hs hnext hspaces h
    have hrest : Spaced rest := spaced_sublist (Token.next_part hnext).1.sublist hs
    obtain ⟨kept, hkept, hscan⟩ := ih hrest hbetween
    refine ⟨kept, hkept, ?_⟩
    rw [Token.scan_of_next hboth, Token.scan_of_next hnext, hscan, List.cons_append]

end

theorem scan_blank (s : List Char) :
    Token.scan (' ' :: s) = Token.scan s ∨
      Token.scan (' ' :: s) = .separator ' ' :: Token.scan s := by
  cases hop : Token.operator? s with
  | none =>
    right
    have hno := (Token.operator_eq_none_iff s).1 hop
    exact Token.scan_separator (by decide) (by decide) rfl (Token.no_operator_separator rfl hno)
  | some found =>
    left
    obtain ⟨t, rest⟩ := found
    obtain ⟨word, hword, tail, htail, rfl, -, hagain⟩ := Token.operator_front hop
    have hblank : Text.trimLeft (' ' :: s) = word ++ tail := by rw [trim_left_blank rfl, htail]
    rw [Token.scan_operator (by decide) (by decide) (hagain _ _ hblank)]
    rcases s with _ | ⟨c, s⟩
    · rw [Token.operator_eq_none_iff _ |>.2 (ending_no_operator ending_nil)] at hop
      cases hop
    have hsolid (d : Char) (hd : Text.isBlank d = false) (hsep : Token.isSeparator d = true) :
        c ≠ d := by
      rintro rfl
      have hno := Token.no_operator_solid (s := c :: s) (by simpa [SolidFront] using hd)
        (Token.not_operator_word_separator hsep s)
      rw [(Token.operator_eq_none_iff _).2 hno] at hop
      cases hop
    rw [Token.scan_operator (hsolid ')' rfl rfl) (hsolid '(' rfl rfl) hop]

theorem build_front {spaces : List Char} (h : Spaces spaces) (s : List Char) :
    build {} [] (Token.scan (spaces ++ s)) = build {} [] (Token.scan s) := by
  induction spaces with
  | nil => rfl
  | cons c spaces ih =>
    obtain ⟨rfl, hrest⟩ := List.forall_mem_cons.1 h
    rw [← ih hrest, List.cons_append]
    rcases scan_blank (spaces ++ s) with hscan | hscan
    · rw [hscan]
    · rw [hscan]
      rfl

def Frame.spaced (f : Frame) (spaces : List Char) : Frame :=
  if spaces = [] then f else f.separate

theorem build_spaces (f : Frame) (parents : List Frame) (spaces : List Char) (ts : List Token) :
    build f parents (spaces.map .separator ++ ts) = build (f.spaced spaces) parents ts := by
  by_cases hnil : spaces = []
  · rw [hnil]
    rfl
  · rw [build_gap f parents hnil, Frame.spaced, if_neg hnil]

theorem Frame.spaced_accepts (f : Frame) (spaces target : List Char) :
    (f.spaced spaces).group.accepts target = f.group.accepts target := by
  rw [Frame.spaced]
  split
  · rfl
  · exact f.separate_accepts target

def StandsFor (t : Tree) (query : List Char) : Prop :=
  ∀ target, t.accepts target = (parseChars query).accepts target

/-- A query in parentheses is an operand that stands for the query. -/
theorem build_enclosed {query : List Char} (hs : Spaced query) (hb : Balanced query) (f : Frame)
    (parents : List Frame) {rest : List Char} (h : Follows rest) :
    ∃ t, StandsFor t query ∧
      build f parents (Token.scan ('(' :: (query ++ ')' :: rest))) =
        build (f.append t) parents (Token.scan rest) := by
  have hleft : Spaced (Text.trimLeft query) := spaced_sublist (List.dropWhile_sublist _) hs
  have hbare : Spaced (Text.trim query) := spaced_sublist (trim_part query).sublist hs
  have hpairs : Balanced (Text.trim query) := by
    rw [Balanced, ← spans_parentheses, trim_parentheses]
    exact spans_parentheses.2 hb
  obtain ⟨g, hg⟩ := build_balanced hpairs {}
  obtain ⟨lead, hlead, hfront⟩ := trim_left_split hs
  obtain ⟨trail, htrail, hback⟩ := trim_right_split hleft
  have hquery : query = lead ++ (Text.trim query ++ (trail ++ [])) := by
    rw [List.append_nil]
    exact hfront.trans (congrArg (lead ++ ·) hback)
  -- the spaces behind the text are read when it stands alone
  obtain ⟨last, -, halone⟩ := scan_before hbare htrail ending_nil
  have hparse : parseChars query = (g.spaced last).group := by
    rw [parseChars]
    conv_lhs => rw [hquery]
    rw [build_front hlead, halone, hg, build_spaces, Token.scan_nil]
    rfl
  -- inside of parentheses others may be
  have hclosing := ending_closing h
  obtain ⟨between, hbetween, htrim⟩ := trim_before hs spaces_nil hclosing
  obtain ⟨kept, -, hinside⟩ := scan_before hbare hbetween hclosing
  refine ⟨(g.spaced kept).group, fun target => ?_, ?_⟩
  · rw [hparse, Frame.spaced_accepts, Frame.spaced_accepts]
  · rw [List.nil_append] at htrim
    rw [Token.scan_opening, htrim, hinside, build, hg, build_spaces, Token.scan_closing, build]

def chained (op : Connective) (queries : List (List Char)) : List Char :=
  queries.flatMap fun query => Tree.infixed op.operator ++ ('(' :: (query ++ [')']))

theorem chained_cons (op : Connective) (query : List Char) (queries : List (List Char)) :
    chained op (query :: queries) =
      Tree.infixed op.operator ++ ('(' :: (query ++ ')' :: chained op queries)) := by
  simp [chained]

theorem chained_follows (op : Connective) (queries : List (List Char)) :
    Follows (chained op queries) := by
  induction queries with
  | nil => exact follows_nil
  | cons query queries ih =>
    have hback := solid_back_of_nonempty (s := Tree.infixed op.operator ++ '(' :: query)
      (List.cons_ne_nil _ _) (follows_closing ih).back
    rw [chained_cons]
    refine ⟨by simp [Tree.infixed, Token.isSeparator], ?_⟩
    simpa using hback

theorem build_chained (op : Connective) (queries : List (List Char))
    (hs : ∀ query ∈ queries, Spaced query) (hb : ∀ query ∈ queries, Balanced query) {f : Frame}
    (hop : f.operator = op ∨ f.children.length ≤ 1) :
    ∃ ts : List Tree, (∀ target, ts.map (·.accepts target) =
        queries.map fun query => (parseChars query).accepts target) ∧
      build f [] (Token.scan (chained op queries)) =
        .group (if queries = [] then f.operator else op).operator (f.children ++ ts) := by
  induction queries generalizing f with
  | nil =>
    refine ⟨[], fun _ => rfl, ?_⟩
    rw [chained, List.flatMap_nil, Token.scan_nil, if_pos rfl, List.append_nil]
    rfl
  | cons query queries ih =>
    obtain ⟨hquery, hs⟩ := List.forall_mem_cons.1 hs
    obtain ⟨hpairs, hb⟩ := List.forall_mem_cons.1 hb
    have hfollows := chained_follows op queries
    obtain ⟨t, ht, henclosed⟩ :=
      build_enclosed hquery hpairs { f with operator := op } [] hfollows
    obtain ⟨ts, hts, hrest⟩ :=
      ih hs hb (f := ({ f with operator := op } : Frame).append t) (.inl rfl)
    have hfront : SolidFront ('(' :: (query ++ ')' :: chained op queries)) := by
      simp [SolidFront, show Text.isBlank '(' = false from rfl]
    have hback := solid_back_of_nonempty (s := '(' :: query) (List.cons_ne_nil _ _)
      (follows_closing hfollows).back
    refine ⟨t :: ts, fun target => ?_, ?_⟩
    · rw [List.map_cons, List.map_cons, ht, hts]
    · rw [chained_cons, scan_infixed op hfront hback, build_connective, rebind_single hop,
        henclosed, hrest, if_neg (List.cons_ne_nil _ _)]
      simp [Frame.append]

def composed (op : Connective) (queries : List String) : String :=
  String.ofList (Tree.join (Tree.infixed op.operator)
    (queries.map fun query => '(' :: (query.toList ++ [')'])))

theorem composed_chars (op : Connective) (query : String) (queries : List String) :
    (composed op (query :: queries)).toList =
      '(' :: (query.toList ++ ')' :: chained op (queries.map String.toList)) := by
  rw [composed, String.toList_ofList, List.map_cons, Tree.join_cons, chained, List.flatMap_map,
    List.flatMap_map]
  simp

/-- A composed query accepts what its operator makes of what the queries accept. -/
theorem keeps_joined (op : Connective) {queries : List String} (hne : queries ≠ [])
    (hs : ∀ query ∈ queries, Spaced query.toList)
    (hb : ∀ query ∈ queries, Balanced query.toList) (name : String) :
    keeps (composed op queries) name =
      Tree.holds op.operator (queries.map fun query => keeps query name) := by
  obtain ⟨query, queries, rfl⟩ := List.exists_cons_of_ne_nil hne
  obtain ⟨hquery, hs⟩ := List.forall_mem_cons.1 hs
  obtain ⟨hpairs, hb⟩ := List.forall_mem_cons.1 hb
  obtain ⟨t, ht, henclosed⟩ :=
    build_enclosed hquery hpairs {} [] (chained_follows op (queries.map String.toList))
  obtain ⟨ts, hts, hchained⟩ := build_chained op (queries.map String.toList) (by simpa using hs)
    (by simpa using hb) (f := Frame.append {} t) (.inr (Nat.le_refl _))
  have hvalues : (t :: ts).map (·.accepts name.toList) =
      (query :: queries).map fun query => keeps query name := by
    rw [List.map_cons, ht, hts, List.map_map]
    rfl
  rw [keeps, parse, parseChars, composed_chars, henclosed, hchained, Tree.accepts_group,
    ← hvalues]
  cases queries with
  | nil =>
    obtain rfl : ts = [] := by simpa using congrArg List.length (hts [])
    cases op <;> simp [Frame.append, Connective.operator, Tree.holds]
  | cons next queries => rfl

/-- Queries in parentheses that are joined by `OR` keep the names that one of them keeps, and
joined by `AND` those that all of them keep, however malformed they are between their
parentheses. -/
theorem keeps_composed {queries : List String} (hne : queries ≠ [])
    (hs : ∀ query ∈ queries, Spaced query.toList)
    (hb : ∀ query ∈ queries, Balanced query.toList) (name : String) :
    (keeps (composed .or queries) name = true ↔ ∃ query ∈ queries, keeps query name = true) ∧
      (keeps (composed .and queries) name = true ↔ ∀ query ∈ queries, keeps query name = true) := by
  rw [keeps_joined .or hne hs hb, keeps_joined .and hne hs hb]
  simp [Tree.holds, Connective.operator, hne]

def dangling : List String := ["a.b OR ", "  NOT c -(d) NOT ", ", e AND"]

theorem dangling_composed :
    (dangling ≠ [] ∧ (∀ query ∈ dangling, Spaced query.toList) ∧
        ∀ query ∈ dangling, Balanced query.toList) ∧
      composed .or dangling = "(a.b OR ) OR (  NOT c -(d) NOT ) OR (, e AND)" ∧
      keeps (composed .or dangling) "Abd" = true ∧
      keeps (composed .and dangling) "Abd" = false := by
  have hne : dangling ≠ [] := List.cons_ne_nil _ _
  have hspaced : ∀ query ∈ dangling, Spaced query.toList := by decide +kernel
  have hbalanced : ∀ query ∈ dangling, Balanced query.toList := by decide +kernel
  obtain ⟨hor, hand⟩ := keeps_composed hne hspaced hbalanced "Abd"
  refine ⟨⟨hne, hspaced, hbalanced⟩, by decide +kernel, ?_, ?_⟩
  · exact hor.2 ⟨"a.b OR ", by decide, by decide +kernel⟩
  · rw [← Bool.not_eq_true, hand]
    exact fun hall => absurd (hall ", e AND" (by decide)) (by decide +kernel)

end FileSearch.Query
