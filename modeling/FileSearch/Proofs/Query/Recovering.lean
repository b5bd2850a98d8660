import FileSearch.Proofs.Query.Composing

/-!
# Parentheses without a partner

Groups that are open where the text ends are closed there, as parentheses would close them, and
a parenthesis that closes nothing ends the query. So the closing parentheses that a text lacks
may be written or not, and what stands behind one too many does not matter. The text may not end
in blanks: they can be lost where the text ends, but not in front of a parenthesis.
-/

set_option autoImplicit false

namespace FileSearch.Query

section
variable {s : List Char}

theorem trim_closing (hs : SolidBack s) (tail : List Char) :
    Text.trim (s ++ ')' :: tail) = Text.trim s ++ ')' :: Text.trimRight tail := by
  have hsolid : Text.isBlank ')' = false := rfl
  have hfront : SolidFront (')' :: tail) := by simpa [SolidFront] using hsolid
  rw [(trim_back hs).1, Text.trim, trim_left_append (.inr hfront), trim_right_behind hsolid]

theorem next_closing {rest : List Char} {t : Token} (hs : SolidBack s)
    (hnext : Token.next? s = some (t, rest)) (tail : List Char) :
    SolidBack rest ∧ ∃ kept, (SolidBack tail → kept = tail) ∧
      Token.next? (s ++ ')' :: tail) = some (t, rest ++ ')' :: kept) := by
  have hfront : SolidFront (')' :: tail) := by
    simp [SolidFront, show Text.isBlank ')' = false from rfl]
  have hno : Token.NoOperator (')' :: tail) :=
    Token.no_operator_solid hfront (Token.not_operator_word_separator rfl tail)
  obtain ⟨left, cut, hleft, hcut, rfl, hagain⟩ := next_cut hnext
  have hback : SolidBack left := solid_back_suffix hleft hs
  rw [hagain _ hno (by simp [Token.isSeparator])]
  rcases hcut with rfl | rfl
  · exact ⟨hback, tail, fun _ => rfl, rfl⟩
  · refine ⟨?_, Text.trimRight tail, trim_right_solid, by rw [trim_closing hback]⟩
    rw [(trim_back hback).1]
    exact (trim_back hback).2

/-- What stands behind the parenthesis keeps the tokens in front of it as they are. -/
theorem scan_before_closing (hs : SolidBack s) (tail : List Char) :
    ∃ kept, (SolidBack tail → kept = tail) ∧
      Token.scan (s ++ ')' :: tail) = Token.scan s ++ .closing :: Token.scan kept := by
  induction s using Token.scan.induct generalizing tail with
  | case1 s hend =>
    refine ⟨tail, fun _ => rfl, ?_⟩
    rw [Token.next_eq_none hend, Token.scan_nil, List.nil_append, List.nil_append,
      Token.scan_closing]
  | case2 s t rest hnext ih =>
    obtain ⟨hrest, between, hbetween, hboth⟩ := next_closing hs hnext tail
    obtain ⟨kept, hkept, hscan⟩ := ih hrest between
    refine ⟨kept, fun htail => ?_, ?_⟩
    · obtain rfl := hbetween htail
      exact hkept htail
    · rw [Token.scan_of_next hboth, Token.scan_of_next hnext, hscan, List.cons_append]

theorem closings_solid (k : Nat) : SolidBack (List.replicate k ')') := by
  intro c hc
  rw [(List.mem_replicate.1 (List.mem_of_getLast? hc)).2]
  rfl

theorem scan_closings (hs : SolidBack s) (k : Nat) :
    Token.scan (s ++ List.replicate k ')') = Token.scan s ++ List.replicate k .closing := by
  induction k generalizing s with
  | zero => rw [List.replicate_zero, List.replicate_zero, List.append_nil, List.append_nil]
  | succ k ih =>
    obtain ⟨kept, hkept, hscan⟩ := scan_before_closing hs (List.replicate k ')')
    have hrest := ih (s := []) (by simp [SolidBack])
    rw [List.nil_append, Token.scan_nil, List.nil_append] at hrest
    rw [List.replicate_succ, hscan, hkept (closings_solid k), hrest, List.replicate_succ]

end

/-- One closing parenthesis for each group that is open does what the end of the text does. -/
theorem build_closings (f : Frame) (opened : List Frame) :
    build f opened (List.replicate opened.length .closing) = build f opened [] := by
  induction opened generalizing f with
  | nil => rfl
  | cons parent opened ih => exact ih (parent.append f.group)

theorem parse_closed {s : List Char} {k : Nat} (h : Spans 0 k s) (hs : SolidBack s) :
    parseChars (s ++ List.replicate k ')') = parseChars s := by
  have hspans : Spans 0 k ((Token.scan s).flatMap Token.parentheses) :=
    Token.scan_parentheses s ▸ spans_parentheses.2 h
  obtain ⟨g, opened, hlen, hbuild⟩ := build_spans [] hspans {}
  have hclosed := hbuild [] (List.replicate k .closing)
  have hopen := hbuild [] []
  simp only [List.append_nil] at hclosed hopen
  rw [parseChars, parseChars, scan_closings hs, hclosed, ← hlen, build_closings, hopen]

theorem parse_dropped {s : List Char} (h : Balanced s) (hs : SolidBack s) (tail : List Char) :
    parseChars (s ++ ')' :: tail) = parseChars s := by
  obtain ⟨g, hg⟩ := build_balanced h {}
  obtain ⟨kept, -, hscan⟩ := scan_before_closing hs tail
  have halone := hg [] []
  rw [List.append_nil] at halone
  rw [parseChars, parseChars, hscan, hg, halone]
  rfl

/-- A query whose parentheses come in pairs ends at a closing parenthesis behind it, whatever
follows. A query with groups left open is read as if each of them were closed at its end. -/
theorem parse_recovers :
    (∀ front behind : String, Balanced front.toList → SolidBack front.toList →
      parse (front ++ ")" ++ behind) = parse front) ∧
    ∀ (query : String) (k : Nat), Spans 0 k query.toList → SolidBack query.toList →
      parse (query ++ String.ofList (List.replicate k ')')) = parse query := by
  constructor
  · intro front behind h hs
    rw [parse, parse, String.toList_append, String.toList_append, List.append_assoc]
    exact parse_dropped h hs behind.toList
  · intro query k h hs
    rw [parse, parse, String.toList_append, String.toList_ofList]
    exact parse_closed h hs

-- A space at the end is read only in front of a parenthesis, where it ends the alternatives.
example : (parse "(a OR b ").display = "((a OR b))".toList ∧
    (parse "(a OR b )").display = "(((a OR b)))".toList := by decide +kernel

def paired : String := "a OR ( (b) NOT\t)"

def unclosed : String := "a OR ((b) NOT (c AND"

theorem unclosed_recovers :
    (Balanced paired.toList ∧ SolidBack paired.toList ∧
        parse (paired ++ ")" ++ " AND (c\n") = parse paired) ∧
      Spans 0 2 unclosed.toList ∧ SolidBack unclosed.toList ∧
        parse (unclosed ++ "))") = parse unclosed := by
  have hpairs : Balanced paired.toList := by decide +kernel
  have hpaired : SolidBack paired.toList := by decide +kernel
  have hopen : Spans 0 2 unclosed.toList := by decide +kernel
  have hunclosed : SolidBack unclosed.toList := by decide +kernel
  obtain ⟨hdropped, hclosed⟩ := parse_recovers
  exact ⟨⟨hpairs, hpaired, hdropped paired " AND (c\n" hpairs hpaired⟩,
    hopen, hunclosed, hclosed unclosed 2 hopen hunclosed⟩

end FileSearch.Query
