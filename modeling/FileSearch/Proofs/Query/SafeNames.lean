import FileSearch.Hit.Sanitize
import FileSearch.Proofs.Query.Leaves
import FileSearch.Proofs.Query.Reduction
import FileSearch.Query.Filter

/-!
# Queries and safe names

A name that is made safe loses what is no letter or digit of ASCII to points. A word that is
not found in a name is then not found in its safe name either, since no word has a point. The
other way round a word is lost only with the characters that are, and with those that stand
for letters of ASCII where case does not matter. Trees over words of letters and digits of
ASCII can therefore gain names by this only below a negation, and a name of ASCII is the same
to them as its safe name.
-/

set_option autoImplicit false

namespace FileSearch

namespace Text

/-- The second text is the first one, but that characters without the property may be gone and
anything may stand in their places. -/
inductive Blurred (p : Char → Prop) : List Char → List Char → Prop
  | nil : Blurred p [] []
  | same (c : Char) {s t : List Char} (h : Blurred p s t) : Blurred p (c :: s) (c :: t)
  | lost {c : Char} (hc : ¬ p c) (gap : List Char) {s t : List Char} (h : Blurred p s t) :
    Blurred p (c :: s) (gap ++ t)

section
variable {p : Char → Prop} {s t word : List Char}

theorem blurred_refl (s : List Char) : Blurred p s s := by
  induction s with
  | nil => exact .nil
  | cons c s ih => exact .same c ih

theorem blurred_append {s' t' : List Char} (h : Blurred p s t) (h' : Blurred p s' t') :
    Blurred p (s ++ s') (t ++ t') := by
  induction h with
  | nil => exact h'
  | same c h ih => exact .same c ih
  | lost hc gap h ih =>
    rw [List.append_assoc]
    exact .lost hc gap ih

theorem blurred_chars {f g : Char → List Char} (h : ∀ c ∈ s, Blurred p (f c) (g c)) :
    Blurred p (s.flatMap f) (s.flatMap g) := by
  induction s with
  | nil => exact .nil
  | cons c s ih =>
    obtain ⟨hc, hs⟩ := List.forall_mem_cons.1 h
    exact blurred_append hc (ih hs)

/-- A text without any character that has the property may become any other text. -/
theorem blurred_lost (hs : s ≠ []) (h : ∀ c ∈ s, ¬ p c) (t : List Char) : Blurred p s t := by
  have hgone (s : List Char) (h : ∀ c ∈ s, ¬ p c) : Blurred p s [] := by
    induction s with
    | nil => exact .nil
    | cons c s ih =>
      obtain ⟨hc, hs⟩ := List.forall_mem_cons.1 h
      exact .lost hc [] (ih hs)
  obtain ⟨c, s, rfl⟩ := List.exists_cons_of_ne_nil hs
  obtain ⟨hc, hs⟩ := List.forall_mem_cons.1 h
  have hlost := Blurred.lost hc t (hgone s hs)
  rwa [List.append_nil] at hlost

theorem blurred_eq (h : Blurred p s t) (hs : ∀ c ∈ s, p c) : t = s := by
  induction h with
  | nil => rfl
  | same c h ih => rw [ih (List.forall_mem_cons.1 hs).2]
  | lost hc gap h ih => exact absurd (List.forall_mem_cons.1 hs).1 hc

theorem blurred_front (h : Blurred p s t) (hword : ∀ c ∈ word, p c) (hs : word <+: s) :
    word <+: t := by
  induction h generalizing word with
  | nil => exact hs
  | same c h ih =>
    rcases List.prefix_cons_iff.1 hs with rfl | ⟨rest, rfl, hrest⟩
    · exact List.nil_prefix
    · have hfront := ih (List.forall_mem_cons.1 hword).2 hrest
      exact List.cons_prefix_cons.2 ⟨rfl, hfront⟩
  | lost hc gap h ih =>
    rcases List.prefix_cons_iff.1 hs with rfl | ⟨rest, rfl, hrest⟩
    · exact List.nil_prefix
    · exact absurd (List.forall_mem_cons.1 hword).1 hc

theorem blurred_inside (h : Blurred p s t) (hword : ∀ c ∈ word, p c) (hs : word <:+: s) :
    word <:+: t := by
  induction h with
  | nil => exact hs
  | same c h ih =>
    rcases List.infix_cons_iff.1 hs with hfront | hrest
    · exact (blurred_front (.same c h) hword hfront).isInfix
    · exact (ih hrest).trans (List.suffix_cons c _).isInfix
  | lost hc gap h ih =>
    rcases List.infix_cons_iff.1 hs with hfront | hrest
    · exact (blurred_front (.lost hc gap h) hword hfront).isInfix
    · exact (ih hrest).trans (List.suffix_append gap _).isInfix

theorem blurred_back (h : Blurred p s t) (hword : ∀ c ∈ word, p c) (hs : word <:+ s) :
    word <:+ t := by
  induction h with
  | nil => exact hs
  | same c h ih =>
    rcases List.suffix_cons_iff.1 hs with rfl | hrest
    · exact blurred_eq (.same c h) hword ▸ List.suffix_rfl
    · exact (ih hrest).trans (List.suffix_cons c _)
  | lost hc gap h ih =>
    rcases List.suffix_cons_iff.1 hs with rfl | hrest
    · exact absurd (List.forall_mem_cons.1 hword).1 hc
    · exact (ih hrest).trans (List.suffix_append gap _)

end

namespace Case

theorem lookup_mem {many : List (Nat × List Nat)} {code : Nat} {codes : List Nat}
    (h : many.lookup code = some codes) : (code, codes) ∈ many := by
  obtain ⟨before, after, rfl, -⟩ := List.lookup_eq_some_iff.1 h
  simp

theorem fold_char_nonempty (c : Char) : foldChar c ≠ [] := by
  have htable : ∀ entry ∈ foldingMany, entry.2 ≠ [] := by decide +kernel
  rw [foldChar]
  split
  · exact List.cons_ne_nil _ _
  · rw [mapped]
    split
    · next codes hcodes => simpa using htable _ (lookup_mem hcodes)
    · exact List.cons_ne_nil _ _

theorem fold_char_ascii {c : Char} (h : c.toNat < 0x80) : foldChar c = [c.toLower] := if_pos h

theorem of_nat_point {code : Nat} (h : Char.ofNat code = '.') : code = 0x2E := by
  rw [Char.ofNat] at h
  by_cases hvalid : code.isValidChar
  · rw [dif_pos hvalid] at h
    exact congrArg Char.toNat h
  · rw [dif_neg hvalid] at h
    cases h

theorem shifted_point {code : Nat} (h : 0x80 ≤ code) : shifted foldingRuns code ≠ 0x2E := by
  have htable : ∀ run ∈ foldingRuns, 0x2E < run.first + run.shift := by decide +kernel
  rw [shifted]
  split
  · next run hrun =>
    have hlow := htable run (List.mem_of_find?_eq_some hrun)
    have hcovers := List.find?_some hrun
    simp only [Run.covers, Bool.and_eq_true, decide_eq_true_eq] at hcovers
    rw [Run.move]
    omega
  · omega

theorem fold_char_point {c : Char} (h : '.' ∈ foldChar c) : c = '.' := by
  rw [foldChar] at h
  split at h
  · next hc =>
    have hascii : ∀ code < 0x80, (Char.ofNat code).toLower = '.' → Char.ofNat code = '.' := by
      decide +kernel
    have hlower := hascii c.toNat hc
    rw [Char.ofNat_toNat] at hlower
    exact hlower (List.mem_singleton.1 h).symm
  · next hc =>
    have htable : ∀ entry ∈ foldingMany, 0x2E ∉ entry.2 := by decide +kernel
    rw [mapped] at h
    split at h
    · next codes hcodes =>
      obtain ⟨code, hcode, hpoint⟩ := List.mem_map.1 h
      obtain rfl := of_nat_point hpoint
      exact absurd hcode (htable _ (lookup_mem hcodes))
    · have hpoint := of_nat_point (List.mem_singleton.1 h).symm
      exact absurd hpoint (shifted_point (by omega))

end Case

theorem fold_point {s : List Char} (h : '.' ∈ fold s) : '.' ∈ s := by
  obtain ⟨c, hc, hpoint⟩ := List.mem_flatMap.1 h
  exact Case.fold_char_point hpoint ▸ hc

end Text

namespace Hit

def ClearName (name : String) : Prop :=
  ∀ c ∈ name.toList, isSafe c = false → ∀ d ∈ Text.Case.foldChar c, isSafe d = false

instance (name : String) : Decidable (ClearName name) :=
  decidable_of_iff
    ((name.toList.all fun c => isSafe c || (Text.Case.foldChar c).all fun d => !isSafe d) = true)
    (by simp [ClearName, or_iff_not_imp_left])

def staysSafe (c : Char) : Bool := isSafe c || c == '.'

theorem safe_name_fold (name : String) : Text.fold (safeName name).toList =
    name.toList.flatMap fun c => Text.Case.foldChar (safeChar c) := by
  rw [safeName, String.toList_map, Text.fold, List.flatMap_map]

/-- A safe name has the letters and digits of its name, and its points. -/
theorem safe_name_blurs {name : String} (h : ClearName name) :
    Text.Blurred (staysSafe ·) (Text.fold name.toList) (Text.fold (safeName name).toList) := by
  rw [safe_name_fold]
  apply Text.blurred_chars
  intro c hc
  by_cases hsafe : isSafe c = true
  · rw [safeChar, if_pos hsafe]
    exact Text.blurred_refl _
  by_cases hpoint : c = '.'
  · subst hpoint
    exact Text.blurred_refl _
  apply Text.blurred_lost (Text.Case.fold_char_nonempty c)
  intro d hd hstays
  have hlost : isSafe d = false := h c hc (by simpa using hsafe) d hd
  obtain rfl : d = '.' := by simpa [staysSafe, hlost] using hstays
  exact hpoint (Text.Case.fold_char_point hd)

theorem name_blurs (name : String) :
    Text.Blurred (· ≠ '.') (Text.fold (safeName name).toList) (Text.fold name.toList) := by
  rw [safe_name_fold]
  apply Text.blurred_chars
  intro c _
  by_cases hsafe : isSafe c = true
  · rw [safeChar, if_pos hsafe]
    exact Text.blurred_refl _
  · rw [safeChar, if_neg hsafe, show Text.Case.foldChar '.' = ['.'] from rfl]
    exact Text.blurred_lost (List.cons_ne_nil _ _) (by simp) _

theorem safe_ascii {c : Char} (h : isSafe c = true) : c.toNat < 0x80 := by
  have hcode (last : Char) (hlast : last.toNat < 0x80) (hle : c.val ≤ last.val) :
      c.toNat < 0x80 := Nat.lt_of_le_of_lt (UInt32.le_iff_toNat_le.1 hle) hlast
  rcases Bool.or_eq_true_iff.1 h with halpha | hdigit
  · rcases Bool.or_eq_true_iff.1 halpha with hupper | hlower
    · exact hcode 'Z' (by decide) (of_decide_eq_true hupper).2
    · exact hcode 'z' (by decide) (of_decide_eq_true (Bool.and_eq_true_iff.1 hlower).2)
  · exact hcode '9' (by decide) (of_decide_eq_true (Bool.and_eq_true_iff.1 hdigit).2)

theorem safe_lower {c : Char} (h : c.toNat < 0x80) : isSafe c.toLower = isSafe c := by
  have hascii : ∀ code < 0x80, isSafe (Char.ofNat code).toLower = isSafe (Char.ofNat code) := by
    decide +kernel
  have hlower := hascii c.toNat h
  rwa [Char.ofNat_toNat] at hlower

theorem ascii_clear {name : String} (h : ∀ c ∈ name.toList, c.toNat < 0x80) : ClearName name := by
  intro c hc hother d hd
  rw [Text.Case.fold_char_ascii (h c hc), List.mem_singleton] at hd
  rw [hd, safe_lower (h c hc), hother]

end Hit

namespace Query

namespace Tree

theorem holds_monotone (op : Connective) {ts : List Tree} {f g : Tree → Bool}
    (h : ∀ t ∈ ts, f t = true → g t = true)
    (hf : holds op.operator (ts.map f) = true) : holds op.operator (ts.map g) = true := by
  by_cases hempty : ts = []
  · subst hempty
    rfl
  cases op with
  | and =>
    have hall : ∀ t ∈ ts, f t = true := by simpa [holds, Connective.operator, hempty] using hf
    simpa [holds, Connective.operator, hempty] using fun t ht => h t ht (hall t ht)
  | or =>
    have hany : ∃ t ∈ ts, f t = true := by simpa [holds, Connective.operator, hempty] using hf
    obtain ⟨t, ht, hft⟩ := hany
    simpa [holds, Connective.operator, hempty] using ⟨t, ht, h t ht hft⟩

end Tree

def Leaf.Carries (a b : List Char) (leaf : Leaf) : Prop :=
  if leaf.negated then Text.fold leaf.chars <:+: Text.fold b → Text.fold leaf.chars <:+: Text.fold a
  else Text.fold leaf.chars <:+: Text.fold a → Text.fold leaf.chars <:+: Text.fold b

/-- A query that accepts a text accepts every other one to which its leaves carry over: nothing
but leaves is negated in it. -/
theorem accepts_carried {leaf : List Char → Prop} {t : Tree} {a b : List Char}
    (ht : Shaped leaf t)
    (h : ∀ l ∈ t.leaves false, leaf l.chars → l.Carries a b)
    (ha : t.accepts a = true) : t.accepts b = true := by
  induction ht with
  | term hword =>
    have hcarries := h _ (List.mem_singleton.2 rfl) hword
    rw [Tree.accepts_term, Tree.found_iff] at ha ⊢
    exact hcarries ha
  | @negation chars hword =>
    have hcarries := h ⟨chars, true⟩ (by simp [Tree.leaves]) hword
    have hnot (target : List Char) : (Tree.group .not [.term chars]).accepts target = true ↔
        ¬ Text.fold chars <:+: Text.fold target := by
      rw [Tree.accepts_group, ← Tree.found_iff]
      simp [Tree.holds]
    rw [hnot] at ha ⊢
    exact fun hb => ha (hcarries hb)
  | group op hchildren ih =>
    rw [Tree.accepts_group] at ha ⊢
    refine Tree.holds_monotone op (fun t ht => ih t ht fun l hl => h l ?_) ha
    have hop : (op.operator == Operator.not) = false := by cases op <;> rfl
    rw [Tree.leaves, hop, Tree.leaves_all_eq]
    exact List.mem_flatMap.2 ⟨t, ht, hl⟩

def SafeWords (t : Tree) : Prop :=
  ∀ leaf ∈ t.leaves false, leaf.negated = false →
    ∀ c ∈ Text.fold leaf.chars, Hit.isSafe c = true

instance (t : Tree) : Decidable (SafeWords t) :=
  decidable_of_iff
    (((t.leaves false).all fun leaf =>
      leaf.negated || (Text.fold leaf.chars).all Hit.isSafe) = true)
    (by simp [SafeWords, or_iff_not_imp_left])

def SafeExtension (extension : Option String) : Prop :=
  ∀ text, extension = some text → Text.allBlank text.toList = true ∨
    (Text.fold (bareExtension text.toList)).all Hit.staysSafe = true

theorem plain_point {chars : List Char} (h : Token.Plain chars) : '.' ∉ chars :=
  fun hpoint => absurd (h.inside '.' hpoint) (by decide)

theorem keeps_safe {query name : String} (hname : Hit.ClearName name)
    (hwords : SafeWords (parse query)) (h : keeps query name = true) :
    keeps query (Hit.safeName name) = true := by
  have hshaped : Shaped Token.Plain (parse query) :=
    parse_shaped fun chars hmem => (Token.scan_word_part hmem).1
  refine accepts_carried hshaped ?_ h
  rintro ⟨chars, _ | _⟩ hleaf hplain
  · intro hin
    have hsafe := hwords _ hleaf rfl
    exact Text.blurred_inside (Hit.safe_name_blurs hname)
      (fun c hc => by simp [Hit.staysSafe, hsafe c hc]) hin
  · intro hin
    refine Text.blurred_inside (Hit.name_blurs name) ?_ hin
    rintro c hc rfl
    exact plain_point hplain (Text.fold_point hc)

-- A sharp s stands for two letters, which are lost with it.
example : keeps "strasse" "straße" = true ∧ keeps "strasse" (Hit.safeName "straße") = false := by
  decide +kernel

theorem has_extension_safe {name : String} {extension : Option String}
    (hname : Hit.ClearName name) (hsafe : SafeExtension extension)
    (h : hasExtension name extension = true) :
    hasExtension (Hit.safeName name) extension = true := by
  cases extension with
  | none => rfl
  | some text =>
    rw [hasExtension, Bool.or_eq_true] at h ⊢
    rcases hsafe text rfl with hblank | hchars
    · exact .inl hblank
    refine h.imp_right fun hback => ?_
    rw [List.isSuffixOf_iff_suffix] at hback ⊢
    exact Text.blurred_back (Hit.safe_name_blurs hname)
      (List.forall_mem_cons.2 ⟨rfl, List.all_eq_true.1 hchars⟩) hback

def SafeWord (chars : List Char) : Prop := ∀ c ∈ chars, Hit.isSafe c = true

instance (chars : List Char) : Decidable (SafeWord chars) :=
  decidable_of_iff (chars.all Hit.isSafe = true) List.all_eq_true

theorem safe_word_fold {chars : List Char} (h : SafeWord chars) : SafeWord (Text.fold chars) := by
  intro d hd
  obtain ⟨c, hc, hd⟩ := List.mem_flatMap.1 hd
  have hascii := Hit.safe_ascii (h c hc)
  rw [Text.Case.fold_char_ascii hascii, List.mem_singleton] at hd
  rw [hd, Hit.safe_lower hascii, h c hc]

/-- A safe name has no safe word that the name did not have. -/
theorem safe_word_named {chars : List Char} (h : SafeWord chars) {name : String}
    (hin : Text.fold chars <:+: Text.fold (Hit.safeName name).toList) :
    Text.fold chars <:+: Text.fold name.toList := by
  refine Text.blurred_inside (Hit.name_blurs name) ?_ hin
  rintro c hc rfl
  cases safe_word_fold h '.' hc

theorem safe_word_kept {chars : List Char} (h : SafeWord chars) {name : String}
    (hname : Hit.ClearName name) (hin : Text.fold chars <:+: Text.fold name.toList) :
    Text.fold chars <:+: Text.fold (Hit.safeName name).toList := by
  refine Text.blurred_inside (Hit.safe_name_blurs hname) ?_ hin
  intro c hc
  rw [Hit.staysSafe, safe_word_fold h c hc, Bool.true_or]

namespace Tree

inductive Made (operator : Operator → Prop) (word : List Char → Prop) : Tree → Prop
  | term {chars : List Char} (h : word chars) : Made operator word (.term chars)
  | group {op : Operator} {children : List Tree} (hop : operator op)
    (h : ∀ t ∈ children, Made operator word t) : Made operator word (.group op children)

variable {word : List Char → Prop} {t : Tree} {a b : List Char}

/-- If a tree without a negation accepts a text, it accepts every other one in which those of its
words that are found in the text are found as well. -/
theorem made_monotone (ht : t.Made (· ≠ .not) word)
    (h : ∀ chars, word chars → Text.fold chars <:+: Text.fold a → Text.fold chars <:+: Text.fold b)
    (ha : t.accepts a = true) : t.accepts b = true := by
  induction ht with
  | @term chars hword =>
    rw [accepts_term, found_iff] at ha ⊢
    exact h chars hword ha
  | @group op children hop _ ih =>
    -- Only under a negation could a child that is gained cost the group its truth.
    obtain ⟨connective, rfl⟩ : ∃ connective : Connective, connective.operator = op := by
      cases op with
      | and => exact ⟨.and, rfl⟩
      | or => exact ⟨.or, rfl⟩
      | not => exact absurd rfl hop
    rw [accepts_group] at ha ⊢
    exact holds_monotone connective ih ha

/-- A tree accepts two texts alike if each of its words is found in both of them or in none. -/
theorem made_alike {operator : Operator → Prop} (ht : t.Made operator word)
    (h : ∀ chars, word chars →
      (Text.fold chars <:+: Text.fold a ↔ Text.fold chars <:+: Text.fold b)) :
    t.accepts a = t.accepts b := by
  induction ht with
  | @term chars hword =>
    rw [accepts_term, accepts_term, Bool.eq_iff_iff, found_iff, found_iff]
    exact h chars hword
  | group _ _ ih => rw [accepts_group, accepts_group, List.map_congr_left ih]

end Tree

/-- Where a tree of conjunctions and alternatives of safe words accepts a safe name, it accepts
the name. A name of ASCII is accepted by a tree of safe words if and only if its safe name is. -/
theorem accepts_safe_name (t : Tree) (name : String) :
    (t.Made (· ≠ .not) SafeWord →
      t.accepts (Hit.safeName name).toList = true → t.accepts name.toList = true) ∧
    (t.Made (fun _ => True) SafeWord → (∀ c ∈ name.toList, c.toNat < 0x80) →
      t.accepts (Hit.safeName name).toList = t.accepts name.toList) := by
  constructor
  · intro ht
    exact Tree.made_monotone ht fun _ hword => safe_word_named hword
  · intro ht hascii
    have hname := Hit.ascii_clear hascii
    exact Tree.made_alike ht fun _ hword => ⟨safe_word_named hword, safe_word_kept hword hname⟩

def nested : Tree :=
  .group .and [.group .or [], .term ['K', '9'],
    .group .or [.term "OPERA".toList, .term "film".toList]]

def refused : Tree := .group .not [nested, .term "x264".toList, .group .not []]

theorem nested_made {operator : Operator → Prop} (hand : operator .and) (hor : operator .or) :
    nested.Made operator SafeWord := by
  refine .group hand (List.forall_mem_cons.2 ⟨.group hor (by simp), ?_⟩)
  refine List.forall_mem_cons.2 ⟨.term (by decide), List.forall_mem_singleton.2 ?_⟩
  refine .group hor (List.forall_mem_cons.2 ⟨.term (by decide), ?_⟩)
  exact List.forall_mem_singleton.2 (.term (by decide))

theorem refused_made : refused.Made (fun _ => True) SafeWord := by
  refine .group trivial (List.forall_mem_cons.2 ⟨nested_made trivial trivial, ?_⟩)
  refine List.forall_mem_cons.2 ⟨.term (by decide), List.forall_mem_singleton.2 ?_⟩
  exact .group trivial (by simp)

theorem nested_accepts_safe_name :
    ((nested.Made (· ≠ .not) SafeWord ∧
        nested.accepts (Hit.safeName "Große K9-Filme").toList = true) ∧
      nested.accepts "Große K9-Filme".toList = true) ∧
    ((refused.Made (fun _ => True) SafeWord ∧
        ∀ c ∈ "Film K9 (x265).avi".toList, c.toNat < 0x80) ∧
      refused.accepts (Hit.safeName "Film K9 (x265).avi").toList =
        refused.accepts "Film K9 (x265).avi".toList) := by
  have hmade : nested.Made (· ≠ .not) SafeWord := nested_made (by decide) (by decide)
  have haccepted : nested.accepts (Hit.safeName "Große K9-Filme").toList = true := by
    decide +kernel
  have hall : "Film K9 (x265).avi".toList.all (·.toNat < 0x80) = true := by decide
  have hascii : ∀ c ∈ "Film K9 (x265).avi".toList, c.toNat < 0x80 :=
    fun c hc => of_decide_eq_true (List.all_eq_true.1 hall c hc)
  exact ⟨⟨⟨hmade, haccepted⟩, (accepts_safe_name nested _).1 hmade haccepted⟩,
    ⟨refused_made, hascii⟩, (accepts_safe_name refused _).2 refused_made hascii⟩

-- Below a negation, the loss of a letter that is not of ASCII gains a name.
example : (Tree.group .not [.term ['s']]).accepts (Hit.safeName "ß").toList = true ∧
    (Tree.group .not [.term ['s']]).accepts "ß".toList = false := by
  decide +kernel

end Query

end FileSearch
