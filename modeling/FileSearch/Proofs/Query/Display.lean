import FileSearch.Proofs.Query.Legible
import FileSearch.Proofs.Query.LeftToRight

/-!
# Displays read back

The display of a query can be read as a query. Its tree stands in one more group then, since
the display has parentheses around it, and a group of at most one alternative has become a
conjunction, since its operator is not shown. Neither changes what is accepted.
-/

set_option autoImplicit false

namespace FileSearch.Query

namespace Tree

mutual

def regroup : Tree → Tree
  | .term word => .term word
  | .group op children =>
    .group (if op = .or ∧ children.length ≤ 1 then .and else op) (regroupAll children)

def regroupAll : List Tree → List Tree
  | [] => []
  | t :: ts => regroup t :: regroupAll ts

end

theorem regroup_all_eq_map (ts : List Tree) : regroupAll ts = ts.map regroup := by
  induction ts with
  | nil => rfl
  | cons t ts ih => rw [regroupAll, ih, List.map_cons]

@[simp]
theorem regroup_term (word : List Char) : (term word).regroup = term word := by rw [regroup]

@[simp]
theorem regroup_group (op : Operator) (children : List Tree) :
    (group op children).regroup =
      group (if op = .or ∧ children.length ≤ 1 then .and else op) (children.map regroup) := by
  rw [regroup, regroup_all_eq_map]

@[simp]
theorem display_term (word : List Char) : (term word).display = word := by
  rw [display, reduce_eq, fold, List.headD_cons, id]

@[simp]
theorem display_group (op : Operator) (children : List Tree) :
    (group op children).display = shown op (children.map display) := by
  have hone (t : Tree) : t.display = t.fold id fun op _ parts => shown op parts := by
    rw [display, reduce_eq, List.headD_cons]
  have hall : children.map display = children.map (fold id fun op _ parts => shown op parts) :=
    List.map_congr_left fun t _ => hone t
  rw [hone, fold, fold_all_eq_map, hall]

theorem join_cons (separator part : List Char) (parts : List (List Char)) :
    join separator (part :: parts) = part ++ parts.flatMap (separator ++ ·) := by
  induction parts generalizing part with
  | nil => simp [join]
  | cons next parts ih =>
    rw [join, ih, List.flatMap_cons]
    · simp
    · exact List.cons_ne_nil _ _

theorem shown_connective (op : Connective) (parts : List (List Char)) :
    shown op.operator parts = '(' :: (join (infixed op.operator) parts ++ [')']) := by
  cases op <;> rfl

mutual

/-- A reduction for which the operator of at most one child does not count gives a regrouped
tree the value of the tree. -/
theorem fold_regroup {α : Type} (leaf : List Char → α) (combine : Operator → List α → α)
    (h : ∀ values : List α, values.length ≤ 1 → combine .and values = combine .or values)
    (t : Tree) :
    t.regroup.fold leaf (fun op _ values => combine op values) =
      t.fold leaf (fun op _ values => combine op values) := by
  cases t with
  | term word => rw [regroup_term]
  | group op children =>
    have hlen : (foldAll leaf (fun op _ values => combine op values) children).length =
        children.length := by rw [fold_all_eq_map, List.length_map]
    rw [regroup_group, fold, fold, fold_all_regroup leaf combine h children]
    by_cases hop : op = .or ∧ children.length ≤ 1
    · rw [if_pos hop, hop.1]
      exact h _ (by omega)
    · rw [if_neg hop]

theorem fold_all_regroup {α : Type} (leaf : List Char → α) (combine : Operator → List α → α)
    (h : ∀ values : List α, values.length ≤ 1 → combine .and values = combine .or values)
    (ts : List Tree) :
    foldAll leaf (fun op _ values => combine op values) (ts.map regroup) =
      foldAll leaf (fun op _ values => combine op values) ts := by
  cases ts with
  | nil => rfl
  | cons t ts =>
    rw [List.map_cons, foldAll, foldAll, fold_regroup leaf combine h t,
      fold_all_regroup leaf combine h ts]

end

theorem display_regroup (t : Tree) : t.regroup.display = t.display := by
  have hshown : ∀ parts : List (List Char), parts.length ≤ 1 →
      shown .and parts = shown .or parts := by
    intro parts hlen
    rcases parts with _ | ⟨part, _ | ⟨next, parts⟩⟩
    · rfl
    · rfl
    · simp only [List.length_cons] at hlen
      omega
  rw [display, display, reduce_eq, reduce_eq, fold_regroup id shown hshown]

theorem accepts_regroup (t : Tree) (target : List Char) :
    t.regroup.accepts target = t.accepts target := by
  have hholds : ∀ values : List Bool, values.length ≤ 1 →
      holds .and values = holds .or values := by
    intro values hlen
    rcases values with _ | ⟨value, _ | ⟨next, values⟩⟩
    · rfl
    · simp [holds]
    · simp only [List.length_cons] at hlen
      omega
  rw [accepts_eq_fold, accepts_eq_fold, fold_regroup _ holds hholds]

end Tree

structure Solid (s : List Char) : Prop where
  nonempty : s ≠ []
  front : SolidFront s
  back : SolidBack s

theorem Operand.text_solid {negated : Bool} (o : Operand negated) : Solid o.text :=
  ⟨o.text_nonempty, o.text_front, o.text_back⟩

theorem solid_parentheses (s : List Char) : Solid ('(' :: (s ++ [')'])) where
  nonempty := List.cons_ne_nil _ _
  front := by simp [SolidFront, show Text.isBlank '(' = false from rfl]
  back := by
    have hback : SolidBack [')'] := by simp [SolidBack, show Text.isBlank ')' = false from rfl]
    have h := solid_back_of_nonempty (s := '(' :: s) (List.cons_ne_nil _ _) hback
    rwa [List.cons_append] at h

theorem legible_solid {t : Tree} (h : Legible t) : Solid t.display := by
  cases h with
  | word w =>
    rw [Tree.display_term]
    exact (Operand.word w).text_solid
  | negation w =>
    rw [Tree.display_group, List.map_singleton, Tree.display_term]
    exact (Operand.negation w).text_solid
  | group op _ =>
    rw [Tree.display_group, Tree.shown_connective]
    exact solid_parentheses _

def behind (op : Connective) (ts : List Tree) : List Char :=
  (ts.map Tree.display).flatMap (Tree.infixed op.operator ++ ·)

theorem behind_cons (op : Connective) (t : Tree) (ts : List Tree) (rest : List Char) :
    behind op (t :: ts) ++ rest =
      Tree.infixed op.operator ++ (t.display ++ (behind op ts ++ rest)) := by
  simp [behind]

theorem behind_follows (op : Connective) {ts : List Tree} (hts : ∀ t ∈ ts, Legible t)
    {rest : List Char} (h : Follows rest) : Follows (behind op ts ++ rest) := by
  induction ts with
  | nil => exact h
  | cons t ts ih =>
    obtain ⟨ht, hts⟩ := List.forall_mem_cons.1 hts
    have hsolid := legible_solid ht
    have hback : SolidBack (t.display ++ (behind op ts ++ rest)) :=
      solid_back_append hsolid.back (ih hts).back
    rw [behind_cons]
    refine ⟨?_, solid_back_of_nonempty ?_ hback⟩
    · simp [Tree.infixed, Token.isSeparator]
    · simp [hsolid.nonempty]

def ReadsBack (t : Tree) : Prop :=
  ∀ (f : Frame) (parents : List Frame) (rest : List Char), f.negating = false → Follows rest →
    build f parents (Token.scan (t.display ++ rest)) =
      build (f.append t.regroup) parents (Token.scan rest)

theorem operand_reads_back {negated : Bool} (o : Operand negated)
    (hdisplay : o.tree.display = o.text) (hregroup : o.tree.regroup = o.tree) :
    ReadsBack o.tree := by
  intro f parents rest hneg h
  rw [hdisplay, o.scan_text h, o.build_tokens hneg, hregroup]

theorem rebind_single {f : Frame} {op : Connective}
    (h : f.operator = op ∨ f.children.length ≤ 1) : f.rebind op = { f with operator := op } := by
  rw [Frame.rebind]
  by_cases hop : f.operator = op
  · rw [if_pos hop, ← hop]
  · rw [if_neg hop, if_pos (h.resolve_left hop)]

theorem build_behind (op : Connective) {ts : List Tree} (hlegible : ∀ t ∈ ts, Legible t)
    (hreads : ∀ t ∈ ts, ReadsBack t) {f : Frame} (hneg : f.negating = false)
    (hop : f.operator = op ∨ f.children.length ≤ 1) (parents : List Frame) {rest : List Char}
    (h : Follows rest) :
    build f parents (Token.scan (behind op ts ++ rest)) =
      build ⟨if ts = [] then f.operator else op, f.children ++ ts.map Tree.regroup, false⟩
        parents (Token.scan rest) := by
  induction ts generalizing f with
  | nil =>
    obtain ⟨operator, children, negating⟩ := f
    cases hneg
    simp [behind]
  | cons t ts ih =>
    obtain ⟨ht, hts⟩ := List.forall_mem_cons.1 hlegible
    obtain ⟨hread, hreads⟩ := List.forall_mem_cons.1 hreads
    have hsolid := legible_solid ht
    have hfollows := behind_follows op hts h
    rw [behind_cons, scan_infixed op (solid_front_append hsolid.nonempty hsolid.front)
      (solid_back_append hsolid.back hfollows.back), build_connective, rebind_single hop,
      hread _ _ _ (by exact hneg) hfollows, ih hts hreads (by exact hneg) (.inl rfl)]
    simp [Frame.append]

theorem legible_reads_back {t : Tree} (ht : Legible t) : ReadsBack t := by
  induction ht with
  | word w => exact operand_reads_back (.word w) (Tree.display_term _) (Tree.regroup_term _)
  | negation w =>
    refine operand_reads_back (.negation w) ?_ ?_
    · simp [Operand.tree, Tree.shown, Operand.text, Tree.join]
    · simp [Operand.tree]
  | @group op children hchildren ih =>
    intro f parents rest hneg h
    have hclosing := follows_closing h
    rw [Tree.display_group, Tree.shown_connective, List.cons_append, List.append_assoc,
      List.singleton_append, Token.scan_opening, build]
    cases children with
    | nil =>
      have hfront : SolidFront (')' :: rest) := by
        simp [SolidFront, show Text.isBlank ')' = false from rfl]
      rw [List.map_nil, Tree.join, List.nil_append, trim_solid hfront hclosing.back,
        Token.scan_closing, build, Tree.regroup_group]
      cases op <;> rfl
    | cons t ts =>
      obtain ⟨ht, hts⟩ := List.forall_mem_cons.1 hchildren
      obtain ⟨hread, hreads⟩ := List.forall_mem_cons.1 ih
      have hsolid := legible_solid ht
      have hfollows := behind_follows op hts hclosing
      have htext : Tree.join (Tree.infixed op.operator) ((t :: ts).map Tree.display) ++
          ')' :: rest = t.display ++ (behind op ts ++ ')' :: rest) := by
        rw [List.map_cons, Tree.join_cons, List.append_assoc, behind]
      have htrim := trim_solid (solid_front_append hsolid.nonempty hsolid.front)
        (solid_back_append hsolid.back hfollows.back)
      rw [htext, htrim, hread {} _ _ rfl hfollows,
        build_behind op hts hreads rfl (.inr (Nat.le_refl _)) _ hclosing, Token.scan_closing,
        build, Tree.regroup_group]
      cases ts with
      | nil => cases op <;> rfl
      | cons next ts =>
        have hlen : ¬ (t :: next :: ts).length ≤ 1 := by simp
        rw [if_neg (List.cons_ne_nil _ _), if_neg fun h => hlen h.2]
        rfl

theorem parse_display {t : Tree} (ht : Legible t) :
    parse (String.ofList t.display) = .group .and [t.regroup] := by
  have hread := legible_reads_back ht {} [] [] rfl follows_nil
  rw [List.append_nil, Token.scan_nil] at hread
  rw [parse, parseChars, String.toList_ofList, hread]
  rfl

/-- A query whose blanks are spaces is shown as a text that reads back: its tree regrouped, in
one more group. So it is shown in one more pair of parentheses when it is shown again, and
keeps the same names. -/
theorem display_reads_back (query : String) (h : Spaced query.toList) :
    let shown := String.ofList (parse query).display
    parse shown = .group .and [(parse query).regroup] ∧
      (parse shown).display = '(' :: ((parse query).display ++ [')']) ∧
      ∀ name, keeps shown name = keeps query name := by
  intro shown
  have hparse : parse shown = .group .and [(parse query).regroup] :=
    parse_display (parse_legible h)
  refine ⟨hparse, ?_, fun name => ?_⟩
  · rw [hparse, Tree.display_group, List.map_singleton, Tree.display_regroup]
    rfl
  · rw [keeps, hparse, keeps, ← Tree.accepts_regroup (parse query)]
    exact Frame.accepts_single name.toList .and _

def malformed : String := "NOT (OR a.b) OR NOTc d AND (OR) (e"

theorem malformed_reads_back :
    Spaced malformed.toList ∧
      (parse malformed).display = "(((a OR b) OR NOT c) AND d AND () AND (e))".toList ∧
      let shown := String.ofList (parse malformed).display
      parse shown = .group .and [(parse malformed).regroup] ∧
        (parse shown).display = '(' :: ((parse malformed).display ++ [')']) ∧
        ∀ name, keeps shown name = keeps malformed name := by
  have hspaced : Spaced malformed.toList := by
    have hall : (malformed.toList.all fun c => !Text.isBlank c || c == ' ') = true := rfl
    intro c hc hblank
    simpa [hblank] using List.all_eq_true.1 hall c hc
  exact ⟨hspaced, by decide +kernel, display_reads_back malformed hspaced⟩

end FileSearch.Query
