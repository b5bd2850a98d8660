import FileSearch.Proofs.Query.Display

/-!
# Trees by recursion

What a query accepts and how it is shown are found with a list of pending nodes. Both are said
here again by recursion on the tree, each by itself. The reduction takes as many steps as the
tree tells, finds the values of every group on top of the others, and leaves the value that
the recursion gives.
-/

set_option autoImplicit false

namespace FileSearch.Query.Tree

mutual

def Admits (target : List Char) : Tree → Prop
  | .term word => Text.fold word <:+: Text.fold target
  | .group _ [] => True
  | .group .and children => AdmitsAll target children
  | .group .or children => AdmitsAny target children
  | .group .not children => ¬ AdmitsAll target children

def AdmitsAll (target : List Char) : List Tree → Prop
  | [] => True
  | t :: ts => t.Admits target ∧ AdmitsAll target ts

def AdmitsAny (target : List Char) : List Tree → Prop
  | [] => False
  | t :: ts => t.Admits target ∨ AdmitsAny target ts

end

mutual

def printed : Tree → List Char
  | .term word => word
  | .group .and children => '(' :: printedAll (infixed .and) children ++ [')']
  | .group .or children => '(' :: printedAll (infixed .or) children ++ [')']
  | .group .not [t] => "NOT ".toList ++ t.printed
  | .group .not children => "NOT (".toList ++ printedAll (infixed .and) children ++ [')']

def printedAll (separator : List Char) : List Tree → List Char
  | [] => []
  | [t] => t.printed
  | t :: next :: ts => t.printed ++ separator ++ printedAll separator (next :: ts)

end

mutual

theorem accepts_iff_admits (target : List Char) (t : Tree) :
    t.accepts target = true ↔ t.Admits target := by
  cases t with
  | term word => rw [accepts_term, found_iff, Admits]
  | group op children =>
    have hall := accepts_all_iff target children
    have hany := accepts_any_iff target children
    rw [accepts_group]
    cases children with
    | nil => simp [holds, Admits]
    | cons c cs =>
      cases op with
      | and => simpa [holds, Admits] using hall
      | or => simpa [holds, Admits] using hany
      | not =>
        have hvalues : ((c :: cs).map (·.accepts target)).all id = true ↔
            AdmitsAll target (c :: cs) := by
          rw [← hall]
          simp
        have hnot : holds .not ((c :: cs).map (·.accepts target)) =
            !((c :: cs).map (·.accepts target)).all id := rfl
        rw [hnot, Bool.not_eq_true', ← Bool.not_eq_true, hvalues, Admits]
        exact List.cons_ne_nil c cs

theorem accepts_all_iff (target : List Char) (ts : List Tree) :
    (∀ t ∈ ts, t.accepts target = true) ↔ AdmitsAll target ts := by
  cases ts with
  | nil => simp [AdmitsAll]
  | cons t ts =>
    rw [List.forall_mem_cons, AdmitsAll, accepts_iff_admits target t, accepts_all_iff target ts]

theorem accepts_any_iff (target : List Char) (ts : List Tree) :
    (∃ t ∈ ts, t.accepts target = true) ↔ AdmitsAny target ts := by
  cases ts with
  | nil => simp [AdmitsAny]
  | cons t ts =>
    simp only [List.mem_cons, exists_eq_or_imp, AdmitsAny, accepts_iff_admits target t,
      ← accepts_any_iff target ts]

end

mutual

theorem display_eq_printed (t : Tree) : t.display = t.printed := by
  cases t with
  | term word => rw [display_term, printed]
  | group op children =>
    have hjoin (op : Operator) := join_eq_printed (infixed op) children
    rw [display_group]
    cases op with
    | and =>
      rw [shown, hjoin, printed]
      nofun
    | or =>
      rw [shown, hjoin, printed]
      nofun
    | not =>
      rw [shown, hjoin, List.length_map]
      rcases children with _ | ⟨t, _ | ⟨next, ts⟩⟩
      · rfl
      · simp [printed, printedAll]
      · simp [printed]

theorem join_eq_printed (separator : List Char) (ts : List Tree) :
    join separator (ts.map display) = printedAll separator ts := by
  rcases ts with _ | ⟨t, ts⟩
  · rfl
  · have ht := display_eq_printed t
    have hts := join_eq_printed separator ts
    cases ts with
    | nil => simpa [join, printedAll] using ht
    | cons next ts =>
      rw [printedAll, ← ht, ← hts]
      rfl

end

/-- For every number of steps up to those of the tree, a walk is reached, no group having asked
for values that are not there, and the reduction goes on from it. At the end the value of the
recursion is left and nothing else. What is accepted and what is shown are recursions too. -/
theorem reduce_structural {α : Type} (leaf : List Char → α)
    (combine : Operator → List Tree → List α → α) (t : Tree) :
    (∀ n ≤ t.steps, ∃ w, Walk.run leaf combine n (.start t) = some w ∧
      sweep leaf combine w.pending w.values = t.reduce leaf combine) ∧
    Walk.run leaf combine t.steps (.start t) = some ⟨[], [t.fold leaf combine]⟩ ∧
    t.reduce leaf combine = [t.fold leaf combine] ∧
    (∀ target, t.accepts target = true ↔ t.Admits target) ∧
    t.display = t.printed := by
  have hrun := run_start leaf combine t
  refine ⟨fun n hn => ?_, hrun, reduce_eq leaf combine t,
    fun target => accepts_iff_admits target t, display_eq_printed t⟩
  obtain ⟨w, hw⟩ := Walk.run_within leaf combine hn hrun
  exact ⟨w, hw, (Walk.sweep_run leaf combine hw).symm⟩

def uneven : Tree :=
  .group .not [.group .or [], .group .and [.term ['a'], .group .not [.term ['b']]]]

/-- Every group is reduced to the letters below it. -/
theorem uneven_structural :
    6 ≤ uneven.steps ∧
      (∃ w, Walk.run id (fun _ _ parts => parts.flatten) 6 (.start uneven) = some w ∧
        w.values = [['a'], []] ∧
        sweep id (fun _ _ parts => parts.flatten) w.pending w.values = [['a', 'b']]) ∧
      (uneven.accepts ['a'] = true ↔ uneven.Admits ['a']) ∧
      uneven.display = "NOT (() AND (a AND NOT b))".toList := by
  obtain ⟨hwithin, -, hreduce, haccepts, hdisplay⟩ :=
    reduce_structural id (fun _ _ parts => parts.flatten) uneven
  have hsteps : 6 ≤ uneven.steps := by decide
  obtain ⟨w, hw, hsweep⟩ := hwithin 6 hsteps
  have hvalues : w.values = [['a'], []] := by
    cases hw
    rfl
  exact ⟨hsteps, ⟨w, hw, hvalues, hsweep.trans hreduce⟩, haccepts ['a'], hdisplay.trans rfl⟩

end FileSearch.Query.Tree
