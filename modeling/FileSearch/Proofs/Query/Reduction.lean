import FileSearch.Query.Frame

/-!
# Reductions agree

Working off pending nodes leaves the value that the recursion on the tree computes. It is
followed step by step, where a group that asks for more values than there are has no step;
no group of a tree does. What a tree accepts then follows its structure: a term asks the
target, a group asks its children.
-/

set_option autoImplicit false

namespace FileSearch.Query.Tree

section
variable {α : Type} (leaf : List Char → α) (combine : Operator → List Tree → List α → α)

theorem fold_all_eq_map (ts : List Tree) :
    foldAll leaf combine ts = ts.map (fold leaf combine) := by
  induction ts with
  | nil => rfl
  | cons t ts ih => rw [foldAll, ih, List.map_cons]

structure Walk (α : Type) where
  pending : List Pending
  values : List α

namespace Walk

def start (t : Tree) : Walk α := ⟨[.visit t], []⟩

def next? : Walk α → Option (Walk α)
  | ⟨[], _⟩ => none
  | ⟨.visit (.term word) :: ps, values⟩ => some ⟨ps, leaf word :: values⟩
  | ⟨.visit (.group op children) :: ps, values⟩ =>
    some ⟨visits children ++ .close op children :: ps, values⟩
  | ⟨.close op children :: ps, values⟩ =>
    if children.length ≤ values.length then
      let own := (values.take children.length).reverse
      some ⟨ps, combine op children own :: values.drop children.length⟩
    else none

def run : Nat → Walk α → Option (Walk α)
  | 0, w => some w
  | n + 1, w => (w.next? leaf combine).bind (run n)

theorem run_add (m n : Nat) (w : Walk α) :
    run leaf combine (m + n) w = (run leaf combine m w).bind (run leaf combine n) := by
  induction m generalizing w with
  | zero => rw [Nat.zero_add, run, Option.bind_some]
  | succ m ih =>
    rw [Nat.succ_add, run, run]
    cases w.next? leaf combine with
    | none => rfl
    | some w' => exact ih w'

/-- Where later steps can be taken, the ones before them can. -/
theorem run_within {m n : Nat} (h : n ≤ m) {w w' : Walk α}
    (hm : run leaf combine m w = some w') : ∃ v, run leaf combine n w = some v := by
  rw [← Nat.add_sub_cancel' h, run_add] at hm
  obtain ⟨v, hv, -⟩ := Option.bind_eq_some_iff.1 hm
  exact ⟨v, hv⟩

theorem sweep_next {w w' : Walk α} (h : w.next? leaf combine = some w') :
    sweep leaf combine w.pending w.values = sweep leaf combine w'.pending w'.values := by
  obtain ⟨ps, values⟩ := w
  rcases ps with _ | ⟨⟨_ | _⟩ | ⟨op, children⟩, ps⟩
  · cases h
  · cases h
    rw [sweep]
  · cases h
    rw [sweep]
  · rw [next?] at h
    split at h
    · cases h
      rw [sweep]
    · cases h

theorem sweep_run {n : Nat} {w w' : Walk α} (h : run leaf combine n w = some w') :
    sweep leaf combine w.pending w.values = sweep leaf combine w'.pending w'.values := by
  induction n generalizing w with
  | zero =>
    cases h
    rfl
  | succ n ih =>
    obtain ⟨v, hnext, hrun⟩ := Option.bind_eq_some_iff.1 h
    exact (sweep_next leaf combine hnext).trans (ih hrun)

end Walk

mutual

def steps : Tree → Nat
  | .term _ => 1
  | .group _ children => 1 + (stepsAll children + 1)

def stepsAll : List Tree → Nat
  | [] => 0
  | t :: ts => steps t + stepsAll ts

end

mutual

theorem run_visit (t : Tree) (ps : List Pending) (values : List α) :
    Walk.run leaf combine t.steps ⟨.visit t :: ps, values⟩ =
      some ⟨ps, t.fold leaf combine :: values⟩ := by
  cases t with
  | term word => rfl
  | group op children =>
    have hlen : (foldAll leaf combine children).length = children.length := by
      rw [fold_all_eq_map, List.length_map]
    have hclose : Walk.run leaf combine 1
        ⟨.close op children :: ps, (foldAll leaf combine children).reverse ++ values⟩ =
          some ⟨ps, combine op children (foldAll leaf combine children) :: values⟩ := by
      simp [Walk.run, Walk.next?, ← hlen]
    rw [steps, Walk.run_add, Walk.run, Walk.next?, Option.bind_some, Walk.run, Option.bind_some,
      Walk.run_add, run_visits children, Option.bind_some, hclose, fold]

theorem run_visits (ts : List Tree) (ps : List Pending) (values : List α) :
    Walk.run leaf combine (stepsAll ts) ⟨visits ts ++ ps, values⟩ =
      some ⟨ps, (foldAll leaf combine ts).reverse ++ values⟩ := by
  cases ts with
  | nil => rfl
  | cons t ts =>
    rw [stepsAll, Walk.run_add, visits, List.map_cons, List.cons_append, run_visit t,
      Option.bind_some, show ts.map Pending.visit = visits ts from rfl, run_visits ts, foldAll]
    simp

end

theorem run_start (t : Tree) :
    Walk.run leaf combine t.steps (.start t) = some ⟨[], [t.fold leaf combine]⟩ :=
  run_visit leaf combine t [] []

theorem reduce_eq (t : Tree) : t.reduce leaf combine = [t.fold leaf combine] := by
  have hrun := Walk.sweep_run leaf combine (run_start leaf combine t)
  rw [sweep] at hrun
  exact hrun

end

theorem accepts_eq_fold (t : Tree) (target : List Char) :
    t.accepts target =
      t.fold (found (Text.fold target)) fun op _ values => holds op values := by
  rw [accepts, reduce_eq, List.headD_cons]

@[simp]
theorem accepts_term (word target : List Char) :
    (term word).accepts target = found (Text.fold target) word := by
  rw [accepts_eq_fold, fold]

@[simp]
theorem accepts_group (op : Operator) (children : List Tree) (target : List Char) :
    (group op children).accepts target = holds op (children.map (·.accepts target)) := by
  have hall : (children.map fun t => t.accepts target) =
      children.map (fold (found (Text.fold target)) fun op _ values => holds op values) :=
    List.map_congr_left fun t _ => accepts_eq_fold t target
  rw [accepts_eq_fold, fold, fold_all_eq_map, hall]

theorem found_iff (word target : List Char) :
    found (Text.fold target) word = true ↔ Text.fold word <:+: Text.fold target := by
  rw [found, Text.occursIn_iff]

end FileSearch.Query.Tree
