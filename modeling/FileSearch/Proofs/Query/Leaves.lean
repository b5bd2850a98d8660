import FileSearch.Proofs.Query.LeftToRight
import FileSearch.Proofs.Query.Nesting
import FileSearch.Proofs.Query.Shape

/-!
# The leaves of a query

The leaves of a query tree are the words of its text, each once and in their order, however
often operators and separators regroup what was read before. Which leaves are negated can be
told from the tokens alone: a negation waits for the next word of its own group, over the
groups that are nested in between.
-/

set_option autoImplicit false

namespace FileSearch.Query

structure Leaf where
  chars : List Char
  negated : Bool
  deriving DecidableEq, Repr

namespace Tree

mutual

def leaves (negated : Bool) : Tree → List Leaf
  | .term chars => [⟨chars, negated⟩]
  | .group op children => leavesAll (op == .not) children

def leavesAll (negated : Bool) : List Tree → List Leaf
  | [] => []
  | t :: ts => leaves negated t ++ leavesAll negated ts

end

theorem leaves_all_eq (negated : Bool) (ts : List Tree) :
    leavesAll negated ts = ts.flatMap (leaves negated) := by
  induction ts with
  | nil => rfl
  | cons t ts ih => rw [leavesAll, ih, List.flatMap_cons]

theorem leaves_all_append (negated : Bool) (ts us : List Tree) :
    leavesAll negated (ts ++ us) = leavesAll negated ts ++ leavesAll negated us := by
  simp only [leaves_all_eq, List.flatMap_append]

@[simp]
theorem leaves_all_single (negated : Bool) (t : Tree) :
    leavesAll negated [t] = leaves negated t := by
  rw [leavesAll, leavesAll, List.append_nil]

end Tree

namespace Token

def heard : Nat → List Token → List Token
  | _, [] => []
  | depth, .opening :: tokens => .opening :: heard (depth + 1) tokens
  | 0, .closing :: _ => []
  | depth + 1, .closing :: tokens => .closing :: heard depth tokens
  | depth, t :: tokens => t :: heard depth tokens

/-- A negation waits in the group that is `depth` groups around the one being read. The tokens
read are listed with the latest first; only those of that group itself count. -/
def negates : Nat → List Token → Bool
  | _, [] => false
  | depth, .closing :: earlier => negates (depth + 1) earlier
  | 0, .opening :: _ => false
  | depth + 1, .opening :: earlier => negates depth earlier
  | 0, .not :: _ => true
  | 0, .word _ :: _ => false
  | depth, _ :: earlier => negates depth earlier

def word? : Token → Option (List Char)
  | .word chars => some chars
  | _ => none

def leaves (earlier : List Token) : List Token → List Leaf
  | [] => []
  | .word chars :: tokens => ⟨chars, negates 0 earlier⟩ :: leaves (.word chars :: earlier) tokens
  | t :: tokens => leaves (t :: earlier) tokens

theorem heard_cons {t : Token} (ho : t ≠ .opening) (hc : t ≠ .closing) (depth : Nat)
    (tokens : List Token) : heard depth (t :: tokens) = t :: heard depth tokens := by
  rw [heard]
  · exact ho
  · exact fun _ => hc
  · exact fun _ _ => hc

theorem leaves_cons (earlier : List Token) (t : Token) (tokens : List Token) :
    leaves earlier (t :: tokens) =
      (t.word?.map fun chars => ⟨chars, negates 0 earlier⟩).toList ++
        leaves (t :: earlier) tokens := by
  cases t <;> rfl

theorem leaves_words (earlier tokens : List Token) :
    (leaves earlier tokens).map Leaf.chars = tokens.filterMap word? := by
  induction tokens generalizing earlier with
  | nil => rfl
  | cons t tokens ih =>
    rw [leaves_cons, List.map_append, ih]
    cases t <;> rfl

end Token

namespace Frame

def leaves (f : Frame) : List Leaf := Tree.leavesAll false f.children

variable (f : Frame)

@[simp]
theorem group_leaves (negated : Bool) : f.group.leaves negated = f.leaves := by
  rw [group, Tree.leaves, leaves]
  cases f.operator <;> rfl

theorem append_leaves (t : Tree) : (f.append t).leaves = f.leaves ++ t.leaves false := by
  simp only [leaves, append, Tree.leaves_all_append, Tree.leaves_all_single]

theorem rebind_leaves (op : Connective) : (f.rebind op).leaves = f.leaves := by
  rw [rebind]
  split
  · rfl
  · dsimp only [leaves]
    split
    · rfl
    · rw [Tree.leaves_all_single, group_leaves, leaves]

theorem separate_leaves : f.separate.leaves = f.leaves := by
  rw [separate]
  split
  · rw [leaves, Tree.leaves_all_single, group_leaves]
  · rfl

theorem word_leaves (chars : List Char) :
    (f.word chars).leaves = f.leaves ++ [⟨chars, f.negating⟩] := by
  have hleaf : Tree.leaves false (if f.negating then .group .not [.term chars] else .term chars) =
      [⟨chars, f.negating⟩] := by
    cases f.negating <;> simp [Tree.leaves]
  rw [← hleaf, ← append_leaves]
  rfl

/-- What a token that opens and closes nothing adds to the leaves. -/
theorem read_leaves (t : Token) :
    (f.read t).leaves =
      f.leaves ++ (t.word?.map fun chars => ⟨chars, f.negating⟩).toList := by
  cases t with
  | opening => exact (List.append_nil _).symm
  | closing => exact (List.append_nil _).symm
  | not => exact (List.append_nil _).symm
  | connective op => exact (rebind_leaves f op).trans (List.append_nil _).symm
  | word chars => exact word_leaves f chars
  | separator c => exact (separate_leaves f).trans (List.append_nil _).symm

end Frame

def openLeaves (f : Frame) : List Frame → List Leaf
  | [] => f.leaves
  | parent :: parents => openLeaves parent parents ++ f.leaves

theorem open_leaves_append (f : Frame) (t : Tree) (parents : List Frame) :
    openLeaves (f.append t) parents = openLeaves f parents ++ t.leaves false := by
  cases parents with
  | nil => exact f.append_leaves t
  | cons parent parents => rw [openLeaves, openLeaves, f.append_leaves, List.append_assoc]

theorem open_leaves_closed (f parent : Frame) (parents : List Frame) :
    openLeaves (parent.append f.group) parents = openLeaves f (parent :: parents) := by
  rw [open_leaves_append, f.group_leaves, openLeaves]

theorem open_leaves_read (f : Frame) (parents : List Frame) (t : Token) :
    openLeaves (f.read t) parents =
      openLeaves f parents ++ (t.word?.map fun chars => ⟨chars, f.negating⟩).toList := by
  cases parents with
  | nil => exact f.read_leaves t
  | cons parent parents => rw [openLeaves, openLeaves, f.read_leaves, List.append_assoc]

theorem close_all_leaves (negated : Bool) (f : Frame) (parents : List Frame) :
    (closeAll f parents).leaves negated = openLeaves f parents := by
  induction parents generalizing f with
  | nil => exact f.group_leaves negated
  | cons parent parents ih => rw [closeAll, ih, open_leaves_closed]

def Waiting (earlier : List Token) (frames : List Frame) : Prop :=
  ∀ depth f, frames[depth]? = some f → f.negating = Token.negates depth earlier

variable {earlier : List Token} {f parent : Frame} {parents : List Frame}

theorem waiting_start : Waiting [] [{}] := by
  intro depth g hg
  cases depth with
  | zero =>
    cases hg
    rfl
  | succ depth => cases hg

theorem waiting_opened (h : Waiting earlier (f :: parents)) :
    Waiting (.opening :: earlier) ({} :: f :: parents) := by
  intro depth g hg
  cases depth with
  | zero =>
    cases hg
    rfl
  | succ depth => exact h depth g hg

theorem waiting_closed (t : Tree) (h : Waiting earlier (f :: parent :: parents)) :
    Waiting (.closing :: earlier) (parent.append t :: parents) := by
  intro depth g hg
  cases depth with
  | zero =>
    cases hg
    exact h 1 parent rfl
  | succ depth => exact h (depth + 2) g hg

theorem waiting_read {t : Token} (ho : t ≠ .opening) (hc : t ≠ .closing)
    (h : Waiting earlier (f :: parents)) : Waiting (t :: earlier) (f.read t :: parents) := by
  have hf : f.negating = Token.negates 0 earlier := h 0 f rfl
  intro depth g hg
  cases depth with
  | zero =>
    cases hg
    cases t with
    | opening => exact absurd rfl ho
    | closing => exact absurd rfl hc
    | not => rfl
    | connective op => exact (f.rebind_negating op).trans hf
    | word chars => rfl
    | separator c => exact f.separate_negating.trans hf
  | succ depth =>
    -- The token is read into the innermost group only.
    rw [h (depth + 1) g hg]
    cases t with
    | opening => exact absurd rfl ho
    | closing => exact absurd rfl hc
    | not => rfl
    | connective op => rfl
    | word chars => rfl
    | separator c => rfl

/-- What is built has the leaves read before and, behind them, those of the tokens. By induction
on the tokens; that the open groups know their waiting negations is kept by each of them. -/
theorem build_leaves (negated : Bool) (h : Waiting earlier (f :: parents)) (tokens : List Token) :
    (build f parents tokens).leaves negated =
      openLeaves f parents ++ Token.leaves earlier (Token.heard parents.length tokens) := by
  induction tokens generalizing earlier f parents with
  | nil => rw [build, close_all_leaves, Token.heard, Token.leaves, List.append_nil]
  | cons t tokens ih =>
    by_cases ho : t = .opening
    · subst ho
      have hopen : openLeaves {} (f :: parents) = openLeaves f parents := List.append_nil _
      rw [build, ih (waiting_opened h), hopen]
      rfl
    by_cases hc : t = .closing
    · subst hc
      cases parents with
      | nil =>
        rw [build, f.group_leaves, openLeaves]
        exact (List.append_nil _).symm
      | cons parent parents =>
        rw [build, ih (waiting_closed _ h), open_leaves_closed]
        rfl
    have hf : f.negating = Token.negates 0 earlier := h 0 f rfl
    rw [build_read f parents ho hc, ih (waiting_read ho hc h), open_leaves_read,
      Token.heard_cons ho hc, Token.leaves_cons, hf, List.append_assoc]

theorem close_all_group (f : Frame) (parents : List Frame) :
    ∃ (op : Connective) (children : List Tree),
      closeAll f parents = .group op.operator children := by
  induction parents generalizing f with
  | nil => exact ⟨f.operator, f.children, rfl⟩
  | cons parent parents ih => exact ih (parent.append f.group)

theorem build_group (f : Frame) (parents : List Frame) (tokens : List Token) :
    ∃ (op : Connective) (children : List Tree),
      build f parents tokens = .group op.operator children := by
  induction tokens generalizing f parents with
  | nil => exact close_all_group f parents
  | cons t tokens ih =>
    cases t with
    | opening => exact ih {} (f :: parents)
    | closing =>
      cases parents with
      | nil => exact ⟨f.operator, f.children, rfl⟩
      | cons parent parents => exact ih (parent.append f.group) parents
    | not => exact ih _ parents
    | connective op => exact ih _ parents
    | word chars => exact ih _ parents
    | separator c => exact ih _ parents

/-- However malformed a query is, its tree is a group of words, conjunctions, alternatives and
negations of one word. Its leaves are the words of the text up to the first closing parenthesis
that closes nothing, and a leaf is negated where a negation waits for the word. -/
theorem parse_leaves (query : String) :
    let tokens := Token.heard 0 (Token.scan query.toList)
    Shaped Token.Plain (parse query) ∧
    (∃ (op : Connective) (children : List Tree), parse query = .group op.operator children) ∧
    (parse query).leaves false = Token.leaves [] tokens ∧
    ((parse query).leaves false).map Leaf.chars = tokens.filterMap Token.word? := by
  have hleaves : (parse query).leaves false =
      Token.leaves [] (Token.heard 0 (Token.scan query.toList)) := by
    rw [parse, parseChars, build_leaves false waiting_start]
    rfl
  refine ⟨parse_shaped fun chars hmem => (Token.scan_word_part hmem).1, ?_, hleaves, ?_⟩
  · exact build_group {} [] _
  · rw [hleaves, Token.leaves_words]

-- The negation waits over the group in between.
example : (parse "NOT (a OR b) c").leaves false =
    [⟨['a'], false⟩, ⟨['b'], false⟩, ⟨['c'], true⟩] := by cbv

end FileSearch.Query
