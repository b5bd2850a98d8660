import Mathlib.Data.List.DropRight
import FileSearch.Proofs.Config.Reading
import FileSearch.Proofs.Query.SafeNames
import FileSearch.Command.Run

/-!
# One extension on two ways

An extension that is given with a search is bared by the filter alone. One from the settings is
bared when they are read, and the filter bares what is left of it once more. The two filters are
the same unless the first baring leaves nothing, or uncovers blanks behind the points.
-/

set_option autoImplicit false

namespace FileSearch.Query

theorem trim_left_front (s : List Char) : SolidFront (Text.trimLeft s) := by
  intro c hc
  have hhead := List.head?_dropWhile_not Text.isBlank s
  rw [show (s.dropWhile Text.isBlank).head? = some c from hc] at hhead
  exact hhead

theorem trim_right_back (s : List Char) : SolidBack (Text.trimRight s) := by
  intro c hc
  apply trim_left_front s.reverse c
  rwa [Text.trimRight, List.getLast?_reverse] at hc

theorem bare_of_blank {e : List Char} (h : Text.allBlank e = true) : bareExtension e = [] := by
  have hleft : Text.trimLeft e = [] := List.dropWhile_eq_nil_iff.2 (List.all_eq_true.1 h)
  rw [bareExtension, Text.trim, hleft]
  rfl

/-- A bare extension ends where the extension does, so blanks can only stand in front of it. -/
theorem bare_back (e : List Char) : SolidBack (bareExtension e) :=
  solid_back_suffix (List.dropWhile_suffix _) (trim_right_back _)

theorem bare_blank_iff (e : List Char) :
    Text.allBlank (bareExtension e) = true ↔ bareExtension e = [] := by
  constructor
  · intro h
    rcases List.eq_nil_or_concat (bareExtension e) with hnil | ⟨front, c, hlast⟩
    · exact hnil
    · have hc : Text.isBlank c = false := bare_back e c (by simp [hlast])
      have hmem : c ∈ bareExtension e := by simp [hlast]
      rw [List.all_eq_true.1 h c hmem] at hc
      exact absurd hc (by decide)
  · intro h
    rw [h]
    rfl

theorem bare_bare_eq {e : List Char} (h : SolidFront (bareExtension e)) :
    bareExtension (bareExtension e) = bareExtension e := by
  conv_lhs => rw [bareExtension, trim_solid h (bare_back e), bareExtension]
  exact List.dropWhile_idempotent _ _

theorem bare_bare_suffix (e : List Char) :
    bareExtension (bareExtension e) <:+ Text.trimLeft (bareExtension e) := by
  conv_lhs => rw [bareExtension, (trim_back (bare_back e)).1]
  exact List.dropWhile_suffix _

theorem bare_bare_length {e : List Char} (h : ¬ SolidFront (bareExtension e)) :
    (bareExtension (bareExtension e)).length < (bareExtension e).length := by
  have hle := (bare_bare_suffix e).length_le
  cases hbare : bareExtension e with
  | nil => exact absurd (by simp [hbare, SolidFront]) h
  | cons c t =>
    have hc : Text.isBlank c = true := by simpa [hbare, SolidFront] using h
    have ht : (Text.trimLeft t).length ≤ t.length := Text.trim_left_length t
    rw [hbare, trim_left_blank hc] at hle
    exact Nat.lt_succ_of_le (hle.trans ht)

theorem fold_length_lt {s t : List Char} (h : s <:+ t) (hless : s.length < t.length) :
    (Text.fold s).length < (Text.fold t).length := by
  obtain ⟨front, rfl⟩ := h
  cases front with
  | nil => exact absurd hless (Nat.lt_irrefl _)
  | cons c front =>
    have hc : 0 < (Text.Case.foldChar c).length :=
      List.length_pos_iff.2 (Text.Case.fold_char_nonempty c)
    have hfront : (Text.fold (c :: front)).length =
        (Text.Case.foldChar c).length + (Text.fold front).length := by
      rw [Text.fold, List.flatMap_cons, List.length_append, Text.fold]
    rw [Text.fold_append, List.length_append, hfront]
    omega

theorem fold_pointed (s : List Char) : Text.fold ('.' :: s) = '.' :: Text.fold s := by
  rw [Text.fold, List.flatMap_cons, Text.Case.fold_char_ascii (by decide)]
  rfl

theorem has_extension_some (name e : String) :
    hasExtension name (some e) = true ↔ Text.allBlank e.toList = true ∨
      '.' :: Text.fold (bareExtension e.toList) <:+ Text.fold name.toList := by
  rw [hasExtension, Bool.or_eq_true, List.isSuffixOf_iff_suffix]

theorem has_extension_tidy (name e : String) :
    hasExtension name (Config.tidyExtension (some e)) = true ↔
      bareExtension e.toList = [] ∨
        '.' :: Text.fold (bareExtension (bareExtension e.toList)) <:+ Text.fold name.toList := by
  cases hbare : bareExtension e.toList with
  | nil =>
    have hnone : Config.tidyExtension (some e) = none := by
      rw [bareExtension] at hbare
      rw [Config.tidyExtension, hbare]
    simp [hnone, hasExtension]
  | cons c t =>
    have hsome : Config.tidyExtension (some e) = some (String.ofList (bareExtension e.toList)) := by
      rw [hbare]
      rw [bareExtension] at hbare
      rw [Config.tidyExtension, hbare]
    rw [hsome, has_extension_some, String.toList_ofList, bare_blank_iff, hbare]

def Settled (e : String) : Prop :=
  Text.allBlank e.toList = true ∨
    bareExtension e.toList ≠ [] ∧ SolidFront (bareExtension e.toList)

theorem tidy_same {e : String} (h : Settled e) (name : String) :
    hasExtension name (Config.tidyExtension (some e)) = hasExtension name (some e) := by
  rw [Bool.eq_iff_iff, has_extension_tidy, has_extension_some]
  rcases h with hblank | ⟨hleft, hsolid⟩
  · exact iff_of_true (.inl (bare_of_blank hblank)) (.inl hblank)
  · have hblank : ¬ Text.allBlank e.toList = true := fun hblank => hleft (bare_of_blank hblank)
    rw [bare_bare_eq hsolid, or_iff_right hleft, or_iff_right hblank]

/-- The two filters of an unsettled extension are told apart by the name that ends in what a
second baring leaves. If the first one leaves nothing already, the empty name does. -/
theorem tidy_differs {e : String} (h : ¬ Settled e) :
    ∃ name, hasExtension name (Config.tidyExtension (some e)) = true ∧
      hasExtension name (some e) = false := by
  have hblank : ¬ Text.allBlank e.toList = true := fun hblank => h (.inl hblank)
  simp only [has_extension_tidy, ← Bool.not_eq_true, has_extension_some, or_iff_right hblank]
  by_cases hnil : bareExtension e.toList = []
  · refine ⟨"", .inl hnil, ?_⟩
    intro hsuffix
    exact absurd hsuffix.length_le (Nat.not_succ_le_zero _)
  · have hsolid : ¬ SolidFront (bareExtension e.toList) := fun hsolid => h (.inr ⟨hnil, hsolid⟩)
    have hsuffix := (bare_bare_suffix e.toList).trans (List.dropWhile_suffix _)
    have hshort := fold_length_lt hsuffix (bare_bare_length hsolid)
    refine ⟨String.ofList ('.' :: bareExtension (bareExtension e.toList)), .inr ?_, ?_⟩
    · simp only [String.toList_ofList, fold_pointed, List.suffix_rfl]
    · intro hlonger
      rw [String.toList_ofList, fold_pointed] at hlonger
      have hle := hlonger.length_le
      rw [List.length_cons, List.length_cons] at hle
      omega

end FileSearch.Query

namespace FileSearch.Command

open Query

theorem extension_given {config : Config} (h : config.extension = none) (name e : String) :
    hasExtension name (extensionFor config (some e)) = hasExtension name (some e) := by
  rw [extensionFor]
  split
  · next hempty =>
    have hnil : e.toList = [] := by simpa using hempty
    rw [h, Bool.eq_iff_iff, has_extension_some, hnil]
    exact iff_of_true rfl (.inl rfl)
  · rfl

/-- What an extension keeps from the settings, and what it keeps when it is given with the
search. It is the same for every name exactly if baring it once settles it. -/
theorem extension_routes {root : Yaml.Entries} {config other : Config} {e : String}
    (hread : Config.ofEntries root = .ok config)
    (he : Config.setting? root "search" "extension" = some (.text e))
    (hother : other.extension = none) :
    (∀ name, hasExtension name (extensionFor config none) = true ↔
      bareExtension e.toList = [] ∨
        '.' :: Text.fold (bareExtension (bareExtension e.toList)) <:+ Text.fold name.toList) ∧
    (∀ name, hasExtension name (extensionFor other (some e)) = true ↔
      Text.allBlank e.toList = true ∨
        '.' :: Text.fold (bareExtension e.toList) <:+ Text.fold name.toList) ∧
    ((∀ name, hasExtension name (extensionFor config none) =
        hasExtension name (extensionFor other (some e))) ↔ Settled e) := by
  have hconfig : extensionFor config none = Config.tidyExtension (some e) := by
    obtain ⟨extension, htidy, hset⟩ := (Config.of_entries_ok hread).1.extension
    rcases hset with ⟨-, hnone | hnull⟩ | ⟨text, rfl, htext⟩
    · cases hnone.symm.trans he
    · cases hnull.symm.trans he
    · cases htext.symm.trans he
      exact htidy
  simp only [hconfig, extension_given hother]
  refine ⟨fun name => has_extension_tidy name e, fun name => has_extension_some name e, ?_⟩
  constructor
  · intro hsame
    by_contra hunsettled
    obtain ⟨name, hkept, hlost⟩ := tidy_differs hunsettled
    rw [hsame name, hlost] at hkept
    exact absurd hkept (by decide)
  · intro hsettled name
    exact tidy_same hsettled name

def dumpSettings (extension : Yaml.Entries) : Yaml.Entries :=
  [("log", .mapping [("level", .text "WARNING")]),
    ("search", .mapping (("sources", .list [.text "dump"]) :: extension)),
    ("dump", .mapping [("path", .text "results.json")]),
    ("storage", .mapping [("enabled", .bool false)])]

def dumpConfig (extension : Option String) : Config :=
  { logLevel := "WARNING", logToFile := false, logFolder := "log", sources := [.dump],
    workers := 4, sanitizes := true, extension, dumpPath := "results.json",
    storageEnabled := false, databasePath := "database/known.db", outputFolder := "output",
    formats := ["console"] }

theorem pointed_extension_routes :
    Config.ofEntries (dumpSettings [("extension", .text " .avi ")]) =
        .ok (dumpConfig (some "avi")) ∧
      Settled " .avi " ∧
      ∀ name, hasExtension name (extensionFor (dumpConfig (some "avi")) none) =
        hasExtension name (extensionFor (dumpConfig none) (some " .avi ")) := by
  have hread : Config.ofEntries (dumpSettings [("extension", .text " .avi ")]) =
      .ok (dumpConfig (some "avi")) := by decide +kernel
  have hsettled : Settled " .avi " := by
    refine .inr ⟨by decide +kernel, ?_⟩
    rw [show bareExtension " .avi ".toList = ['a', 'v', 'i'] by decide +kernel]
    simp only [SolidFront, List.head?_cons, Option.mem_some_iff, forall_eq']
    rfl
  exact ⟨hread, hsettled, (extension_routes hread rfl rfl).2.2.2 hsettled⟩

/-- Blanks behind the point are part of the extension only where the search gives it. -/
theorem spaced_extension_differs :
    ¬ ∀ (root : Yaml.Entries) (config : Config) (e name : String),
      Config.ofEntries root = .ok config →
      Config.setting? root "search" "extension" = some (.text e) →
      hasExtension name config.extension = hasExtension name (some e) := by
  intro h
  have hsame := h (dumpSettings [("extension", .text ". avi")]) (dumpConfig (some " avi"))
    ". avi" "a.avi" (by decide +kernel) rfl
  exact absurd hsame (by decide +kernel)

end FileSearch.Command
