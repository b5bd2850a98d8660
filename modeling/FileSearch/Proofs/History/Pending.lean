import FileSearch.Proofs.History.Migrating

/-!
# Migrations that are due

Behind a version that counts the migrations of a database, a run executes those that the
database has not seen, whatever their statements do. The version is read from the file, and one
below zero counts from the end of the list: such a run leaves out the first migrations, and still
ends with the last version.
-/

set_option autoImplicit false

namespace FileSearch.History.Migration

def above (version : Int) (migrations : List Migration) : List Migration :=
  migrations.filter (version < ·.version)

inductive Applied : List Migration → Connection → Connection → Prop
  | nil (c : Connection) : Applied [] c c
  | cons {m : Migration} {rest : List Migration} {c next last : Connection}
    (hm : m.apply c = (next, none)) (hrest : Applied rest next last) : Applied (m :: rest) c last

inductive Course (due : List Migration) (c : Connection) : Outcome → Prop
  | through {last : Connection} (happlied : Applied due c last) :
    Course due c ⟨last, due.map appliedNote, none⟩
  | stopped {before after : List Migration} {m : Migration} {next last : Connection} {e : DataError}
    (hsplit : due = before ++ m :: after) (happlied : Applied before c next)
    (hfail : m.apply next = (last, some e)) :
    Course due c ⟨last, before.map appliedNote, some (.failed e)⟩

inductive ContainedCourse (due : List Migration) (db : Database) : Outcome → Prop
  | through {db' : Database} (hbring : bring due db = .ok db') :
    ContainedCourse due db ⟨⟨db', none⟩, due.map appliedNote, none⟩
  | stopped {before after : List Migration} {m : Migration} {db' : Database} {e : DataError}
    (hsplit : due = before ++ m :: after) (hbring : bring before db = .ok db')
    (hfail : Statement.runAll m.statements db' = .error e) :
    ContainedCourse due db ⟨⟨db', none⟩, before.map appliedNote, some (.failed e)⟩

structure Executes (due : List Migration) (db : Database) (o : Outcome) : Prop where
  course : Course due ⟨db, none⟩ o
  contained : AllContained due → ContainedCourse due db o

theorem apply_all_course (due : List Migration) (c : Connection) :
    Course due c (applyAll c due) := by
  induction due generalizing c with
  | nil => exact .through (.nil c)
  | cons m rest ih =>
    rw [applyAll]
    rcases hm : m.apply c with ⟨next, _ | e⟩
    · dsimp only
      generalize hrun : applyAll next rest = o
      have hrest := ih next
      rw [hrun] at hrest
      cases hrest with
      | through happlied => exact .through (.cons hm happlied)
      | @stopped before after _ _ _ _ hsplit happlied hfail =>
        refine @Course.stopped _ c (m :: before) after _ _ _ _ ?_ (.cons hm happlied) hfail
        rw [hsplit]
        rfl
    · exact @Course.stopped _ c [] rest m c next e rfl (.nil c) hm

theorem apply_all_contained {due : List Migration} (hall : AllContained due) (db : Database) :
    ContainedCourse due db (applyAll ⟨db, none⟩ due) := by
  rcases bring_or_stop due db with ⟨db', hbring⟩ | ⟨before, m, after, db', e, rfl, hbring, hfail⟩
  · have happlied := apply_all_bring hall hbring []
    rw [List.append_nil] at happlied
    rw [happlied, applyAll]
    dsimp only
    rw [List.append_nil]
    exact .through hbring
  · obtain ⟨hbefore, hothers⟩ := List.forall_mem_append.1 hall
    rw [apply_all_bring hbefore hbring, applyAll,
      apply_error (hothers m List.mem_cons_self) hfail]
    dsimp only
    rw [List.append_nil]
    exact .stopped rfl hbring hfail

theorem apply_all_executes (due : List Migration) (db : Database) :
    Executes due db (applyAll ⟨db, none⟩ due) :=
  ⟨apply_all_course due _, fun hall => apply_all_contained hall db⟩

theorem course_all {due : List Migration} {c : Connection} {o : Outcome} (h : Course due c o)
    (herror : o.error = none) : Applied due c o.connection := by
  cases h with
  | through happlied => exact happlied
  | stopped hsplit happlied hfail => cases herror

theorem apply_version {m : Migration} {c next : Connection} (h : m.apply c = (next, none)) :
    next.committed.version = m.version := by
  have hcommit {d : Connection}
      (hdone : (d.change { d.current with version := m.version }).tryCommit = (next, none)) :
      next.committed.version = m.version := by
    obtain ⟨committed, _ | working⟩ := d
    · cases hdone
    · cases hdone
      rfl
  rw [apply] at h
  split at h
  · cases h
  · split at h
    · rw [settle] at h
      split at h
      · cases h
      · split at h
        · cases h
        · cases h
    · exact hcommit h

section
variable {migrations : List Migration} {db : Database}

theorem above_all {start version : Int} (h : Numbered start migrations)
    (hversion : version ≤ start) : above version migrations = migrations := by
  rw [above, List.filter_eq_self]
  intro m hm
  obtain ⟨i, hi, rfl⟩ := List.mem_iff_getElem.1 hm
  have hm' := h i hi
  rw [decide_eq_true_iff]
  omega

/-- The migrations above a version are those behind as many of the list. -/
theorem above_drop {start : Int} (h : Numbered start migrations) (n : Nat) :
    above (start + n) migrations = migrations.drop n := by
  induction migrations generalizing start n with
  | nil => rw [List.drop_nil]; rfl
  | cons m rest ih =>
    obtain ⟨hm, hrest⟩ := (numbered_cons start m rest).1 h
    cases n with
    | zero => exact above_all h (by omega)
    | succ n =>
      have hlater : start + (n + 1 : Nat) = start + 1 + n := by
        push_cast
        omega
      have hseen : ¬ start + 1 + n < m.version := by omega
      rw [hlater, above, List.filter_cons_of_neg (by simpa using hseen), ← above, ih hrest,
        List.drop_succ_cons]

theorem applied_last {start : Int} {c last : Connection} (hnumbered : Numbered start migrations)
    (hsome : migrations ≠ []) (h : Applied migrations c last) :
    last.committed.version = start + migrations.length := by
  induction h generalizing start with
  | nil => exact absurd rfl hsome
  | @cons m rest _ next _ hm hrest ih =>
    obtain ⟨hversion, hnumbered'⟩ := (numbered_cons start m rest).1 hnumbered
    rw [List.length_cons]
    cases rest with
    | nil =>
      cases hrest
      rw [apply_version hm, hversion]
      rfl
    | cons other rest =>
      rw [ih hnumbered' (List.cons_ne_nil other rest)]
      push_cast
      omega

theorem pending_counted {n : Nat} (h : Numbered 0 migrations) :
    pending migrations n = above n migrations := by
  have hdrop := above_drop h n
  rw [Int.zero_add] at hdrop
  rw [pending, if_pos (Int.natCast_nonneg n), Int.toNat_natCast, hdrop]

theorem pending_below {k : Nat} (hk : 0 < k) :
    pending migrations (-k) = migrations.drop (migrations.length - k) := by
  rw [pending, if_neg (by omega), Int.natAbs_neg, Int.natAbs_natCast]

end

structure CatchesUp (migrations : List Migration) (db : Database) (o : Outcome) : Prop where
  counted : 0 ≤ db.version → Executes (above db.version migrations) db o
  /-- All migrations are above a version below zero; the last ones are executed, as many as it is
  below. -/
  below : ∀ k : Nat, db.version = -k → 0 < k →
    above db.version migrations = migrations ∧
      Executes (migrations.drop (migrations.length - k)) db o
  reached : o.error = none → 0 ≤ db.version ∨ migrations ≠ [] →
    o.database.version = migrations.length

theorem run_catches_up {migrations : List Migration} {db : Database}
    (hnumbered : Numbered 0 migrations) (hknown : db.version ≤ migrations.length) :
    CatchesUp migrations db (runOn migrations ⟨db, none⟩) := by
  have hexecutes : Executes (pending migrations db.version) db (runOn migrations ⟨db, none⟩) := by
    rw [run_on_pending hnumbered hknown]
    exact apply_all_executes _ db
  constructor
  case counted =>
    intro hcounted
    obtain ⟨n, hn⟩ := Int.eq_ofNat_of_zero_le hcounted
    rwa [hn, pending_counted hnumbered, ← hn] at hexecutes
  case below =>
    intro k hversion hk
    refine ⟨above_all hnumbered (by omega), ?_⟩
    rwa [hversion, pending_below hk] at hexecutes
  case reached =>
    intro herror hsome
    have happlied := course_all hexecutes.course herror
    by_cases hcounted : 0 ≤ db.version
    · obtain ⟨n, hn⟩ := Int.eq_ofNat_of_zero_le hcounted
      rw [hn, pending, if_pos (Int.natCast_nonneg n), Int.toNat_natCast] at happlied
      by_cases hdue : migrations.drop n = []
      -- nothing is due
      · rw [hdue] at happlied
        have hlast : migrations.length ≤ n := List.drop_eq_nil_iff.1 hdue
        generalize hdone : (runOn migrations ⟨db, none⟩).connection = done at happlied
        cases happlied
        rw [Outcome.database, hdone, hn]
        omega
      · have hlast := applied_last (numbered_drop hnumbered n) hdue happlied
        have hlength := List.length_pos_of_ne_nil hdue
        rw [List.length_drop] at hlast hlength
        rw [Outcome.database, hlast]
        omega
    -- some migration is executed, whichever are left out
    · obtain ⟨k, hk⟩ : ∃ k : Nat, -db.version = k := Int.eq_ofNat_of_zero_le (by omega)
      have hversion : db.version = -(k : Int) := by omega
      have hlength : 0 < migrations.length :=
        List.length_pos_of_ne_nil (hsome.resolve_left hcounted)
      rw [hversion, pending_below (by omega)] at happlied
      have hlast := applied_last (numbered_drop hnumbered _)
        (List.ne_nil_of_length_pos (by rw [List.length_drop]; omega)) happlied
      rw [List.length_drop] at hlast
      rw [Outcome.database, hlast]
      omega

def twoTables : List Migration :=
  [⟨1, "first table", [.createTable "a"]⟩, ⟨2, "second table", [.createTable "b"]⟩]

theorem two_tables_catch_up :
    Numbered 0 twoTables ∧ (-1 : Int) ≤ twoTables.length ∧
      CatchesUp twoTables { version := -1 } (runOn twoTables ⟨{ version := -1 }, none⟩) := by
  have hnumbered : Numbered 0 twoTables := (count_up_iff 0 twoTables).1 (by decide)
  exact ⟨hnumbered, by decide, run_catches_up hnumbered (by decide)⟩

/-- The first table is not made, and the version is that of a database that has both. -/
theorem two_tables_skipped :
    (runOn twoTables ⟨{ version := -1 }, none⟩).ends =
        (⟨{ version := 2, tables := [("b", .plain 0)] }, none⟩, none) ∧
    ¬ ∀ (migrations : List Migration) (db : Database), Numbered 0 migrations →
      db.version ≤ migrations.length →
        Executes (above db.version migrations) db (runOn migrations ⟨db, none⟩) := by
  have hends : (runOn twoTables ⟨{ version := -1 }, none⟩).ends =
      (⟨{ version := 2, tables := [("b", .plain 0)] }, none⟩, none) := by decide +kernel
  refine ⟨hends, fun h => ?_⟩
  have hexecutes := h twoTables { version := -1 } ((count_up_iff 0 twoTables).1 (by decide))
    (by decide)
  generalize hrun : runOn twoTables ⟨{ version := -1 }, none⟩ = o at hends hexecutes
  have hboth : (bring twoTables { version := -1 }).toOption =
      some { version := 2, tables := [("a", .plain 0), ("b", .plain 0)] } := by decide +kernel
  cases hexecutes.contained (plain_all_contained rfl) with
  | @through db' hbring =>
    have hall : bring twoTables { version := -1 } = .ok db' := hbring
    cases hends
    rw [hall] at hboth
    exact absurd hboth (by decide)
  | stopped hsplit hbring hfail => cases hends

end FileSearch.History.Migration
