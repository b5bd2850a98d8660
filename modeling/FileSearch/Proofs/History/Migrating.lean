import FileSearch.History.Migration
import Mathlib.Data.List.Basic

/-!
# Migrations without transactions

What a run makes of a database is told by a plain reading of its migrations, in which
statements follow one another and nothing is ever undone. A run reaches the end of this
reading, or stops in front of the first migration that has a failing statement. This holds
of statements that leave the transaction to their migration and fail with errors of the
database. One that ends the transaction keeps what was done before it.
-/

set_option autoImplicit false

namespace FileSearch.History

namespace Statement

def effect (s : Statement) (db : Database) : Except DataError Database :=
  match s.run ⟨db, some db⟩ with
  | (c, none) => .ok c.current
  | (_, some e) => .error e

/-- The statement leaves the transaction open in which it runs and what is committed alone, and
whatever it fails with comes from the database. -/
structure Contained (s : Statement) : Prop where
  goes : ∀ {committed db db' : Database}, s.effect db = .ok db' →
    s.run ⟨committed, some db⟩ = (⟨committed, some db'⟩, none)
  fails : ∀ (committed : Database) {db : Database} {e : DataError}, s.effect db = .error e →
    e.isForeign = false ∧ ∃ left, s.run ⟨committed, some db⟩ = (⟨committed, some left⟩, some e)

theorem attempt_contained {s : Statement} {f : Database → Except DataError Database}
    (hrun : ∀ committed db, s.run ⟨committed, some db⟩ =
      Connection.attempt ⟨committed, some db⟩ (f db))
    (herrors : ∀ db e, f db = .error e → e.isForeign = false) : s.Contained := by
  have heffect (db : Database) : s.effect db = f db := by
    rw [effect, hrun]
    cases f db <;> rfl
  constructor
  · intro committed db db' h
    rw [heffect] at h
    rw [hrun, h]
    rfl
  · intro committed db e h
    rw [heffect] at h
    refine ⟨herrors db e h, db, ?_⟩
    rw [hrun, h]
    rfl

def isPlain : Statement → Bool
  | .start => false
  | .commit => false
  | .rollback => false
  | .other _ => false
  | _ => true

theorem create_error {db : Database} {name : String} {table : Table} {e : DataError}
    (h : db.create name table = .error e) : e.isForeign = false := by
  rw [Database.create] at h
  split at h
  · cases h
    rfl
  · split at h
    · cases h
      rfl
    · cases h

theorem create_index_error {db : Database} {name : String} {e : DataError}
    (h : db.createIndex name = .error e) : e.isForeign = false := by
  rw [Database.createIndex] at h
  split at h
  · cases h
    rfl
  · split at h
    · cases h
      rfl
    · split at h
      · cases h
        rfl
      · split at h
        · cases h
          rfl
        · cases h

theorem add_row_error {db : Database} {name : String} {e : DataError}
    (h : db.addRow name = .error e) : e.isForeign = false := by
  rw [Database.addRow] at h
  split at h
  · cases h
    rfl
  · cases h
  · cases h
    rfl

theorem plain_contained {s : Statement} (h : s.isPlain = true) : s.Contained := by
  cases s with
  | query =>
    exact attempt_contained (f := .ok) (fun _ _ => rfl) fun _ _ h => by cases h
  | createTable name => exact attempt_contained (fun _ _ => rfl) fun _ _ => create_error
  | createKnown => exact attempt_contained (fun _ _ => rfl) fun _ _ => create_error
  | createIndex name => exact attempt_contained (fun _ _ => rfl) fun _ _ => create_index_error
  | addRow table =>
    refine attempt_contained (f := (·.addRow table)) (fun committed db => ?_)
      fun _ _ => add_row_error
    rw [run, Connection.current, Option.getD_some]
    cases db.addRow table <;> rfl
  | start => cases h
  | commit => cases h
  | rollback => cases h
  | other effect => cases h

def runAll : List Statement → Database → Except DataError Database
  | [], db => .ok db
  | s :: rest, db => do
    let db ← s.effect db
    runAll rest db

section
variable {statements : List Statement} {db : Database}

theorem execute_ok (hall : ∀ s ∈ statements, s.Contained) {db' : Database}
    (h : runAll statements db = .ok db') (committed : Database) :
    execute statements ⟨committed, some db⟩ = (⟨committed, some db'⟩, none) := by
  induction statements generalizing db with
  | nil =>
    cases h
    rfl
  | cons s rest ih =>
    obtain ⟨hs, hrest⟩ := List.forall_mem_cons.1 hall
    cases heffect : s.effect db with
    | error e =>
      rw [runAll, heffect] at h
      cases h
    | ok next =>
      rw [runAll, heffect] at h
      rw [execute, hs.goes heffect]
      exact ih hrest h

theorem execute_error (hall : ∀ s ∈ statements, s.Contained) {e : DataError}
    (h : runAll statements db = .error e) (committed : Database) :
    e.isForeign = false ∧
      ∃ left, execute statements ⟨committed, some db⟩ = (⟨committed, some left⟩, some e) := by
  induction statements generalizing db with
  | nil => cases h
  | cons s rest ih =>
    obtain ⟨hs, hrest⟩ := List.forall_mem_cons.1 hall
    cases heffect : s.effect db with
    | error e' =>
      rw [runAll, heffect] at h
      cases h
      obtain ⟨hown, left, hrun⟩ := hs.fails committed heffect
      exact ⟨hown, left, by rw [execute, hrun]⟩
    | ok next =>
      rw [runAll, heffect] at h
      rw [execute, hs.goes heffect]
      exact ih hrest h

end

end Statement

namespace Migration

def Numbered (start : Int) (migrations : List Migration) : Prop :=
  ∀ i, (h : i < migrations.length) → migrations[i].version = start + i + 1

theorem numbered_cons (start : Int) (m : Migration) (rest : List Migration) :
    Numbered start (m :: rest) ↔ m.version = start + 1 ∧ Numbered (start + 1) rest := by
  constructor
  · intro h
    have hfirst := h 0 (by simp)
    rw [List.getElem_cons_zero] at hfirst
    refine ⟨by simpa using hfirst, fun i hi => ?_⟩
    have hnext := h (i + 1) (by simpa using hi)
    rw [List.getElem_cons_succ] at hnext
    push_cast at hnext
    omega
  · rintro ⟨hm, hrest⟩ i hi
    cases i with
    | zero => simpa using hm
    | succ i =>
      have hnext := hrest i (by simpa using hi)
      rw [List.getElem_cons_succ]
      push_cast
      omega

theorem count_up_iff (start : Int) (migrations : List Migration) :
    countUp (start + 1) (migrations.map (·.version)) = true ↔ Numbered start migrations := by
  induction migrations generalizing start with
  | nil => simp [countUp, Numbered]
  | cons m rest ih => simp [countUp, numbered_cons, ih]

theorem numbered_drop {start : Int} {migrations : List Migration}
    (h : Numbered start migrations) (n : Nat) : Numbered (start + n) (migrations.drop n) := by
  intro i hi
  have hlater := h (n + i) (by rw [List.length_drop] at hi; omega)
  rw [List.getElem_drop]
  push_cast at hlater
  omega

theorem numbered_left {start : Int} {first second : List Migration}
    (h : Numbered start (first ++ second)) : Numbered start first := by
  intro i hi
  have hwhole := h i (by rw [List.length_append]; omega)
  rwa [List.getElem_append_left hi] at hwhole

def Contained (m : Migration) : Prop := ∀ s ∈ m.statements, s.Contained

def AllContained (migrations : List Migration) : Prop := ∀ m ∈ migrations, m.Contained

theorem plain_all_contained {migrations : List Migration}
    (h : migrations.all (·.statements.all (·.isPlain)) = true) : AllContained migrations := by
  intro m hm s hs
  exact Statement.plain_contained (List.all_eq_true.1 (List.all_eq_true.1 h m hm) s hs)

theorem apply_ok {m : Migration} (hm : m.Contained) {db db' : Database}
    (h : Statement.runAll m.statements db = .ok db') :
    m.apply ⟨db, none⟩ = (⟨{ db' with version := m.version }, none⟩, none) := by
  have hstart : Connection.tryStart ⟨db, none⟩ = (⟨db, some db⟩, none) := rfl
  rw [apply, hstart]
  simp only [Statement.execute_ok hm h]
  rfl

theorem apply_error {m : Migration} (hm : m.Contained) {db : Database} {e : DataError}
    (h : Statement.runAll m.statements db = .error e) :
    m.apply ⟨db, none⟩ = (⟨db, none⟩, some e) := by
  obtain ⟨hown, left, hrun⟩ := Statement.execute_error hm h db
  have hstart : Connection.tryStart ⟨db, none⟩ = (⟨db, some db⟩, none) := rfl
  rw [apply, hstart]
  simp only [hrun]
  rw [settle, hown]
  rfl

def bring : List Migration → Database → Except DataError Database
  | [], db => .ok db
  | m :: rest, db => do
    let db ← Statement.runAll m.statements db
    bring rest { db with version := m.version }

theorem bring_cons {m : Migration} {rest : List Migration} {db db' : Database}
    (h : bring (m :: rest) db = .ok db') :
    ∃ next, Statement.runAll m.statements db = .ok next ∧
      bring rest { next with version := m.version } = .ok db' := by
  rw [bring] at h
  cases hm : Statement.runAll m.statements db with
  | error e =>
    rw [hm] at h
    cases h
  | ok next =>
    rw [hm] at h
    exact ⟨next, rfl, h⟩

/-- Migrations go through, or there is a first one with a failing statement. -/
theorem bring_or_stop (migrations : List Migration) (db : Database) :
    (∃ db', bring migrations db = .ok db') ∨
      ∃ before m after db' e, migrations = before ++ m :: after ∧ bring before db = .ok db' ∧
        Statement.runAll m.statements db' = .error e := by
  induction migrations generalizing db with
  | nil => exact .inl ⟨db, rfl⟩
  | cons m rest ih =>
    cases hm : Statement.runAll m.statements db with
    | error e => exact .inr ⟨[], m, rest, db, e, rfl, rfl, hm⟩
    | ok next =>
      have hcons {ms : List Migration} :
          bring (m :: ms) db = bring ms { next with version := m.version } := by
        rw [bring, hm]
        rfl
      rcases ih { next with version := m.version } with ⟨db', h⟩ | ⟨before, k, after, db', e, h⟩
      · exact .inl ⟨db', hcons.trans h⟩
      · obtain ⟨hsplit, hbefore, hfail⟩ := h
        exact .inr ⟨m :: before, k, after, db', e, by rw [hsplit]; rfl, hcons.trans hbefore, hfail⟩

theorem bring_version {migrations : List Migration} {db db' : Database}
    (hnumbered : Numbered db.version migrations) (h : bring migrations db = .ok db') :
    db'.version = db.version + migrations.length := by
  induction migrations generalizing db with
  | nil =>
    cases h
    simp
  | cons m rest ih =>
    obtain ⟨next, hm, hrest⟩ := bring_cons h
    obtain ⟨hversion, hnumbered'⟩ := (numbered_cons _ _ _).1 hnumbered
    rw [← hversion] at hnumbered'
    have hlast : db'.version = m.version + rest.length := ih hnumbered' hrest
    rw [List.length_cons]
    push_cast
    omega

def Outcome.ends (o : Outcome) : Connection × Option MigrationError := (o.connection, o.error)

theorem apply_all_bring {first : List Migration} (hall : AllContained first) {db db' : Database}
    (h : bring first db = .ok db') (second : List Migration) :
    applyAll ⟨db, none⟩ (first ++ second) =
      let rest := applyAll ⟨db', none⟩ second
      { rest with notes := first.map appliedNote ++ rest.notes } := by
  induction first generalizing db with
  | nil =>
    cases h
    rfl
  | cons m rest ih =>
    obtain ⟨next, hm, hrest⟩ := bring_cons h
    obtain ⟨hfirst, hothers⟩ := List.forall_mem_cons.1 hall
    rw [List.cons_append, applyAll, apply_ok hfirst hm]
    dsimp only
    rw [ih hothers hrest]
    rfl

theorem apply_all_append {first : List Migration} (hall : AllContained first) {db db' : Database}
    (h : bring first db = .ok db') (second : List Migration) :
    (applyAll ⟨db, none⟩ (first ++ second)).ends = (applyAll ⟨db', none⟩ second).ends := by
  rw [apply_all_bring hall h]
  rfl

theorem drop_contained {migrations : List Migration} (hall : AllContained migrations) (n : Nat) :
    AllContained (migrations.drop n) :=
  fun m hm => hall m (List.mem_of_mem_drop hm)

structure Behind (migrations : List Migration) (db : Database) (v : Nat) : Prop where
  numbered : Numbered 0 migrations
  version : db.version = v
  within : v ≤ migrations.length

section
variable {migrations : List Migration} {db db' : Database} {v : Nat}

theorem run_on_pending (hnumbered : Numbered 0 migrations)
    (hknown : db.version ≤ migrations.length) :
    runOn migrations ⟨db, none⟩ = applyAll ⟨db, none⟩ (pending migrations db.version) := by
  have hcount : countUp 1 (migrations.map (·.version)) = true :=
    (count_up_iff 0 migrations).2 hnumbered
  have hversion : ¬ (migrations.length : Int) < (Connection.current ⟨db, none⟩).version :=
    Int.not_lt.2 hknown
  simp only [runOn, hcount, hversion, Bool.not_true, Bool.false_eq_true, if_false]
  rfl

theorem run_on_behind (h : Behind migrations db v) :
    runOn migrations ⟨db, none⟩ = applyAll ⟨db, none⟩ (migrations.drop v) := by
  have hwithin := h.within
  rw [run_on_pending h.numbered (by rw [h.version]; omega), h.version, pending,
    if_pos (Int.natCast_nonneg v), Int.toNat_natCast]

theorem behind_version (h : Behind migrations db v)
    (hbring : bring (migrations.drop v) db = .ok db') : db'.version = migrations.length := by
  have hnumbered : Numbered db.version (migrations.drop v) := by
    have hdrop := numbered_drop h.numbered v
    rwa [Int.zero_add, ← h.version] at hdrop
  have hlast := bring_version hnumbered hbring
  have hwithin := h.within
  rw [h.version, List.length_drop] at hlast
  omega

theorem run_through (hall : AllContained migrations) (h : Behind migrations db v)
    (hbring : bring (migrations.drop v) db = .ok db') :
    (runOn migrations ⟨db, none⟩).ends = (⟨db', none⟩, none) := by
  have happend := apply_all_append (drop_contained hall v) hbring []
  rw [List.append_nil] at happend
  rw [run_on_behind h, happend]
  rfl

section
variable {common after : List Migration} {m : Migration} {e : DataError}

theorem behind_left (h : Behind (common ++ after) db v) (hv : v ≤ common.length) :
    Behind common db v :=
  ⟨numbered_left h.numbered, h.version, hv⟩

theorem run_stopped (hall : AllContained (common ++ m :: after))
    (h : Behind (common ++ m :: after) db v) (hv : v ≤ common.length)
    (hbring : bring (common.drop v) db = .ok db')
    (hfail : Statement.runAll m.statements db' = .error e) :
    (runOn (common ++ m :: after) ⟨db, none⟩).ends = (⟨db', none⟩, some (.failed e)) := by
  obtain ⟨hcommon, hothers⟩ := List.forall_mem_append.1 hall
  rw [run_on_behind h, List.drop_append_of_le_length hv,
    apply_all_append (drop_contained hcommon v) hbring, applyAll,
    apply_error (hothers m List.mem_cons_self) hfail]
  rfl

/-- A run goes on where an earlier one has stopped. -/
theorem run_resumed (hall : AllContained common) (h : Behind (common ++ after) db v)
    (hv : v ≤ common.length)
    (hbring : bring (common.drop v) db = .ok db') :
    (runOn (common ++ after) ⟨db', none⟩).ends = (runOn (common ++ after) ⟨db, none⟩).ends := by
  have hversion := behind_version (behind_left h hv) hbring
  have hlater : Behind (common ++ after) db' common.length :=
    ⟨h.numbered, hversion, by rw [List.length_append]; omega⟩
  rw [run_on_behind hlater, run_on_behind h, List.drop_left, List.drop_append_of_le_length hv,
    apply_all_append (drop_contained hall v) hbring]

end

theorem behind_cases (h : Behind migrations db v) :
    (∃ db', bring (migrations.drop v) db = .ok db') ∨
      ∃ common m after db' e, migrations = common ++ m :: after ∧ v ≤ common.length ∧
        bring (common.drop v) db = .ok db' ∧ Statement.runAll m.statements db' = .error e := by
  rcases bring_or_stop (migrations.drop v) db with hgood | ⟨before, m, after, db', e, hstop⟩
  · exact .inl hgood
  · obtain ⟨hsplit, hbefore, hfail⟩ := hstop
    have hlength : (migrations.take v).length = v := by
      rw [List.length_take]
      exact Nat.min_eq_left h.within
    refine .inr ⟨migrations.take v ++ before, m, after, db', e, ?_, ?_, ?_, hfail⟩
    · rw [List.append_assoc, ← hsplit, List.take_append_drop]
    · rw [List.length_append]
      omega
    · rwa [List.drop_left' hlength]

end

theorem apply_idle {m : Migration} (hm : m.Contained) {c : Connection} (h : c.working = none) :
    (m.apply c).1.working = none := by
  obtain ⟨db, working⟩ := c
  cases h
  cases hall : Statement.runAll m.statements db with
  | ok db' => rw [apply_ok hm hall]
  | error e => rw [apply_error hm hall]

theorem apply_all_idle {migrations : List Migration} (hall : AllContained migrations)
    {c : Connection} (h : c.working = none) :
    (applyAll c migrations).connection.working = none := by
  induction migrations generalizing c with
  | nil => exact h
  | cons m rest ih =>
    obtain ⟨hm, hrest⟩ := List.forall_mem_cons.1 hall
    have hidle := apply_idle hm h
    rw [applyAll]
    rcases hp : m.apply c with ⟨c', _ | e⟩
    · rw [hp] at hidle
      exact ih hrest hidle
    · rw [hp] at hidle
      exact hidle

theorem run_on_idle {migrations : List Migration} (hall : AllContained migrations)
    {c : Connection} (h : c.working = none) :
    (runOn migrations c).connection.working = none := by
  rw [runOn]
  split
  · exact h
  · split
    · exact h
    · exact apply_all_idle (drop_contained hall _) h

def AllOrNothing (migrations : List Migration) (db : Database) (v : Nat) : Prop :=
  (∃ db', bring (migrations.drop v) db = .ok db' ∧ db'.version = migrations.length ∧
    (runOn migrations ⟨db, none⟩).ends = (⟨db', none⟩, none)) ∨
  ∃ common m after db' e, migrations = common ++ m :: after ∧ v ≤ common.length ∧
    bring (common.drop v) db = .ok db' ∧ Statement.runAll m.statements db' = .error e ∧
    db'.version = common.length ∧
    (runOn migrations ⟨db, none⟩).ends = (⟨db', none⟩, some (.failed e))

structure Resumable (migrations : List Migration) (c : Connection) : Prop where
  gap : ¬ Numbered 0 migrations →
    (runOn migrations c).ends = (c, some (.gap (migrations.map (·.version))))
  newer : Numbered 0 migrations → migrations.length < c.committed.version →
    (runOn migrations c).ends = (c, none)
  applied : AllContained migrations → ∀ v, Behind migrations c.committed v →
    AllOrNothing migrations c.committed v
  /-- An earlier run of fewer migrations makes no difference. -/
  grown : ∀ v first, AllContained first → Numbered 0 migrations → first <+: migrations →
    Behind first c.committed v →
    (runOn migrations (runOn first c).connection).ends = (runOn migrations c).ends
  again : AllContained migrations → ∀ v, Behind migrations c.committed v →
    (runOn migrations (runOn migrations c).connection).ends = (runOn migrations c).ends
  /-- Neither does an earlier run that has failed in a migration since replaced. -/
  repaired : AllContained migrations → ∀ v common m after others e,
    migrations = common ++ m :: after → Behind migrations c.committed v →
    (runOn migrations c).error = some (.failed e) →
    (runOn migrations c).database.version = common.length → Numbered 0 (common ++ others) →
    (runOn (common ++ others) (runOn migrations c).connection).ends =
      (runOn (common ++ others) c).ends

section
variable {migrations : List Migration} {db : Database} {v : Nat}

theorem run_gap (h : ¬ Numbered 0 migrations) (c : Connection) :
    (runOn migrations c).ends = (c, some (.gap (migrations.map (·.version)))) := by
  have hcount : countUp 1 (migrations.map (·.version)) = false := by
    rw [← Bool.not_eq_true]
    exact fun hc => h ((count_up_iff 0 migrations).1 hc)
  simp only [runOn, hcount, Bool.not_false, if_true]
  rfl

theorem run_newer (hnumbered : Numbered 0 migrations) (h : migrations.length < db.version) :
    (runOn migrations ⟨db, none⟩).ends = (⟨db, none⟩, none) := by
  have hcount : countUp 1 (migrations.map (·.version)) = true :=
    (count_up_iff 0 migrations).2 hnumbered
  have hnewer : migrations.length < (Connection.current ⟨db, none⟩).version := h
  simp only [runOn, hcount, hnewer, Bool.not_true, Bool.false_eq_true, if_false, if_true]
  rfl

theorem run_grown {first : List Migration} (hall : AllContained first)
    (hnumbered : Numbered 0 migrations) (hinit : first <+: migrations) (h : Behind first db v) :
    (runOn migrations (runOn first ⟨db, none⟩).connection).ends =
      (runOn migrations ⟨db, none⟩).ends := by
  obtain ⟨second, rfl⟩ := hinit
  have hwhole : Behind (first ++ second) db v :=
    ⟨hnumbered, h.version, by have := h.within; rw [List.length_append]; omega⟩
  rcases behind_cases h with ⟨db', hbring⟩ | ⟨common, m, after, db', e, hsplit, hv, hbring, hfail⟩
  · have hends : (runOn first ⟨db, none⟩).connection = ⟨db', none⟩ :=
      congrArg Prod.fst (run_through hall h hbring)
    rw [hends, run_resumed hall hwhole h.within hbring]
  · subst hsplit
    have hends : (runOn (common ++ m :: after) ⟨db, none⟩).connection = ⟨db', none⟩ :=
      congrArg Prod.fst (run_stopped hall h hv hbring hfail)
    rw [List.append_assoc] at hwhole ⊢
    rw [hends, run_resumed (List.forall_mem_append.1 hall).1 hwhole hv hbring]

theorem run_repaired {common after others : List Migration} {m : Migration} {e : DataError}
    (hall : AllContained (common ++ m :: after)) (h : Behind (common ++ m :: after) db v)
    (herror : (runOn (common ++ m :: after) ⟨db, none⟩).error = some (.failed e))
    (hversion : (runOn (common ++ m :: after) ⟨db, none⟩).database.version = common.length)
    (hnumbered : Numbered 0 (common ++ others)) :
    (runOn (common ++ others) (runOn (common ++ m :: after) ⟨db, none⟩).connection).ends =
      (runOn (common ++ others) ⟨db, none⟩).ends := by
  rcases behind_cases h with
    ⟨db', hbring⟩ | ⟨common', m', after', db', e', hsplit, hv, hbring, hfail⟩
  -- a run without an error has not stopped
  · have hends : (runOn (common ++ m :: after) ⟨db, none⟩).error = none :=
      congrArg Prod.snd (run_through hall h hbring)
    rw [hends] at herror
    cases herror
  · have hends : (runOn (common ++ m :: after) ⟨db, none⟩).connection = ⟨db', none⟩ := by
      rw [hsplit] at h hall ⊢
      exact congrArg Prod.fst (run_stopped hall h hv hbring hfail)
    have hlast : db'.version = common'.length := by
      rw [hsplit] at h
      exact behind_version (behind_left h hv) hbring
    -- the version that is reached tells where the run has stopped
    have hlength : common.length = common'.length := by
      rw [Outcome.database, hends] at hversion
      have hsame : (common.length : Int) = common'.length := hversion.symm.trans hlast
      omega
    obtain ⟨rfl, -⟩ := List.append_inj hsplit hlength
    have hbehind : Behind (common ++ others) db v :=
      ⟨hnumbered, h.version, by rw [List.length_append]; omega⟩
    rw [hends, run_resumed (List.forall_mem_append.1 hall).1 hbehind hv hbring]

end

/-- Runs are all or nothing for each migration, and go on where they have stopped, if the
statements leave the transactions to the migrations. -/
theorem run_resumable (migrations : List Migration) (c : Connection) (h : c.working = none) :
    Resumable migrations c := by
  obtain ⟨db, working⟩ := c
  cases h
  constructor
  case gap => exact fun hgap => run_gap hgap _
  case newer => exact run_newer
  case applied =>
    intro hall v hbehind
    rcases behind_cases hbehind with
      ⟨db', hbring⟩ | ⟨common, m, after, db', e, rfl, hv, hbring, hfail⟩
    · exact .inl ⟨db', hbring, behind_version hbehind hbring, run_through hall hbehind hbring⟩
    · exact .inr ⟨common, m, after, db', e, rfl, hv, hbring, hfail,
        behind_version (behind_left hbehind hv) hbring, run_stopped hall hbehind hv hbring hfail⟩
  case grown =>
    exact fun v first hall hnumbered hinit hbehind => run_grown hall hnumbered hinit hbehind
  case again =>
    exact fun hall v hbehind => run_grown hall hbehind.numbered (List.prefix_refl _) hbehind
  case repaired =>
    intro hall v common m after others e hsplit hbehind herror hversion hnumbered
    subst hsplit
    exact run_repaired hall hbehind herror hversion hnumbered

def faulty : List Migration :=
  [⟨1, "first table", [.createTable "a"]⟩, ⟨2, "second table", [.createTable "b", .addRow "c"]⟩]

theorem faulty_resumable :
    ({} : Connection).working = none ∧ AllContained faulty ∧ Behind faulty {} 0 ∧
      (runOn faulty {}).ends =
        (⟨{ version := 1, tables := [("a", .plain 0)] }, none⟩, some (.failed (.noTable "c"))) ∧
      AllOrNothing faulty {} 0 ∧ Resumable faulty {} := by
  have hresumable : Resumable faulty {} := run_resumable faulty {} rfl
  have hall : AllContained faulty := plain_all_contained rfl
  have hbehind : Behind faulty {} 0 := ⟨(count_up_iff 0 faulty).1 (by decide), rfl, by decide⟩
  exact ⟨rfl, hall, hbehind, by decide +kernel, hresumable.applied hall 0 hbehind, hresumable⟩

def uncontained : List Migration :=
  [⟨1, "first table", [.createTable "a", .commit, .addRow "b"]⟩]

/-- The table stays, and what the run fails with is that there is nothing to roll back. -/
theorem uncontained_kept :
    (runOn uncontained {}).ends =
        (⟨{ tables := [("a", .plain 0)] }, none⟩,
          some (.failed (.noTransaction "rollback"))) ∧
      ¬ ∀ (migrations : List Migration) (db : Database) (v : Nat), Behind migrations db v →
        AllOrNothing migrations db v := by
  have hends : (runOn uncontained {}).ends =
      (⟨{ tables := [("a", .plain 0)] }, none⟩,
        some (.failed (.noTransaction "rollback"))) := by decide +kernel
  refine ⟨hends, fun h => ?_⟩
  have hbehind : Behind uncontained {} 0 :=
    ⟨(count_up_iff 0 uncontained).1 (by decide), rfl, by decide⟩
  rcases h uncontained {} 0 hbehind with
    ⟨db, -, -, hthrough⟩ | ⟨common, m, after, db, e, hsplit, -, hbring, -, -, hstopped⟩
  · rw [hends] at hthrough
    cases hthrough
  -- the first migration is the one that stops the run, so nothing should have been changed
  · obtain rfl : common = [] := by
      have hlength := congrArg List.length hsplit
      rw [List.length_append, List.length_cons, uncontained, List.length_singleton] at hlength
      exact List.length_eq_zero_iff.1 (by omega)
    cases hbring
    rw [hends] at hstopped
    cases hstopped

end Migration

end FileSearch.History
