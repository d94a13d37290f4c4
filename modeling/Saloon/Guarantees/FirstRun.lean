import Mathlib.Data.Fintype.EquivFin
import Saloon.Guarantees.Privileges
import Saloon.Source.Connection

/-!
# The first run

What the first requests on a missing file make of it. Those that find no file race
for it: all of them create the tables, and the one that inserts the users goes on
to the end, since the others fail on the user names. What goes wrong is that a
request finds the file before it is built, and takes it for built; that the one
that builds it fails or dies, and nobody builds on what it left behind; and that
the four seeded accounts are renamed before a late one inserts them again.
-/
namespace Saloon.Guarantees

open Lib Source

abbrev Visits : Type := System Nat Visit.Phase (Option DbFile)

/-- The file has all its tables, seeded once, and since then only requests wrote to it. -/
def Seeded (php : Platform) (file : Option DbFile) : Prop :=
  ∃ hash clock events, file = some (afterRun php hash clock events).file

/-- Some continuation without another failure has a seeded database. -/
def Recovers (php : Platform) (visits : Nat → Visit) (s : Visits) : Prop :=
  ∃ later : List Visit.Move, (∀ m ∈ later, m.2 = .proceeds) ∧
    Seeded php (run (Visit.move php visits) s later).shared

/-- Whoever has a connection sees a seeded database, and there will be one. -/
structure FirstRunSound (php : Platform) (visits : Nat → Visit) (s : Visits) : Prop where
  sees : ∀ i, s.locals i = .handed → Seeded php s.shared
  recovers : Recovers php visits s

/-- The request has not come to the file, or has gone without a connection. -/
def Idle : Visit.Phase → Prop
  | .begun => True
  | .failed _ => True
  | .killed => True
  | _ => False

/-- The request found no file, and is not done with it. -/
def FoundNone : Visit.Phase → Prop
  | .tested isNew => isNew = true
  | .opened isNew => isNew = true
  | .initialising _ => True
  | _ => False

/-- The request found no file, and has created so many tables at most. -/
def Racing (tables : Nat) : Visit.Phase → Prop
  | .tested isNew => isNew = true
  | .opened isNew => isNew = true
  | .initialising k => k ≤ tables
  | _ => False

/-- The request has inserted the users, and has seed data left to insert. -/
def Leading : Visit.Phase → Prop
  | .initialising k => 10 < k ∧ k < 17
  | _ => False

/-- The request has not come to the file, or has found none, and made none. -/
def Waiting (phase : Visit.Phase) : Prop := Idle phase ∨ phase = .tested true

/-- The request has no part in the file, or has created so many tables at most. -/
def Behind (tables : Nat) (phase : Visit.Phase) : Prop := Idle phase ∨ Racing tables phase

/-- The last INSERT of the seed data is committed. -/
def Finished (file : Option DbFile) : Prop :=
  ∃ f t, file = some f ∧ f.cashReconciliation = some t ∧ t.rows ≠ []

/-- The three things that must not happen on the first run. -/
structure Calm (m : Visit.Move) (s : Visits) : Prop where
  /-- nobody finds the file before its seed data are in -/
  finds : s.locals m.1 = .begun → m.2 = .proceeds → s.shared = none ∨ Finished s.shared
  /-- a failure before that leaves someone to go on: not the one that has inserted the users,
  nor the last of those that found no file -/
  survives : FoundNone (s.locals m.1) → m.2 ≠ .proceeds → s.shared = none ∨ Finished s.shared ∨
    ¬ Leading (s.locals m.1) ∧ ∃ j, j ≠ m.1 ∧ FoundNone (s.locals j)
  /-- nobody comes to insert the users once all seeded accounts are renamed -/
  named : s.locals m.1 = .initialising 10 → m.2 = .proceeds →
    ∀ db : Db, s.shared = some db.file → db.users.rows ≠ [] → DbFile.Taken db

/-- How far the first run has come: there is no file, its tables are being created by any
number of requests, one of them is inserting the seed data, or it is built. -/
inductive Progress (php : Platform) (visits : Nat → Visit) (s : Visits) : Prop
  | missing (file : s.shared = none) (others : ∀ j, Waiting (s.locals j))
  | racing (n : Nat) (bound : n ≤ 10) (file : s.shared = some (.schema n))
      (others : ∀ j, Behind n (s.locals j)) (alive : ∃ j, Racing n (s.locals j))
  | leading (i k : Nat) (f : DbFile) (lead : 10 < k) (before : k < 17)
      (own : s.locals i = .initialising k) (file : s.shared = some f)
      (built : f.BuiltUpTo (visits i).hash (visits i).event.clock k)
      (others : ∀ j, j ≠ i → Behind 10 (s.locals j))
  | ready (file : Seeded php s.shared) (done : ∀ j, ¬ Leading (s.locals j))

section Acts

variable {php : Platform} {visit : Visit} {phase : Visit.Phase} {file : Option DbFile} {n k : Nat}

theorem Racing.mono {m : Nat} (racing : Racing n phase) (le : n ≤ m) : Racing m phase := by
  cases phase with
  | initialising k => exact Nat.le_trans racing le
  | tested | opened | begun | handed | served | failed | killed => exact racing

theorem Behind.mono {m : Nat} (behind : Behind n phase) (le : n ≤ m) : Behind m phase :=
  behind.imp_right fun racing => racing.mono le

theorem Racing.foundNone (racing : Racing n phase) : FoundNone phase := by
  cases phase with
  | initialising => trivial
  | tested | opened | begun | handed | served | failed | killed => exact racing

theorem not_foundNone_of_idle (idle : Idle phase) : ¬ FoundNone phase := by
  cases phase with
  | begun | failed | killed => exact id
  | tested | opened | initialising | handed | served => exact absurd idle id

theorem Behind.not_leading (behind : Behind 10 phase) : ¬ Leading phase := by
  cases phase with
  | initialising k =>
    rintro ⟨lead, -⟩
    exact Nat.not_le.mpr lead (behind.resolve_left id)
  | tested | opened | begun | handed | served | failed | killed => exact id

theorem not_finished_schema : ¬ Finished (some (.schema n)) := by
  rintro ⟨f, t, same, drawer, rows⟩
  cases same
  rw [DbFile.schema] at drawer
  dsimp only at drawer
  split at drawer
  · cases drawer
    exact rows rfl
  · cases drawer

/-- An idle request stays so and leaves the file, unless it asks for it. -/
theorem act_idle (php : Platform) (visit : Visit) (fate : Visit.Fate) (file : Option DbFile)
    (idle : Idle phase) :
    (visit.act php fate phase file).2 = file ∧
      (Idle (visit.act php fate phase file).1 ∨
        phase = .begun ∧ fate = .proceeds ∧
          (visit.act php fate phase file).1 = .tested file.isNone) := by
  cases phase with
  | begun =>
    cases fate with
    | proceeds => exact ⟨rfl, .inr ⟨rfl, rfl, rfl⟩⟩
    | throws | dies => exact ⟨rfl, .inl trivial⟩
  | failed | killed => cases fate <;> exact ⟨rfl, .inl trivial⟩
  | tested | opened | initialising | handed | served => exact absurd idle id

/-- A request that found no file ends with a failure from outside, and leaves the file. -/
theorem act_fails {fate : Visit.Fate} (php : Platform) (visit : Visit) (file : Option DbFile)
    (found : FoundNone phase) (failure : fate ≠ .proceeds) :
    Idle (visit.act php fate phase file).1 ∧ (visit.act php fate phase file).2 = file := by
  cases fate with
  | proceeds => exact absurd rfl failure
  | throws | dies =>
    cases phase with
    | tested | opened | initialising => exact ⟨trivial, rfl⟩
    | begun | handed | served | failed | killed => exact absurd found id

/-- The step of a statement that does not throw. -/
theorem act_statement {statement : DbFile → Except Thrown DbFile} {f after : DbFile}
    (php : Platform) (visit : Visit)
    (present : (DbFile.createTables visit.hash visit.event.clock)[k]? = some statement)
    (done : statement f = .ok after) :
    visit.act php .proceeds (.initialising k) (some f) = (.initialising (k + 1), some after) := by
  rw [Visit.act, Visit.proceed, present]
  dsimp only
  rw [Option.getD_some, done]

/-- A statement that throws ends the request. -/
theorem act_refused {statement : DbFile → Except Thrown DbFile} {f : DbFile} {message : String}
    (php : Platform) (visit : Visit)
    (present : (DbFile.createTables visit.hash visit.event.clock)[k]? = some statement)
    (thrown : statement f = .error (.exception message)) :
    visit.act php .proceeds (.initialising k) (some f) =
      (Visit.connectionFailed message, some f) := by
  rw [Visit.act, Visit.proceed, present]
  dsimp only
  rw [Option.getD_some, thrown]

/-- On what the statements so far have made, the next one succeeds. -/
theorem act_next {f : DbFile} (php : Platform) (visit : Visit)
    (built : f.BuiltUpTo visit.hash visit.event.clock k) (before : k < 17) :
    ∃ after, visit.act php .proceeds (.initialising k) (some f) =
        (.initialising (k + 1), some after) ∧
      after.BuiltUpTo visit.hash visit.event.clock (k + 1) := by
  obtain ⟨statement, present⟩ := DbFile.exists_statement visit.hash visit.event.clock before
  obtain ⟨after, done, next⟩ := built.next present
  exact ⟨after, act_statement php visit present done, next⟩

theorem seeded_of_builtUpTo {f : DbFile} (built : f.BuiltUpTo visit.hash visit.event.clock k)
    (past : 17 ≤ k) : Seeded php (some f) := by
  refine ⟨visit.hash, visit.event.clock, [], ?_⟩
  rw [built.finished (List.getElem?_eq_none_iff.mpr past)]
  rfl

/-- A request that creates a table which another has created goes on to the next. -/
theorem act_again (php : Platform) (visit : Visit) (bound : n ≤ 10) (created : k < n) :
    visit.act php .proceeds (.initialising k) (some (.schema n)) =
      (.initialising (k + 1), some (.schema n)) := by
  obtain ⟨statement, present⟩ := DbFile.exists_statement visit.hash visit.event.clock
    (created.trans_le (bound.trans (by decide)))
  exact act_statement php visit present (DbFile.schema_again bound created present)

/-- A request that found no file goes on with what the furthest of them has made, or takes the
lead. -/
theorem act_racing (php : Platform) (visit : Visit) (bound : n ≤ 10) (racing : Racing n phase) :
    (visit.act php .proceeds phase (some (.schema n))).2 = some (.schema n) ∧
      Racing n (visit.act php .proceeds phase (some (.schema n))).1 ∨
    ∃ after, visit.act php .proceeds phase (some (.schema n)) =
        (.initialising (n + 1), some after) ∧
      after.BuiltUpTo visit.hash visit.event.clock (n + 1) := by
  cases phase with
  | tested isNew => exact .inl ⟨rfl, racing⟩
  | opened isNew =>
    obtain rfl : isNew = true := racing
    exact .inl ⟨rfl, Nat.zero_le _⟩
  | initialising k =>
    rcases Nat.lt_or_eq_of_le (show k ≤ n from racing) with behind | rfl
    · rw [act_again php visit bound behind]
      exact .inl ⟨rfl, Nat.succ_le_of_lt behind⟩
    · exact .inr (act_next php visit (DbFile.builtUpTo_schema bound)
        (bound.trans_lt (by decide)))
  | begun | handed | served | failed | killed => exact absurd racing id

/-- Once the users are there, a late request creates nothing and fails to insert them. -/
theorem act_taken {db : Db} (php : Platform) (visit : Visit) (fate : Visit.Fate)
    (racing : Racing 10 phase)
    (taken : phase = .initialising 10 → fate = .proceeds → DbFile.Taken db) :
    (visit.act php fate phase (some db.file)).2 = some db.file ∧
      Behind 10 (visit.act php fate phase (some db.file)).1 := by
  by_cases proceeds : fate = .proceeds
  · subst proceeds
    cases phase with
    | tested isNew => exact ⟨rfl, .inr racing⟩
    | opened isNew =>
      obtain rfl : isNew = true := racing
      exact ⟨rfl, .inr (Nat.zero_le _)⟩
    | initialising k =>
      have bound : k ≤ 10 := racing
      rcases bound.lt_or_eq with creates | rfl
      · obtain ⟨statement, present⟩ := DbFile.exists_statement visit.hash visit.event.clock
          (creates.trans (by decide))
        rw [act_statement php visit present (DbFile.file_again db creates present)]
        exact ⟨rfl, .inr creates⟩
      · rw [act_refused php visit rfl (DbFile.insertUsers_taken (taken rfl rfl))]
        exact ⟨rfl, .inl trivial⟩
    | begun | handed | served | failed | killed => exact absurd racing id
  · obtain ⟨idle, same⟩ := act_fails php visit (some db.file) racing.foundNone proceeds
    exact ⟨same, .inl idle⟩

/-- The seeded users are never deleted. -/
theorem afterRun_users (php : Platform) (hash : String → String) (clock : Clock)
    (events : List Event) : (afterRun php hash clock events).users.rows ≠ [] := by
  refine afterRun_keeps (P := fun db => db.users.rows ≠ []) (fun _ _ => List.cons_ne_nil _ _)
    (fun _ _ _ _ served some none => ?_) hash clock events
  obtain ⟨u, member⟩ := List.exists_mem_of_ne_nil _ some
  obtain ⟨v, kept, -⟩ := served.writes.roles u member
  rw [none] at kept
  cases kept

/-- A built file stays built. -/
theorem act_ready (visit : Visit) (fate : Visit.Fate) (done : ¬ Leading phase)
    (seeded : Seeded php file)
    (named : phase = .initialising 10 → fate = .proceeds →
      ∀ db : Db, file = some db.file → db.users.rows ≠ [] → DbFile.Taken db) :
    ¬ Leading (visit.act php fate phase file).1 ∧
      Seeded php (visit.act php fate phase file).2 := by
  obtain ⟨hash, clock, events, rfl⟩ := seeded
  have racing (late : Racing 10 phase) :
      ¬ Leading (visit.act php fate phase (some (afterRun php hash clock events).file)).1 ∧
        Seeded php (visit.act php fate phase (some (afterRun php hash clock events).file)).2 := by
    obtain ⟨same, behind⟩ := act_taken php visit fate late fun last proceeds =>
      named last proceeds _ rfl (afterRun_users php hash clock events)
    exact ⟨behind.not_leading, hash, clock, events, same⟩
  have stays : Seeded php (some (afterRun php hash clock events).file) := ⟨hash, clock, events, rfl⟩
  cases phase with
  | begun | served | failed | killed => cases fate <;> exact ⟨id, stays⟩
  | tested isNew =>
    cases isNew with
    | true => exact racing rfl
    | false => cases fate <;> exact ⟨id, stays⟩
  | opened isNew =>
    cases isNew with
    | true => exact racing rfl
    | false => cases fate <;> exact ⟨id, stays⟩
  | initialising k =>
    by_cases late : k ≤ 10
    · exact racing late
    · have past : (DbFile.createTables visit.hash visit.event.clock)[k]? = none :=
        List.getElem?_eq_none_iff.mpr
          (Nat.not_lt.mp fun before => done ⟨Nat.not_le.mp late, before⟩)
      cases fate with
      | proceeds =>
        rw [Visit.act, Visit.proceed, past]
        exact ⟨id, stays⟩
      | throws | dies => exact ⟨id, stays⟩
  | handed =>
    cases fate with
    | proceeds =>
      refine ⟨id, hash, clock, events ++ [visit.event], ?_⟩
      rw [afterRun_snoc]
      rfl
    | throws | dies => exact ⟨id, stays⟩

/-- Nobody who takes an empty file for built gives it a table. -/
theorem act_empty (php : Platform) (visit : Visit) (fate : Visit.Fate) (done : ¬ FoundNone phase) :
    (visit.act php fate phase (some .empty)).2 = some .empty ∧
      ¬ FoundNone (visit.act php fate phase (some .empty)).1 := by
  cases phase with
  | begun => cases fate <;> exact ⟨rfl, by rintro ⟨⟩⟩
  | tested isNew | opened isNew =>
    obtain rfl : isNew = false := Bool.eq_false_iff.mpr done
    cases fate <;> exact ⟨rfl, by rintro ⟨⟩⟩
  | initialising => exact absurd trivial done
  | handed | served | failed | killed => cases fate <;> exact ⟨rfl, id⟩

end Acts

section Steps

variable {php : Platform} {visits : Nat → Visit} {s : Visits} {m : Visit.Move}

theorem move_shared : (Visit.move php visits m s).shared =
    ((visits m.1).act php m.2 (s.locals m.1) s.shared).2 := System.step_shared

theorem move_self : (Visit.move php visits m s).locals m.1 =
    ((visits m.1).act php m.2 (s.locals m.1) s.shared).1 := System.step_self

theorem move_other {j : Nat} (other : j ≠ m.1) :
    (Visit.move php visits m s).locals j = s.locals j := System.step_other other

/-- Where all requests are, after a step of one. -/
theorem locals_move {P : Visit.Phase → Prop}
    (self : P ((visits m.1).act php m.2 (s.locals m.1) s.shared).1)
    (others : ∀ j, j ≠ m.1 → P (s.locals j)) (j : Nat) :
    P ((Visit.move php visits m s).locals j) := by
  by_cases same : j = m.1
  · rw [same, move_self]
    exact self
  · rw [move_other same]
    exact others j same

/-- A request may go on while there is no file. -/
theorem Calm.of_missing (file : s.shared = none) (proceeds : m.2 = .proceeds)
    (early : s.locals m.1 ≠ .initialising 10) : Calm m s where
  finds _ _ := .inl file
  survives _ failure := absurd proceeds failure
  named inserts := absurd inserts early

/-- What is to be told of a step that leaves the file as it is. -/
theorem shared_kept {file : Option DbFile} (before : s.shared = file)
    (same : ((visits m.1).act php m.2 (s.locals m.1) s.shared).2 = s.shared) :
    (Visit.move php visits m s).shared = file := move_shared.trans (same.trans before)

/-- Without a file, a request asks for it, or makes it. -/
theorem progress_missing (file : s.shared = none)
    (others : ∀ j, Waiting (s.locals j)) :
    Progress php visits (Visit.move php visits m s) := by
  rcases others m.1 with idle | tested
  · obtain ⟨same, stays⟩ := act_idle php (visits m.1) m.2 s.shared idle
    refine .missing (shared_kept file same) (locals_move (P := Waiting) ?_ fun j _ => others j)
    rcases stays with stays | ⟨-, -, asks⟩
    · exact .inl stays
    · rw [asks, file]
      exact .inr rfl
  · by_cases proceeds : m.2 = .proceeds
    · have acts : (visits m.1).act php m.2 (s.locals m.1) s.shared =
          (.opened true, some (.schema 0)) := by
        rw [proceeds, tested, file]
        rfl
      refine .racing 0 (Nat.zero_le _) (by rw [move_shared, acts]) 
        (locals_move (P := Behind 0) ?_ fun j _ => ?_) ⟨m.1, ?_⟩
      · rw [acts]
        exact .inr rfl
      · rcases others j with idle | tested
        · exact .inl idle
        · rw [tested]
          exact .inr rfl
      · rw [move_self, acts]
        exact rfl
    · have found : FoundNone (s.locals m.1) := by
        rw [tested]
        exact rfl
      obtain ⟨idle, same⟩ := act_fails php (visits m.1) s.shared found proceeds
      exact .missing (shared_kept file same)
        (locals_move (P := Waiting) (.inl idle) fun j _ => others j)

/-- While the file is unfinished, whoever has not come to it keeps away. -/
theorem Calm.keeps_away (calm : Calm m s) (present : s.shared ≠ none)
    (unfinished : ¬ Finished s.shared) (idle : Idle (s.locals m.1)) :
    ((visits m.1).act php m.2 (s.locals m.1) s.shared).2 = s.shared ∧
      Idle ((visits m.1).act php m.2 (s.locals m.1) s.shared).1 := by
  obtain ⟨same, stays | ⟨begun, proceeds, -⟩⟩ := act_idle php (visits m.1) m.2 s.shared idle
  · exact ⟨same, stays⟩
  · exact absurd ((calm.finds begun proceeds).resolve_left present) unfinished

/-- While the file is unfinished, a failure leaves someone to go on. -/
theorem Calm.spares (calm : Calm m s) (present : s.shared ≠ none)
    (unfinished : ¬ Finished s.shared) (found : FoundNone (s.locals m.1))
    (failure : m.2 ≠ .proceeds) :
    ¬ Leading (s.locals m.1) ∧ ∃ j, j ≠ m.1 ∧ FoundNone (s.locals j) :=
  ((calm.survives found failure).resolve_left present).resolve_left unfinished

/-- While the tables are being created, those that found no file create them in turn. -/
theorem progress_racing (calm : Calm m s) {n : Nat} (bound : n ≤ 10)
    (file : s.shared = some (.schema n)) (others : ∀ j, Behind n (s.locals j))
    (alive : ∃ j, Racing n (s.locals j)) :
    Progress php visits (Visit.move php visits m s) := by
  have present : s.shared ≠ none := by simp [file]
  have unfinished : ¬ Finished s.shared := file ▸ not_finished_schema
  rcases others m.1 with idle | racing
  · obtain ⟨same, stays⟩ := calm.keeps_away present unfinished idle
    obtain ⟨j, racing⟩ := alive
    have other : j ≠ m.1 := by
      rintro rfl
      exact not_foundNone_of_idle idle racing.foundNone
    exact .racing n bound (shared_kept file same)
      (locals_move (P := Behind n) (.inl stays) fun j _ => others j)
      ⟨j, by rwa [move_other other]⟩
  · by_cases proceeds : m.2 = .proceeds
    · have acts := act_racing php (visits m.1) bound racing
      rw [← proceeds, ← file] at acts
      rcases acts with ⟨same, stays⟩ | ⟨after, creates, built⟩
      · exact .racing n bound (shared_kept file same)
          (locals_move (P := Behind n) (.inr stays) fun j _ => others j)
          ⟨m.1, by rw [move_self]; exact stays⟩
      · rcases bound.lt_or_eq with more | rfl
        · cases built.symm.trans (DbFile.builtUpTo_schema (Nat.succ_le_of_lt more))
          refine .racing (n + 1) more (by rw [move_shared, creates])
            (locals_move (P := Behind (n + 1)) ?_ fun j _ => (others j).mono (Nat.le_succ n))
            ⟨m.1, ?_⟩
          · rw [creates]
            exact .inr (Nat.le_refl _)
          · rw [move_self, creates]
            exact Nat.le_refl _
        · refine .leading m.1 11 after (by decide) (by decide) (by rw [move_self, creates])
            (by rw [move_shared, creates]) built fun j other => ?_
          rw [move_other other]
          exact others j
    · obtain ⟨idle, same⟩ := act_fails php (visits m.1) s.shared racing.foundNone proceeds
      obtain ⟨-, j, other, found⟩ := calm.spares present unfinished racing.foundNone proceeds
      have runs := (others j).resolve_left fun idle => not_foundNone_of_idle idle found
      exact .racing n bound (shared_kept file same)
        (locals_move (P := Behind n) (.inl idle) fun j _ => others j)
        ⟨j, by rwa [move_other other]⟩

/-- The request that inserts the seed data takes the next statement. -/
theorem progress_own {k : Nat} {f : DbFile} (lead : 10 < k) (before : k < 17)
    (own : s.locals m.1 = .initialising k) (proceeds : m.2 = .proceeds) (file : s.shared = some f)
    (built : f.BuiltUpTo (visits m.1).hash (visits m.1).event.clock k)
    (others : ∀ j, j ≠ m.1 → Behind 10 (s.locals j)) :
    Progress php visits (Visit.move php visits m s) := by
  obtain ⟨after, acts, next⟩ := act_next php (visits m.1) built before
  rw [← proceeds, ← own, ← file] at acts
  rcases (Nat.succ_le_of_lt before).lt_or_eq with more | last
  · refine .leading m.1 (k + 1) after (lead.trans (Nat.lt_succ_self k)) more
      (by rw [move_self, acts]) (by rw [move_shared, acts]) next fun j other => ?_
    rw [move_other other]
    exact others j other
  · refine .ready ?_ (locals_move (P := fun phase => ¬ Leading phase) ?_ fun j other =>
      (others j other).not_leading)
    · rw [move_shared, acts]
      exact seeded_of_builtUpTo next last.ge
    · rw [acts]
      exact fun again => again.2.ne last

/-- Those behind it fail on the users. -/
theorem progress_leading (calm : Calm m s) {i k : Nat} {f : DbFile} (lead : 10 < k)
    (before : k < 17) (own : s.locals i = .initialising k) (file : s.shared = some f)
    (built : f.BuiltUpTo (visits i).hash (visits i).event.clock k)
    (others : ∀ j, j ≠ i → Behind 10 (s.locals j)) :
    Progress php visits (Visit.move php visits m s) := by
  obtain ⟨db, rfl, users, drawer⟩ := built.leading lead before
  have present : s.shared ≠ none := by simp [file]
  have unfinished : ¬ Finished s.shared := by
    rintro ⟨f, t, same, rows, some⟩
    rw [file] at same
    cases same
    cases rows
    exact some (congrArg Table.rows drawer)
  by_cases mine : i = m.1
  · subst mine
    by_cases proceeds : m.2 = .proceeds
    · exact progress_own lead before own proceeds file built others
    · have found : FoundNone (s.locals m.1) := by
        rw [own]
        trivial
      refine absurd ?_ (calm.spares present unfinished found proceeds).1
      rw [own]
      exact ⟨lead, before⟩
  · have moved : ((visits m.1).act php m.2 (s.locals m.1) s.shared).2 = s.shared ∧
        Behind 10 ((visits m.1).act php m.2 (s.locals m.1) s.shared).1 := by
      rcases others m.1 (Ne.symm mine) with idle | racing
      · exact (calm.keeps_away present unfinished idle).imp_right .inl
      · have taken : DbFile.Taken db := by
          rw [DbFile.Taken, users]
          exact ⟨_, List.mem_cons_self, List.mem_cons_self⟩
        rw [file]
        exact act_taken php (visits m.1) m.2 racing fun _ _ => taken
    refine .leading i k db.file lead before (by rwa [move_other mine])
      (shared_kept file moved.1) built fun j different => ?_
    by_cases moves : j = m.1
    · rw [moves, move_self]
      exact moved.2
    · rw [move_other moves]
      exact others j different

theorem progress_move (calm : Calm m s) (progress : Progress php visits s) :
    Progress php visits (Visit.move php visits m s) := by
  cases progress with
  | missing file others => exact progress_missing file others
  | racing n bound file others alive => exact progress_racing calm bound file others alive
  | leading i k f lead before own file built others =>
    exact progress_leading calm lead before own file built others
  | ready file done =>
    have next := act_ready (visits m.1) m.2 (done m.1) file calm.named
    exact .ready (by rw [move_shared]; exact next.2) 
      (locals_move (P := fun phase => ¬ Leading phase) next.1 fun j _ => done j)

end Steps

section Recovery

variable {php : Platform} {visits : Nat → Visit} {s : Visits} {i k n : Nat}

theorem recovers_of_seeded (seeded : Seeded php s.shared) : Recovers php visits s :=
  ⟨[], by simp, seeded⟩

/-- One step of a request, and what can be done from there. -/
theorem recovers_of_act {phase : Visit.Phase} {file : Option DbFile}
    (acts : (visits i).act php .proceeds (s.locals i) s.shared = (phase, file))
    (rest : ∀ t : Visits, t.locals i = phase → t.shared = file → Recovers php visits t) :
    Recovers php visits s := by
  let m : Visit.Move := (i, .proceeds)
  have self : (Visit.move php visits m s).locals i = phase :=
    (move_self (m := m)).trans (congrArg Prod.fst acts)
  have shared : (Visit.move php visits m s).shared = file :=
    (move_shared (m := m)).trans (congrArg Prod.snd acts)
  obtain ⟨later, proceed, seeded⟩ := rest _ self shared
  refine ⟨m :: later, fun next member => ?_, seeded⟩
  rcases List.mem_cons.mp member with rfl | follows
  · rfl
  · exact proceed next follows

/-- Alone, a request that is ahead of all others comes to the end of its statements. -/
theorem recovers_of_built {f : DbFile} (enough : 17 ≤ k + n) (own : s.locals i = .initialising k)
    (file : s.shared = some f)
    (built : f.BuiltUpTo (visits i).hash (visits i).event.clock k) : Recovers php visits s := by
  induction n generalizing s k f with
  | zero => exact recovers_of_seeded (file ▸ seeded_of_builtUpTo built enough)
  | succ n ih =>
    rcases Nat.lt_or_ge k 17 with before | past
    · obtain ⟨after, commits, next⟩ := act_next php (visits i) built before
      rw [← own, ← file] at commits
      exact recovers_of_act commits fun t self shared => ih (by omega) self shared next
    · exact recovers_of_seeded (file ▸ seeded_of_builtUpTo built past)

/-- Alone, a request that is behind catches up with the others. -/
theorem recovers_of_creating (bound : k + n ≤ 10) (own : s.locals i = .initialising k)
    (file : s.shared = some (.schema (k + n))) : Recovers php visits s := by
  induction n generalizing s k with
  | zero =>
    exact recovers_of_built (Nat.le_add_left _ _) own file (DbFile.builtUpTo_schema bound)
  | succ n ih =>
    have acts := act_again php (visits i) bound (Nat.lt_add_of_pos_right (Nat.succ_pos n))
    rw [← own, ← file] at acts
    refine recovers_of_act acts fun t self shared => ih (by omega) self ?_
    rw [shared, file, Nat.add_right_comm, Nat.add_assoc]

/-- Alone, a request that has opened a new file creates its tables. -/
theorem recovers_of_opened (bound : n ≤ 10) (own : s.locals i = .opened true)
    (file : s.shared = some (.schema n)) : Recovers php visits s := by
  have acts : (visits i).act php .proceeds (s.locals i) s.shared =
      (.initialising 0, some (.schema n)) := by
    rw [own, file]
    rfl
  refine recovers_of_act acts fun t self shared => recovers_of_creating (n := n) ?_ self ?_
  · rwa [Nat.zero_add]
  · rwa [Nat.zero_add]

theorem recovers_of_racing (bound : n ≤ 10) (racing : Racing n (s.locals i))
    (file : s.shared = some (.schema n)) : Recovers php visits s := by
  cases own : s.locals i with
  | tested isNew =>
    rw [own] at racing
    obtain rfl : isNew = true := racing
    have acts : (visits i).act php .proceeds (s.locals i) s.shared =
        (.opened true, some (.schema n)) := by
      rw [own, file]
      rfl
    exact recovers_of_act acts fun _ => recovers_of_opened bound
  | opened isNew =>
    rw [own] at racing
    obtain rfl : isNew = true := racing
    exact recovers_of_opened bound own file
  | initialising k =>
    rw [own] at racing
    obtain ⟨more, rfl⟩ := Nat.exists_eq_add_of_le (show k ≤ n from racing)
    exact recovers_of_creating bound own file
  | begun | handed | served | failed | killed =>
    rw [own] at racing
    exact absurd racing id

/-- A request that comes to no file makes it. -/
theorem recovers_of_begun (own : s.locals i = .begun) (file : s.shared = none) :
    Recovers php visits s := by
  have asks : (visits i).act php .proceeds (s.locals i) s.shared = (.tested true, none) := by
    rw [own, file]
    rfl
  refine recovers_of_act asks fun t tested missing => ?_
  have opens : (visits i).act php .proceeds (t.locals i) t.shared =
      (.opened true, some (.schema 0)) := by
    rw [tested, missing]
    rfl
  exact recovers_of_act opens fun _ => recovers_of_opened (Nat.zero_le _)

/-- A request that has not moved is where it was. -/
theorem run_untouched {schedule : List Visit.Move} (untouched : ∀ m ∈ schedule, i ≠ m.1) :
    (run (Visit.move php visits) s schedule).locals i = s.locals i := by
  induction schedule generalizing s with
  | nil => rfl
  | cons m schedule ih =>
    rw [run_cons, ih fun n member => untouched n (by simp [member]),
      move_other (untouched m (by simp))]

theorem exists_begun (schedule : List Visit.Move) :
    ∃ i, (run (Visit.move php visits) Visit.firstRun schedule).locals i = .begun := by
  obtain ⟨i, fresh⟩ := Infinite.exists_notMem_finset (schedule.map Prod.fst).toFinset
  refine ⟨i, (run_untouched fun m member same => fresh ?_).trans rfl⟩
  rw [List.mem_toFinset, same]
  exact List.mem_map_of_mem member

/-- Nobody has a connection before the file is built. -/
theorem not_handed_of_behind {phase : Visit.Phase} (behind : Behind n phase) :
    phase ≠ .handed := by
  rintro rfl
  rcases behind with idle | racing
  · exact idle
  · exact racing

theorem Progress.sound (progress : Progress php visits s) (begun : ∃ i, s.locals i = .begun) :
    FirstRunSound php visits s := by
  cases progress with
  | missing file others =>
    obtain ⟨i, own⟩ := begun
    refine ⟨fun j handed => ?_, recovers_of_begun own file⟩
    rcases others j with idle | tested
    · rw [handed] at idle
      exact absurd idle id
    · rw [handed] at tested
      cases tested
  | racing n bound file others alive =>
    obtain ⟨i, racing⟩ := alive
    exact ⟨fun j handed => absurd handed (not_handed_of_behind (others j)),
      recovers_of_racing bound racing file⟩
  | leading i k f lead before own file built others =>
    refine ⟨fun j handed => ?_, recovers_of_built (Nat.le_add_left _ _) own file built⟩
    by_cases same : j = i
    · rw [same, own] at handed
      cases handed
    · exact absurd handed (not_handed_of_behind (others j same))
  | ready file done => exact ⟨fun _ _ => file, recovers_of_seeded file⟩

end Recovery

/-- Of any number of requests on a missing file, in any order and with any failures: as long
as nobody finds the file before its seed data are in, a failure before that leaves someone to
go on, and no late request comes after the seeded accounts are all renamed, every connection
is to a database seeded once, and there will be one. -/
theorem first_run_sound {php : Platform} {visits : Nat → Visit} {schedule : List Visit.Move}
    (calm : Along (Visit.move php visits) Calm Visit.firstRun schedule) :
    ∀ first, first <+: schedule →
      FirstRunSound php visits (run (Visit.move php visits) Visit.firstRun first) := by
  have start : Progress php visits Visit.firstRun := .missing rfl fun _ => .inl trivial
  intro first before
  have calm' : Along (Visit.move php visits) Calm Visit.firstRun first :=
    along_iff.mpr fun f m within => along_iff.mp calm f m (within.trans before)
  exact (calm'.keeps (fun _ _ calm progress => progress_move calm progress) start).sound
    (exists_begun first)

/-- Any number of requests for the staff list, on the morning of the first run. -/
def visitors : Nat → Visit := fun _ => ⟨adminRequest "staff" "GET" [], fun _ => adminHash⟩

/-- Two requests find no file, and one of them dies. -/
theorem first_run_sound_race :
    FirstRunSound recorded visitors (run (Visit.move recorded visitors) Visit.firstRun
      [(0, .proceeds), (1, .proceeds), (1, .proceeds), (0, .dies)]) := by
  have calm : Along (Visit.move recorded visitors) Calm Visit.firstRun
      [(0, .proceeds), (1, .proceeds), (1, .proceeds), (0, .dies)] := by
    refine ⟨.of_missing rfl rfl (by rintro ⟨⟩), .of_missing rfl rfl (by rintro ⟨⟩),
      .of_missing rfl rfl (by rintro ⟨⟩), ⟨?_, ?_, ?_⟩, trivial⟩
    · rintro ⟨⟩
    · exact fun _ _ => .inr (.inr ⟨id, 1, by decide, rfl⟩)
    · rintro ⟨⟩
  exact first_run_sound calm _ (List.prefix_refl _)

section Broken

variable {php : Platform} {visits : Nat → Visit} {s : Visits}

theorem not_seeded_empty : ¬ Seeded php (some .empty) := by
  rintro ⟨hash, clock, events, same⟩
  cases congrArg (Option.map DbFile.users) same

/-- Once everybody who found no file is gone, an empty file stays empty, whatever comes. -/
theorem run_abandoned (file : s.shared = some .empty) (nobody : ∀ j, ¬ FoundNone (s.locals j))
    (schedule : List Visit.Move) :
    (run (Visit.move php visits) s schedule).shared = some .empty := by
  have one (m : Visit.Move) (t : Visits)
      (before : t.shared = some .empty ∧ ∀ j, ¬ FoundNone (t.locals j)) :
      (Visit.move php visits m t).shared = some .empty ∧
        ∀ j, ¬ FoundNone ((Visit.move php visits m t).locals j) := by
    have acts := act_empty php (visits m.1) m.2 (before.2 m.1)
    rw [← before.1] at acts
    exact ⟨shared_kept before.1 acts.1,
      locals_move (P := fun phase => ¬ FoundNone phase) acts.2 fun j _ => before.2 j⟩
  exact (run_keeps one ⟨file, nobody⟩ schedule).1

theorem not_recovers_of_abandoned (file : s.shared = some .empty)
    (nobody : ∀ j, ¬ FoundNone (s.locals j)) : ¬ Recovers php visits s := by
  rintro ⟨later, -, seeded⟩
  rw [run_abandoned file nobody] at seeded
  exact not_seeded_empty seeded

end Broken

/-- The second request comes while the file of the first is still empty. -/
def earlyVisit : List Visit.Move :=
  [(0, .proceeds), (0, .proceeds), (1, .proceeds), (1, .proceeds), (1, .proceeds)]

/-- The first request dies right after it has made the file. -/
def abandonedVisit : List Visit.Move := [(0, .proceeds), (0, .proceeds), (0, .dies)]

/-- A request is handed the empty file of another, and one that dies leaves it empty for
good. -/
theorem first_run_broken :
    (∃ i, (run (Visit.move recorded visitors) Visit.firstRun earlyVisit).locals i = .handed ∧
      ¬ Seeded recorded (run (Visit.move recorded visitors) Visit.firstRun earlyVisit).shared) ∧
    ¬ Recovers recorded visitors
      (run (Visit.move recorded visitors) Visit.firstRun abandonedVisit) := by
  constructor
  · exact ⟨1, rfl, not_seeded_empty⟩
  · refine not_recovers_of_abandoned rfl fun j => ?_
    cases j with
    | zero => exact id
    | succ j => exact id

end Saloon.Guarantees
