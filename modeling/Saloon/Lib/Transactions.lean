import Mathlib.Data.List.Nodup
import Saloon.Lib.Interleave

/-!
# Transactions on snapshots, with one writer

Connections that each run one transaction, statement by statement, on a store.
A transaction begins deferred: its first statement fixes the snapshot that it
reads. Its first write takes the one write lock, and is refused while another
connection holds it or when the store was committed to since the snapshot. A
commit publishes what the transaction wrote. Whatever the interleaving, what is
committed is the outcome of the transactions that committed, one after the
other in that order.
-/
namespace Saloon.Lib

variable {ι ρ σ : Type}

/-- What a transaction does next, from its place `ρ` in the program. -/
inductive Statement (ρ σ : Type)
  | begin (next : ρ)
  | select (next : σ → ρ)
  /-- a write; where it goes on when the store refuses it -/
  | write (next : σ → ρ × σ) (refused : ρ)
  | commit (next : ρ)
  | rollBack (next : ρ)
  | done

structure Store (ι σ : Type) where
  committed : σ
  /-- the connection that holds the write lock -/
  writer : Option ι
  /-- who committed a write, the first one first -/
  log : List ι

/-- A transaction as its connection sees it. -/
inductive View (σ : Type)
  /-- no statement has run -/
  | deferred
  /-- the snapshot, with the number of commits before it -/
  | reading (since : Nat) (read : σ)
  | writing (written : σ)
  | ended

structure Connection (ρ σ : Type) where
  place : ρ
  view : View σ

namespace View

/-- What a statement reads, and the number of commits that it has seen. -/
def snapshot (s : Store ι σ) : View σ → Nat × σ
  | reading since read => (since, read)
  | writing written => (s.log.length, written)
  | _ => (s.log.length, s.committed)

/-- A read fixes the snapshot. -/
def fix (s : Store ι σ) : View σ → View σ
  | deferred => reading s.log.length s.committed
  | view => view

end View

namespace Connection

/-- A write by the connection that has the lock, or gets it. -/
def applied (i : ι) (next : σ → ρ × σ) (read : σ) (s : Store ι σ) : Connection ρ σ × Store ι σ :=
  (⟨(next read).1, .writing (next read).2⟩, { s with writer := some i })

/-- A write without the lock. While another connection has it, this one waits or gives up. -/
def upgrade (waits : Bool) (i : ι) (next : σ → ρ × σ) (refused : ρ) (c : Connection ρ σ)
    (s : Store ι σ) : Connection ρ σ × Store ι σ :=
  match s.writer with
  | some _ => (if waits then c else { c with place := refused }, s)
  | none =>
    if (c.view.snapshot s).1 = s.log.length then applied i next (c.view.snapshot s).2 s
    else ({ c with place := refused }, s)

/-- A statement of the connection that has the lock. -/
def holding (program : ρ → Statement ρ σ) (i : ι) (written : σ) (c : Connection ρ σ)
    (s : Store ι σ) : Connection ρ σ × Store ι σ :=
  match program c.place with
  | .begin next => ({ c with place := next }, s)
  | .select next => ({ c with place := next written }, s)
  | .write next _ => applied i next written s
  | .commit next => (⟨next, .ended⟩, ⟨written, none, s.log ++ [i]⟩)
  | .rollBack next => (⟨next, .ended⟩, { s with writer := none })
  | .done => (c, s)

/-- A statement of a connection that has written nothing. -/
def waiting (program : ρ → Statement ρ σ) (waits : Bool) (i : ι) (c : Connection ρ σ)
    (s : Store ι σ) : Connection ρ σ × Store ι σ :=
  match program c.place with
  | .begin next => ({ c with place := next }, s)
  | .select next => (⟨next (c.view.snapshot s).2, c.view.fix s⟩, s)
  | .write next refused => upgrade waits i next refused c s
  | .commit next => (⟨next, .ended⟩, s)
  | .rollBack next => (⟨next, .ended⟩, s)
  | .done => (c, s)

/-- The next statement of a connection. -/
def act (program : ρ → Statement ρ σ) (waits : Bool) (i : ι) (c : Connection ρ σ)
    (s : Store ι σ) : Connection ρ σ × Store ι σ :=
  match c.view with
  | .writing written => c.holding program i written s
  | .ended => (c, s)
  | _ => c.waiting program waits i s

end Connection

/-- A place and a view that a transaction reaches on its own from a database, the
refusals of its writes included. -/
inductive Reaches (program : ρ → Statement ρ σ) (start : ρ) (db : σ) : ρ → σ → Prop
  | start : Reaches program start db start db
  | begin {r next : ρ} {view : σ} (before : Reaches program start db r view)
      (statement : program r = .begin next) : Reaches program start db next view
  | select {r : ρ} {view : σ} {next : σ → ρ} (before : Reaches program start db r view)
      (statement : program r = .select next) : Reaches program start db (next view) view
  | write {r refused : ρ} {view : σ} {next : σ → ρ × σ} (before : Reaches program start db r view)
      (statement : program r = .write next refused) :
      Reaches program start db (next view).1 (next view).2
  | refused {r refused : ρ} {view : σ} {next : σ → ρ × σ} (before : Reaches program start db r view)
      (statement : program r = .write next refused) : Reaches program start db refused view

/-- A transaction that runs alone takes `db` to `after` and commits. -/
def Commits (program : ρ → Statement ρ σ) (start : ρ) (db after : σ) : Prop :=
  ∃ r next, Reaches program start db r after ∧ program r = .commit next

/-- Transactions one after the other. -/
inductive Serial (commits : ι → σ → σ → Prop) (db : σ) : List ι → σ → Prop
  | nil : Serial commits db [] db
  | snoc {log : List ι} {mid after : σ} {i : ι} (before : Serial commits db log mid)
      (last : commits i mid after) : Serial commits db (log ++ [i]) after

theorem Serial.imp {commits commits' : ι → σ → σ → Prop} {db after : σ} {log : List ι}
    (one : ∀ i s t, commits i s t → commits' i s t) (serial : Serial commits db log after) :
    Serial commits' db log after := by
  induction serial with
  | nil => exact .nil
  | snoc before last imp => exact imp.snoc (one _ _ _ last)

/-- What every transaction keeps, a serial run keeps. -/
theorem Serial.keeps {commits : ι → σ → σ → Prop} {P : σ → Prop} {db after : σ} {log : List ι}
    (one : ∀ i s t, commits i s t → P s → P t) (start : P db) (serial : Serial commits db log after) :
    P after := by
  induction serial with
  | nil => exact start
  | snoc before last kept => exact one _ _ _ last kept

section Steps

variable {program : ρ → Statement ρ σ} {start : ρ} {waits : Bool} {i : ι} {c d : Connection ρ σ}
  {s t : Store ι σ}

/-- The connection neither holds the lock nor has ended. -/
def View.Unlocked : View σ → Prop
  | deferred => True
  | reading _ _ => True
  | _ => False

/-- What one statement does to its connection and the store. -/
inductive Effect (program : ρ → Statement ρ σ) (i : ι) (c : Connection ρ σ) (s : Store ι σ) :
    Connection ρ σ → Store ι σ → Prop
  | stays : Effect program i c s c s
  | begins {next : ρ} (statement : program c.place = .begin next) (live : c.view ≠ .ended) :
      Effect program i c s ⟨next, c.view⟩ s
  | selects {next : σ → ρ} (statement : program c.place = .select next) (live : c.view ≠ .ended) :
      Effect program i c s ⟨next (c.view.snapshot s).2, c.view.fix s⟩ s
  | refused {next : σ → ρ × σ} {refused : ρ} (statement : program c.place = .write next refused)
      (unlocked : c.view.Unlocked) : Effect program i c s ⟨refused, c.view⟩ s
  | locks {next : σ → ρ × σ} {refused : ρ} (statement : program c.place = .write next refused)
      (unlocked : c.view.Unlocked) (free : s.writer = none)
      (current : (c.view.snapshot s).1 = s.log.length) :
      Effect program i c s (Connection.applied i next (c.view.snapshot s).2 s).1
        { s with writer := some i }
  | writes {next : σ → ρ × σ} {refused : ρ} {written : σ}
      (statement : program c.place = .write next refused) (view : c.view = .writing written) :
      Effect program i c s (Connection.applied i next written s).1 { s with writer := some i }
  | commits {next : ρ} {written : σ} (statement : program c.place = .commit next)
      (view : c.view = .writing written) :
      Effect program i c s ⟨next, .ended⟩ ⟨written, none, s.log ++ [i]⟩
  | leaves {next : ρ} (statement : program c.place = .commit next ∨ program c.place = .rollBack next)
      (unlocked : c.view.Unlocked) : Effect program i c s ⟨next, .ended⟩ s
  | aborts {next : ρ} {written : σ} (statement : program c.place = .rollBack next)
      (view : c.view = .writing written) :
      Effect program i c s ⟨next, .ended⟩ { s with writer := none }

theorem upgrade_effect {next : σ → ρ × σ} {refused : ρ}
    (statement : program c.place = .write next refused) (unlocked : c.view.Unlocked) :
    Effect program i c s (Connection.upgrade waits i next refused c s).1
      (Connection.upgrade waits i next refused c s).2 := by
  unfold Connection.upgrade
  cases writer : s.writer with
  | some j =>
    cases waits
    · exact .refused statement unlocked
    · exact .stays
  | none =>
    dsimp only
    split
    · rename_i current
      exact .locks statement unlocked writer current
    · exact .refused statement unlocked

theorem waiting_effect (unlocked : c.view.Unlocked) :
    Effect program i c s (c.waiting program waits i s).1 (c.waiting program waits i s).2 := by
  have live : c.view ≠ .ended := by
    intro ended
    rw [ended] at unlocked
    exact unlocked
  unfold Connection.waiting
  cases statement : program c.place with
  | begin next => exact .begins statement live
  | select next => exact .selects statement live
  | write next refused => exact upgrade_effect statement unlocked
  | commit next => exact .leaves (.inl statement) unlocked
  | rollBack next => exact .leaves (.inr statement) unlocked
  | done => exact .stays

theorem holding_effect {written : σ} (view : c.view = .writing written) :
    Effect program i c s (c.holding program i written s).1 (c.holding program i written s).2 := by
  have live : c.view ≠ .ended := by simp [view]
  unfold Connection.holding
  cases statement : program c.place with
  | begin next => exact .begins statement live
  | select next =>
    have effect : Effect program i c s _ s := .selects statement live
    rw [view] at effect
    dsimp only
    rw [view]
    exact effect
  | write next refused => exact .writes statement view
  | commit next => exact .commits statement view
  | rollBack next => exact .aborts statement view
  | done => exact .stays

theorem act_effect (program : ρ → Statement ρ σ) (waits : Bool) (i : ι) (c : Connection ρ σ)
    (s : Store ι σ) :
    Effect program i c s (c.act program waits i s).1 (c.act program waits i s).2 := by
  unfold Connection.act
  cases view : c.view with
  | deferred => exact waiting_effect (by rw [view]; trivial)
  | reading since read => exact waiting_effect (by rw [view]; trivial)
  | writing written => exact holding_effect view
  | ended => exact .stays

end Steps

section Soundness

variable {program : ρ → Statement ρ σ} {start : ρ} {i j : ι} {c d q : Connection ρ σ}
  {s t : Store ι σ}

/-- A connection is where its transaction comes to alone, from its snapshot; the one
with the lock has the last commit as its snapshot. -/
def Sound (program : ρ → Statement ρ σ) (start : ρ) (i : ι) (c : Connection ρ σ)
    (s : Store ι σ) : Prop :=
  match c.view with
  | .deferred => (∀ db, Reaches program start db c.place db) ∧ s.writer ≠ some i
  | .reading since read => Reaches program start read c.place read ∧
      since ≤ s.log.length ∧ (since = s.log.length → read = s.committed) ∧ s.writer ≠ some i
  | .writing written => Reaches program start s.committed c.place written ∧ s.writer = some i
  | .ended => s.writer ≠ some i

/-- The snapshot of a connection that has written nothing. -/
theorem Sound.reaches (sound : Sound program start i c s) (unlocked : c.view.Unlocked) :
    Reaches program start (c.view.snapshot s).2 c.place (c.view.snapshot s).2 := by
  obtain ⟨place, view⟩ := c
  cases view with
  | deferred => exact sound.1 s.committed
  | reading since read => exact sound.1
  | writing written => exact unlocked.elim
  | ended => exact unlocked.elim

/-- A snapshot that nothing was committed after is what is committed. -/
theorem Sound.current (sound : Sound program start i c s) (unlocked : c.view.Unlocked)
    (current : (c.view.snapshot s).1 = s.log.length) : (c.view.snapshot s).2 = s.committed := by
  obtain ⟨place, view⟩ := c
  cases view with
  | deferred => rfl
  | reading since read => exact sound.2.2.1 current
  | writing written => exact unlocked.elim
  | ended => exact unlocked.elim

theorem Sound.not_writer (sound : Sound program start i c s) (unlocked : c.view.Unlocked) :
    s.writer ≠ some i := by
  obtain ⟨place, view⟩ := c
  cases view with
  | deferred => exact sound.2
  | reading since read => exact sound.2.2.2
  | writing written => exact unlocked.elim
  | ended => exact unlocked.elim

/-- A connection that moves on in its program with the view it has. -/
theorem Sound.moves {next : ρ} (sound : Sound program start i c s)
    (reaches : ∀ db view, Reaches program start db c.place view → Reaches program start db next view) :
    Sound program start i ⟨next, c.view⟩ s := by
  obtain ⟨place, view⟩ := c
  cases view with
  | deferred => exact ⟨fun db => reaches db db (sound.1 db), sound.2⟩
  | reading since read => exact ⟨reaches read read sound.1, sound.2⟩
  | writing written => exact ⟨reaches s.committed written sound.1, sound.2⟩
  | ended => exact sound

theorem Effect.sound (effect : Effect program i c s d t) (sound : Sound program start i c s) :
    Sound program start i d t := by
  cases effect with
  | stays => exact sound
  | begins statement live => exact sound.moves fun db view before => .begin before statement
  | refused statement unlocked => exact sound.moves fun db view before => .refused before statement
  | selects statement live =>
    obtain ⟨place, view⟩ := c
    cases view with
    | deferred =>
      exact ⟨.select (sound.1 s.committed) statement, Nat.le_refl _, fun _ => rfl, sound.2⟩
    | reading since read => exact ⟨.select sound.1 statement, sound.2⟩
    | writing written => exact ⟨.select sound.1 statement, sound.2⟩
    | ended => exact absurd rfl live
  | locks statement unlocked free current =>
    have reaches := sound.reaches unlocked
    rw [sound.current unlocked current] at reaches ⊢
    exact ⟨.write reaches statement, rfl⟩
  | writes statement view =>
    obtain ⟨place, view'⟩ := c
    cases view
    exact ⟨.write sound.1 statement, rfl⟩
  | commits statement view => exact Option.some_ne_none i |>.symm
  | leaves statement unlocked => exact sound.not_writer unlocked
  | aborts statement view => exact Option.some_ne_none i |>.symm

/-- The steps of another connection. -/
theorem Effect.others (effect : Effect program i c s d t) (different : i ≠ j)
    (own : Sound program start i c s) {program' : ρ → Statement ρ σ} {start' : ρ}
    (sound : Sound program' start' j q s) : Sound program' start' j q t := by
  have free : ∀ writer : Option ι, (writer = none ∨ writer = some i) →
      (s.writer = none ∨ s.writer = some i) → Sound program' start' j q { s with writer } := by
    intro writer now before
    have notMine : writer ≠ some j := by
      rcases now with rfl | rfl
      · exact (Option.some_ne_none j).symm
      · simpa using different
    have notHeld : s.writer ≠ some j := by
      rcases before with before | before <;> rw [before]
      · exact (Option.some_ne_none j).symm
      · simpa using different
    obtain ⟨place, view⟩ := q
    cases view with
    | deferred => exact ⟨sound.1, notMine⟩
    | reading since read => exact ⟨sound.1, sound.2.1, sound.2.2.1, notMine⟩
    | writing written => exact absurd sound.2 notHeld
    | ended => exact notMine
  cases effect with
  | stays | begins | selects | refused | leaves => exact sound
  | locks statement unlocked unheld current => exact free _ (.inr rfl) (.inl unheld)
  | writes statement view =>
    obtain ⟨place, view'⟩ := c
    cases view
    exact free _ (.inr rfl) (.inr own.2)
  | aborts statement view =>
    obtain ⟨place, view'⟩ := c
    cases view
    exact free _ (.inl rfl) (.inr own.2)
  | commits statement view =>
    obtain ⟨place, view'⟩ := c
    cases view
    have notHeld : s.writer ≠ some j := by
      rw [own.2]
      simpa using different
    obtain ⟨place', view⟩ := q
    cases view with
    | deferred => exact ⟨sound.1, by simp⟩
    | reading since read =>
      -- the snapshot is older than this commit
      have older := sound.2.1
      refine ⟨sound.1, ?_, fun same => ?_, by simp⟩
      · simp only [List.length_append, List.length_singleton]
        omega
      · simp only [List.length_append, List.length_singleton] at same
        omega
    | writing written => exact absurd sound.2 notHeld
    | ended => simp [Sound]

/-- A statement leaves what is committed, or it is the commit of the transaction. -/
theorem Effect.published (effect : Effect program i c s d t) (sound : Sound program start i c s) :
    t.committed = s.committed ∧ t.log = s.log ∨
      c.view ≠ .ended ∧ d.view = .ended ∧ t.log = s.log ++ [i] ∧
        Commits program start s.committed t.committed := by
  cases effect with
  | stays | begins | selects | refused | locks | writes | leaves | aborts => exact .inl ⟨rfl, rfl⟩
  | commits statement view =>
    obtain ⟨place, view'⟩ := c
    cases view
    exact .inr ⟨by simp, rfl, rfl, place, _, sound.1, statement⟩

end Soundness

section Schedules

variable {programs : ι → ρ → Statement ρ σ} {starts : ι → ρ} {db : σ}
  {s : System ι (Connection ρ σ) (Store ι σ)}

/-- All connections before their transactions. -/
def opened (starts : ι → ρ) (db : σ) : System ι (Connection ρ σ) (Store ι σ) where
  shared := ⟨db, none, []⟩
  locals i := ⟨starts i, .deferred⟩

/-- What is committed is the serial outcome of the transactions that committed. -/
structure Serializable (programs : ι → ρ → Statement ρ σ) (starts : ι → ρ) (db : σ)
    (s : System ι (Connection ρ σ) (Store ι σ)) : Prop where
  sound : ∀ i, Sound (programs i) (starts i) i (s.locals i) s.shared
  serial : Serial (fun i => Commits (programs i) (starts i)) db s.shared.log s.shared.committed
  ended : ∀ i ∈ s.shared.log, (s.locals i).view = .ended
  once : s.shared.log.Nodup

theorem serializable_opened (programs : ι → ρ → Statement ρ σ) (starts : ι → ρ) (db : σ) :
    Serializable programs starts db (opened starts db) where
  sound i := ⟨fun _ => .start, by simp [opened]⟩
  serial := .nil
  ended i none := by cases none
  once := List.nodup_nil

variable [DecidableEq ι]

/-- One statement of one connection; whether it would wait for the lock. -/
def advance (programs : ι → ρ → Statement ρ σ) (turn : ι × Bool)
    (s : System ι (Connection ρ σ) (Store ι σ)) : System ι (Connection ρ σ) (Store ι σ) :=
  System.step (fun i c t => c.act (programs i) turn.2 i t) turn.1 s

theorem advance_effect (programs : ι → ρ → Statement ρ σ) (turn : ι × Bool)
    (s : System ι (Connection ρ σ) (Store ι σ)) :
    Effect (programs turn.1) turn.1 (s.locals turn.1) s.shared
      ((advance programs turn s).locals turn.1) (advance programs turn s).shared := by
  rw [advance, System.step_self, System.step_shared]
  exact act_effect _ _ _ _ _

theorem advance_other (turn : ι × Bool) {j : ι} (other : j ≠ turn.1) :
    (advance programs turn s).locals j = s.locals j := System.step_other other

/-- A connection that has ended stays where it is. -/
theorem advance_ended {turn : ι × Bool} {i : ι} (ended : (s.locals i).view = .ended) :
    (advance programs turn s).locals i = s.locals i := by
  by_cases same : i = turn.1
  · subst same
    rw [advance, System.step_self, Connection.act, ended]
  · exact advance_other turn same

theorem Serializable.advance (kept : Serializable programs starts db s) (turn : ι × Bool) :
    Serializable programs starts db (advance programs turn s) := by
  obtain ⟨sound, serial, ended, once⟩ := kept
  have effect := advance_effect programs turn s
  refine ⟨fun i => ?_, ?_, ?_, ?_⟩
  · by_cases same : i = turn.1
    · rw [same]
      exact effect.sound (sound turn.1)
    · rw [advance_other turn same]
      exact effect.others (Ne.symm same) (sound turn.1) (sound i)
  all_goals
    rcases effect.published (sound turn.1) with ⟨still, log⟩ | ⟨live, finished, log, commits⟩
  · rw [still, log]
    exact serial
  · rw [log]
    exact serial.snoc commits
  · intro i logged
    rw [log] at logged
    rw [advance_ended (ended i logged)]
    exact ended i logged
  · intro i logged
    rw [log] at logged
    rcases List.mem_append.mp logged with before | now
    · rw [advance_ended (ended i before)]
      exact ended i before
    · rw [List.mem_singleton.mp now]
      exact finished
  · rw [log]
    exact once
  · rw [log, List.nodup_append]
    refine ⟨once, List.nodup_singleton _, fun i before j now same => ?_⟩
    rw [List.mem_singleton.mp now] at same
    exact live (ended turn.1 (same ▸ before))

/-- Under every schedule of the statements, what is committed is the serial outcome of
the transactions that committed. -/
theorem serializable (programs : ι → ρ → Statement ρ σ) (starts : ι → ρ) (db : σ)
    (schedule : List (ι × Bool)) :
    Serializable programs starts db (run (advance programs) (opened starts db) schedule) :=
  run_keeps (fun turn _ kept => kept.advance turn) (serializable_opened programs starts db) schedule

end Schedules

end Saloon.Lib
