import Saloon.Lib.Scripts

/-!
# Interleaved requests

Requests that each send a script to one store, statement by statement. When a
transaction has ended, the next statement of the request begins a new one.
Whatever the interleaving, what is committed is the outcome of whole
transactions one after the other, and no request is in another's way for good.
-/
namespace Saloon.Lib

variable {ι σ β : Type}

/-- A request with its connection to the store. -/
abbrev Sender (σ β : Type) : Type := Connection (Place σ β) σ

/-- The connection is ready for a new transaction once the last one has ended. -/
def Connection.resume {ρ : Type} (c : Connection ρ σ) : Connection ρ σ :=
  match c.view with
  | .ended => { c with view := .deferred }
  | _ => c

/-- The request has got its answer. -/
def Answers (b : β) (c : Sender σ β) : Prop := c.place = ⟨false, .answer b⟩

namespace Script

/-- The next statement of a request. -/
def proceed (waits : Bool) (i : ι) (c : Sender σ β) (s : Store ι σ) : Sender σ β × Store ι σ :=
  ((c.act program waits i s).1.resume, (c.act program waits i s).2)

section Steps

variable {waits : Bool} {i j : ι} {c d q : Sender σ β} {s t : Store ι σ}

theorem proceed_effect (waits : Bool) (i : ι) (c : Sender σ β) (s : Store ι σ) :
    ∃ d, Effect program i c s d (proceed waits i c s).2 ∧ (proceed waits i c s).1 = d.resume :=
  ⟨_, act_effect program waits i c s, rfl⟩

/-- A transaction that has read nothing is not refused a write while it waits for the lock. -/
theorem proceed_patient {effect : σ → σ} {next : σ → Script σ β true}
    {refused : Script σ β false} (here : c.place = ⟨true, write effect next refused⟩)
    (deferred : c.view = .deferred) :
    proceed true i c s = (c, s) ∨
      proceed true i c s = (⟨⟨true, next s.committed⟩, .writing (effect s.committed)⟩,
        { s with writer := some i }) := by
  obtain ⟨place, view⟩ := c
  cases here
  cases deferred
  cases held : s.writer with
  | some k =>
    refine .inl ?_
    simp [proceed, Connection.act, Connection.waiting, Connection.upgrade, program, held,
      Connection.resume]
  | none =>
    refine .inr ?_
    simp [proceed, Connection.act, Connection.waiting, Connection.upgrade, program, held,
      View.snapshot, Connection.applied, Connection.resume]

theorem proceed_answered {b : β} (answered : Answers b c) (deferred : c.view = .deferred) :
    proceed waits i c s = (c, s) := by
  obtain ⟨place, view⟩ := c
  cases answered
  cases deferred
  simp [proceed, Connection.act, Connection.waiting, program, Connection.resume]

end Steps

end Script

open Script

section Schedules

variable [DecidableEq ι]

/-- One statement of one request; whether it would wait for the lock. -/
def Script.turn (slot : ι × Bool) (s : System ι (Sender σ β) (Store ι σ)) :
    System ι (Sender σ β) (Store ι σ) :=
  System.step (proceed slot.2) slot.1 s

/-- Every request before its first statement. -/
def arrived (scripts : ι → Script σ β false) (db : σ) : System ι (Sender σ β) (Store ι σ) :=
  opened (fun i => ⟨false, scripts i⟩) db

/-- The statements of the requests in the order of a schedule. -/
def interleave (scripts : ι → Script σ β false) (db : σ) (schedule : List (ι × Bool)) :
    System ι (Sender σ β) (Store ι σ) :=
  run Script.turn (arrived scripts db) schedule

end Schedules

section Turns

variable [DecidableEq ι]

theorem turn_self (slot : ι × Bool) (s : System ι (Sender σ β) (Store ι σ)) :
    (Script.turn slot s).locals slot.1 = (proceed slot.2 slot.1 (s.locals slot.1) s.shared).1 :=
  System.step_self

theorem turn_shared (slot : ι × Bool) (s : System ι (Sender σ β) (Store ι σ)) :
    (Script.turn slot s).shared = (proceed slot.2 slot.1 (s.locals slot.1) s.shared).2 := rfl

theorem turn_other {slot : ι × Bool} {s : System ι (Sender σ β) (Store ι σ)} {j : ι}
    (other : j ≠ slot.1) : (Script.turn slot s).locals j = s.locals j := System.step_other other

end Turns

section Serial

/-! What is committed is the outcome of the transactions that committed, one after the other. -/

variable {T : Script σ β true → Prop} {i j : ι} {c d q : Sender σ β} {s t : Store ι σ}
  {transaction : Script σ β true} {db view after : σ}

/-- Where a transaction comes to alone, it has the same to commit as at its start. -/
theorem finish_of_reaches {place : Place σ β}
    (reaches : Reaches program ⟨false, begin transaction⟩ db place view) :
    (place = ⟨false, begin transaction⟩ ∧ view = db) ∨
      ∃ script, place = ⟨true, script⟩ ∧
        ∀ outcome, script.finish view = some outcome → transaction.finish db = some outcome := by
  induction reaches with
  | start => exact .inl ⟨rfl, rfl⟩
  | begin before statement ih =>
    rcases ih with ⟨rfl, rfl⟩ | ⟨script, rfl, same⟩
    · cases statement
      exact .inr ⟨transaction, rfl, fun _ => id⟩
    · cases script <;> cases statement
  | select before statement ih =>
    rcases ih with ⟨rfl, rfl⟩ | ⟨script, rfl, same⟩
    · cases statement
    · cases script <;> cases statement
      exact .inr ⟨_, rfl, same⟩
  | write before statement ih =>
    rcases ih with ⟨rfl, rfl⟩ | ⟨script, rfl, same⟩
    · cases statement
    · cases script <;> cases statement
      exact .inr ⟨_, rfl, same⟩
  | refused before statement ih =>
    rcases ih with ⟨rfl, rfl⟩ | ⟨script, rfl, same⟩
    · cases statement
    · cases script <;> cases statement
      exact .inr ⟨_, rfl, fun outcome none => by cases none⟩

theorem reaches_answer {b : β} {place : Place σ β}
    (reaches : Reaches program ⟨false, answer b⟩ db place view) : place = ⟨false, answer b⟩ := by
  induction reaches with
  | start => rfl
  | begin before statement ih | select before statement ih | write before statement ih
    | refused before statement ih =>
    cases ih
    cases statement

/-- What a request commits is the outcome of one of its transactions. -/
theorem finish_of_commits {script : Script σ β false} (within : script.Within T)
    (commits : Commits program ⟨false, script⟩ db after) :
    ∃ transaction next, T transaction ∧ transaction.finish db = some (after, next) := by
  obtain ⟨place, next, reaches, statement⟩ := commits
  cases script with
  | answer b =>
    rw [reaches_answer reaches] at statement
    cases statement
  | begin transaction =>
    rcases finish_of_reaches reaches with ⟨rfl, rfl⟩ | ⟨rest, rfl, same⟩
    · cases statement
    · cases rest <;> cases statement
      exact ⟨transaction, _, within.1, same _ rfl⟩

/-- A request is in one of its transactions, and has only such before it. -/
structure Orderly (T : Script σ β true → Prop) (i : ι) (c : Sender σ β) (s : Store ι σ) :
    Prop where
  sound : ∃ script : Script σ β false, script.Within T ∧ Sound program ⟨false, script⟩ i c s
  within : c.place.2.Within T
  live : c.view ≠ .ended
  outside : c.place.1 = false → c.view = .deferred

theorem Orderly.resume_self (orderly : Orderly T i c s) : c.resume = c := by
  obtain ⟨place, view⟩ := c
  cases view with
  | ended => exact absurd rfl orderly.live
  | _ => rfl

/-- Between two transactions. -/
theorem orderly_outside {next : Script σ β false} (within : next.Within T)
    (free : t.writer ≠ some i) : Orderly T i ⟨⟨false, next⟩, .deferred⟩ t where
  sound := ⟨next, within, fun _ => .start, free⟩
  within := within
  live := by simp
  outside _ := rfl

/-- Inside a transaction. -/
theorem orderly_inside {next : Script σ β true} {view : View σ}
    (sound : ∃ script : Script σ β false, script.Within T ∧
      Sound program ⟨false, script⟩ i ⟨⟨true, next⟩, view⟩ t)
    (within : next.Within T) (live : view ≠ .ended) :
    Orderly T i (Connection.resume ⟨⟨true, next⟩, view⟩) t := by
  cases view with
  | ended => exact absurd rfl live
  | _ => exact ⟨sound, within, live, fun no => by cases no⟩

theorem Orderly.effect (effect : Effect program i c s d t) (orderly : Orderly T i c s) :
    Orderly T i d.resume t := by
  obtain ⟨start, startWithin, sound⟩ := orderly.sound
  have later := effect.sound sound
  have within := orderly.within
  have live := orderly.live
  obtain ⟨⟨inside, script⟩, view⟩ := c
  cases effect with
  | stays => exact orderly.resume_self.symm ▸ orderly
  | begins statement _ =>
    cases script <;> cases statement
    exact orderly_inside ⟨start, startWithin, later⟩ within.2 live
  | selects statement _ =>
    cases script <;> cases statement
    refine orderly_inside ⟨start, startWithin, later⟩ (within _) ?_
    cases view <;> simp [View.fix] at live ⊢
  | refused statement unlocked =>
    cases script <;> cases statement
    exact orderly_inside ⟨start, startWithin, later⟩ within.2 live
  | locks statement unlocked free current =>
    cases script <;> cases statement
    exact orderly_inside ⟨start, startWithin, later⟩ (within.1 _) (by simp)
  | writes statement writing =>
    cases script <;> cases statement
    exact orderly_inside ⟨start, startWithin, later⟩ (within.1 _) (by simp)
  | commits statement writing =>
    cases script <;> cases statement
    exact orderly_outside within later
  | leaves statement unlocked =>
    rcases statement with statement | statement <;> cases script <;> cases statement
    · exact orderly_outside within later
    · exact orderly_outside within later
  | aborts statement writing =>
    cases script <;> cases statement
    exact orderly_outside within later

theorem Orderly.others (effect : Effect program i c s d t) (different : i ≠ j)
    (own : Orderly T i c s) {U : Script σ β true → Prop} (orderly : Orderly U j q s) :
    Orderly U j q t := by
  obtain ⟨start, -, sound⟩ := own.sound
  obtain ⟨start', within, sound'⟩ := orderly.sound
  exact { orderly with sound := ⟨start', within, effect.others different sound sound'⟩ }

/-- A statement publishes nothing, or the outcome of the transaction that it ends. -/
theorem Orderly.published (effect : Effect program i c s d t) (orderly : Orderly T i c s) :
    t.committed = s.committed ∧ t.log = s.log ∨
      t.log = s.log ++ [i] ∧ ∃ transaction next, T transaction ∧
        transaction.finish s.committed = some (t.committed, next) := by
  obtain ⟨start, within, sound⟩ := orderly.sound
  rcases effect.published sound with still | ⟨-, -, log, commits⟩
  · exact .inl still
  · exact .inr ⟨log, finish_of_commits within commits⟩

variable [DecidableEq ι] {U : ι → Script σ β true → Prop} {scripts : ι → Script σ β false}

/-- The transactions of a request, as a relation between stores. -/
def Outcome (U : ι → Script σ β true → Prop) (i : ι) (before after : σ) : Prop :=
  ∃ transaction next, U i transaction ∧ transaction.finish before = some (after, next)

structure Ordered (U : ι → Script σ β true → Prop) (db : σ)
    (s : System ι (Sender σ β) (Store ι σ)) : Prop where
  each : ∀ i, Orderly (U i) i (s.locals i) s.shared
  serial : Serial (Outcome U) db s.shared.log s.shared.committed

theorem Ordered.turn {s : System ι (Sender σ β) (Store ι σ)} (ordered : Ordered U db s)
    (slot : ι × Bool) : Ordered U db (Script.turn slot s) := by
  obtain ⟨d, effect, here⟩ := proceed_effect slot.2 slot.1 (s.locals slot.1) s.shared
  refine ⟨fun i => ?_, ?_⟩
  · by_cases same : i = slot.1
    · rw [same, turn_self, turn_shared, here]
      exact (ordered.each slot.1).effect effect
    · rw [turn_other same, turn_shared]
      exact Orderly.others effect (Ne.symm same) (ordered.each slot.1) (ordered.each i)
  · rw [turn_shared]
    rcases (ordered.each slot.1).published effect with ⟨still, log⟩ | ⟨log, outcome⟩
    · rw [still, log]
      exact ordered.serial
    · rw [log]
      exact ordered.serial.snoc outcome

/-- Whatever the interleaving, what is committed is the outcome of whole transactions of
the requests, one after the other. -/
theorem interleave_ordered (within : ∀ i, (scripts i).Within (U i)) (db : σ)
    (schedule : List (ι × Bool)) : Ordered U db (interleave scripts db schedule) :=
  run_keeps (fun slot _ ordered => ordered.turn slot)
    ⟨fun i => orderly_outside (within i) (by simp [arrived, opened]), .nil⟩ schedule

end Serial

section Progress

/-! No deadlock: from wherever the requests are, all of them can still be answered. -/

variable {i : ι} {c : Sender σ β} {s : Store ι σ}

theorem proceed_begin {transaction : Script σ β true}
    (here : c.place = ⟨false, begin transaction⟩) (deferred : c.view = .deferred) (waits : Bool) :
    proceed waits i c s = (⟨⟨true, transaction⟩, .deferred⟩, s) := by
  obtain ⟨place, view⟩ := c
  cases here
  cases deferred
  simp [proceed, Connection.act, Connection.waiting, program, Connection.resume]

theorem proceed_select {next : σ → Script σ β true} (here : c.place = ⟨true, select next⟩)
    (live : c.view ≠ .ended) (waits : Bool) :
    ∃ read view, proceed waits i c s = (⟨⟨true, next read⟩, view⟩, s) := by
  obtain ⟨place, view⟩ := c
  cases here
  cases view with
  | ended => exact absurd rfl live
  | _ => exact ⟨_, _, rfl⟩

/-- A write goes through, or is refused for good, when no other request holds the lock. -/
theorem proceed_write {effect : σ → σ} {next : σ → Script σ β true} {refused : Script σ β false}
    (here : c.place = ⟨true, write effect next refused⟩) (live : c.view ≠ .ended)
    (free : s.writer = none ∨ ∃ written, c.view = .writing written) (waits : Bool) :
    (∃ read view t, proceed waits i c s = (⟨⟨true, next read⟩, view⟩, t) ∧ t.writer = some i) ∨
      s.writer = none ∧ ∃ view, proceed waits i c s = (⟨⟨true, rollBack refused⟩, view⟩, s) := by
  obtain ⟨place, view⟩ := c
  cases here
  cases view with
  | ended => exact absurd rfl live
  | writing written => exact .inl ⟨_, _, _, rfl, rfl⟩
  | deferred =>
    rcases free with free | ⟨written, no⟩
    · refine .inl ⟨s.committed, .writing (effect s.committed), { s with writer := some i }, ?_, rfl⟩
      simp [proceed, Connection.act, Connection.waiting, program, Connection.upgrade, free,
        View.snapshot, Connection.applied, Connection.resume]
    · cases no
  | reading since read =>
    rcases free with free | ⟨written, no⟩
    · by_cases current : since = s.log.length
      · refine .inl ⟨read, .writing (effect read), { s with writer := some i }, ?_, rfl⟩
        simp [proceed, Connection.act, Connection.waiting, program, Connection.upgrade, free,
          View.snapshot, Connection.applied, Connection.resume, current]
      · refine .inr ⟨free, .reading since read, ?_⟩
        simp [proceed, Connection.act, Connection.waiting, program, Connection.upgrade, free,
          View.snapshot, Connection.resume, current]
    · cases no

/-- A transaction ends at its COMMIT or its ROLLBACK, and lets go of the lock. -/
theorem proceed_ends {next : Script σ β false}
    (here : c.place = ⟨true, commit next⟩ ∨ c.place = ⟨true, rollBack next⟩)
    (live : c.view ≠ .ended) (free : s.writer = none ∨ ∃ written, c.view = .writing written)
    (waits : Bool) :
    ∃ t, proceed waits i c s = (⟨⟨false, next⟩, .deferred⟩, t) ∧ t.writer = none := by
  obtain ⟨place, view⟩ := c
  rcases here with here | here <;> cases here <;> cases view with
  | ended => exact absurd rfl live
  | writing written => exact ⟨_, rfl, rfl⟩
  | deferred | reading since read =>
    rcases free with free | ⟨written, no⟩
    · exact ⟨s, rfl, free⟩
    · cases no

variable {db : σ} {S : System ι (Sender σ β) (Store ι σ)}

/-- The requests are in some of their transactions each. -/
abbrev Lively (db : σ) (S : System ι (Sender σ β) (Store ι σ)) : Prop :=
  Ordered (fun _ _ => True) db S

theorem Lively.free (lively : Lively db S)
    (free : S.shared.writer = none ∨ S.shared.writer = some i) :
    S.shared.writer = none ∨ ∃ written, (S.locals i).view = .writing written := by
  obtain ⟨start, -, sound⟩ := (lively.each i).sound
  have live := (lively.each i).live
  rcases free with free | mine
  · exact .inl free
  · refine .inr ?_
    unfold Sound at sound
    cases view : (S.locals i).view with
    | deferred =>
      rw [view] at sound
      exact absurd mine sound.2
    | reading since read =>
      rw [view] at sound
      exact absurd mine sound.2.2.2
    | writing written => exact ⟨written, rfl⟩
    | ended => exact absurd view live

theorem patient_append {n : Nat} {more : List (ι × Bool)} (patient : ∀ slot ∈ more, slot.2 = true) :
    ∀ slot ∈ List.replicate n (i, true) ++ more, slot.2 = true := by
  intro slot member
  rcases List.mem_append.mp member with own | later
  · rw [List.eq_of_mem_replicate own]
  · exact patient slot later

variable [DecidableEq ι]

/-- A request that has the answer keeps it. -/
theorem Lively.turn_answered (lively : Lively db S) {b : β} (answered : Answers b (S.locals i))
    (slot : ι × Bool) : Answers b ((Script.turn slot S).locals i) := by
  by_cases same : i = slot.1
  · have outside : (S.locals i).place.1 = false := by rw [answered]
    subst same
    rw [turn_self, proceed_answered answered ((lively.each _).outside outside)]
    exact answered
  · rw [turn_other same]
    exact answered

/-- The request comes to its answer by turns of its own, and then no one has the lock. -/
def Answerable (i : ι) (S : System ι (Sender σ β) (Store ι σ)) : Prop :=
  ∃ n, (∃ b, Answers b ((run Script.turn S (List.replicate n (i, true))).locals i)) ∧
    (run Script.turn S (List.replicate n (i, true))).shared.writer = none

/-- One turn, and then the rest. -/
theorem Answerable.step {place : Place σ β} {view : View σ} {t : Store ι σ}
    (next : proceed true i (S.locals i) S.shared = (⟨place, view⟩, t))
    (later : ((Script.turn (i, true) S).locals i).place = place →
      (Script.turn (i, true) S).shared = t → Answerable i (Script.turn (i, true) S)) :
    Answerable i S := by
  obtain ⟨n, answered⟩ := later (by rw [turn_self, next]) (by rw [turn_shared, next])
  exact ⟨n + 1, answered⟩

/-- A request with the lock, or with no one in its way, is answerable. -/
theorem Lively.answerable {inside : Bool} {script : Script σ β inside}
    (here : (S.locals i).place = ⟨inside, script⟩) (lively : Lively db S)
    (free : S.shared.writer = none ∨ S.shared.writer = some i) : Answerable i S := by
  induction script generalizing S with
  | answer b =>
    refine ⟨0, ⟨b, here⟩, ?_⟩
    have deferred := (lively.each i).outside (by rw [here])
    rcases lively.free free with none | ⟨written, view⟩
    · exact none
    · rw [deferred] at view
      cases view
  | begin transaction ih =>
    have deferred := (lively.each i).outside (by rw [here])
    refine .step (proceed_begin here deferred true) fun there shared => ?_
    exact ih there (lively.turn _) (shared ▸ free)
  | select next ih =>
    obtain ⟨read, view, selects⟩ := proceed_select (s := S.shared) (i := i) here
      (lively.each i).live true
    refine .step selects fun there shared => ?_
    exact ih read there (lively.turn _) (shared ▸ free)
  | write effect next refused ih again =>
    rcases proceed_write (i := i) here (lively.each i).live (lively.free free) true with
      ⟨read, view, t, writes, mine⟩ | ⟨none, view, gives⟩
    · refine .step writes fun there shared => ?_
      exact ih read there (lively.turn _) (.inr (shared ▸ mine))
    · refine .step gives fun there shared => ?_
      have lively' := lively.turn (i, true)
      obtain ⟨t, ends, open'⟩ := proceed_ends (i := i) (.inr there) (lively'.each i).live
        (.inl (shared ▸ none)) true
      refine .step ends fun there' shared' => ?_
      exact again there' (lively'.turn _) (.inl (shared' ▸ open'))
  | commit next ih =>
    obtain ⟨t, ends, none⟩ := proceed_ends (i := i) (.inl here) (lively.each i).live
      (lively.free free) true
    refine .step ends fun there shared => ?_
    exact ih there (lively.turn _) (.inl (shared ▸ none))
  | rollBack next ih =>
    obtain ⟨t, ends, none⟩ := proceed_ends (i := i) (.inr here) (lively.each i).live
      (lively.free free) true
    refine .step ends fun there shared => ?_
    exact ih there (lively.turn _) (.inl (shared ▸ none))

theorem Lively.run (lively : Lively db S) (schedule : List (ι × Bool)) :
    Lively db (Lib.run Script.turn S schedule) :=
  run_keeps (fun slot _ before => before.turn slot) lively schedule

theorem Lively.run_answered (lively : Lively db S) {b : β} (answered : Answers b (S.locals i))
    (schedule : List (ι × Bool)) :
    Answers b ((Lib.run Script.turn S schedule).locals i) := by
  induction schedule generalizing S with
  | nil => exact answered
  | cons slot schedule ih => exact ih (lively.turn slot) (lively.turn_answered answered slot)

/-- With the lock free, the requests can be answered one after the other. -/
theorem Lively.answer_all (lively : Lively db S) (free : S.shared.writer = none)
    (members : List ι) :
    ∃ more : List (ι × Bool), (∀ slot ∈ more, slot.2 = true) ∧
      ∀ i ∈ members, ∃ b, Answers b ((Lib.run Script.turn S more).locals i) := by
  induction members generalizing S with
  | nil => exact ⟨[], by simp⟩
  | cons i members ih =>
    obtain ⟨n, ⟨b, answered⟩, none⟩ := lively.answerable (i := i) rfl (.inl free)
    obtain ⟨more, patient, rest⟩ := ih (lively.run _) none
    refine ⟨List.replicate n (i, true) ++ more, patient_append patient, fun j member => ?_⟩
    rw [run_append]
    rcases List.mem_cons.mp member with rfl | later
    · exact ⟨b, (lively.run _).run_answered answered more⟩
    · exact rest j later

/-- An answer is final. -/
theorem interleave_answered (scripts : ι → Script σ β false) (db : σ)
    (schedule more : List (ι × Bool)) {b : β}
    (answered : Answers b ((interleave scripts db schedule).locals i)) :
    Answers b ((interleave scripts db (schedule ++ more)).locals i) := by
  have lively : Lively db (interleave scripts db schedule) :=
    interleave_ordered (fun i => within_true (scripts i)) db schedule
  rw [interleave, run_append]
  exact lively.run_answered answered more

/-- No deadlock: wherever a schedule has brought the requests, waiting for the lock brings
any of them to their answers. -/
theorem interleave_progress (scripts : ι → Script σ β false) (db : σ)
    (schedule : List (ι × Bool)) (members : List ι) :
    ∃ more : List (ι × Bool), (∀ slot ∈ more, slot.2 = true) ∧
      ∀ i ∈ members, ∃ b, Answers b ((interleave scripts db (schedule ++ more)).locals i) := by
  have lively : Lively db (interleave scripts db schedule) :=
    interleave_ordered (fun i => within_true (scripts i)) db schedule
  have goOn : ∀ more, interleave scripts db (schedule ++ more) =
      run Script.turn (interleave scripts db schedule) more := fun more => run_append _ _ _ _
  cases writer : (interleave scripts db schedule).shared.writer with
  | none =>
    obtain ⟨more, patient, all⟩ := lively.answer_all writer members
    exact ⟨more, patient, fun i member => goOn more ▸ all i member⟩
  | some holder =>
    obtain ⟨n, -, none⟩ := lively.answerable (i := holder) rfl (.inr writer)
    obtain ⟨more, patient, all⟩ := (lively.run _).answer_all none members
    refine ⟨List.replicate n (holder, true) ++ more, patient_append patient, fun i member => ?_⟩
    rw [goOn, run_append]
    exact all i member

end Progress

end Saloon.Lib
