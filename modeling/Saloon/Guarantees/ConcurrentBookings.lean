import Saloon.Guarantees.Bookings
import Saloon.Source.Booking

/-!
# Concurrent bookings

A booking looks for conflicts before it takes the write lock. That is enough:
the INSERT is refused to a transaction whose snapshot is not the last commit, so
what the look found free is still free when the row goes in.
-/
namespace Saloon.Guarantees

open Lib Source

/-- Two stored rows meet the booking code's conflict test: they are of one staff
member, which no row without one is. -/
def Conflicting (a b : Appointment) : Prop := a.staffId ≠ none ∧ Overlaps a b

def NoConflicts (db : Db) : Prop := Exclusive occupies Conflicting db.appointments

section OneCall

variable {php : Platform} {b : Booking} {db after : Db}

theorem conflicting_symm (a b : Appointment) (conflicting : Conflicting a b) : Conflicting b a :=
  ⟨conflicting.2.1 ▸ conflicting.1, overlaps_symm a b conflicting.2⟩

/-- The test of the booking code, between stored rows. -/
theorem conflicting_iff (a : Appointment) (r : Row Appointment) :
    Appointment.conflicts (Val.ofId a.staffId).key a.appointmentDate a.startTime a.endTime r = true ↔
      occupies r.cols ∧ Conflicting a r.cols := by
  cases staff : a.staffId with
  | none =>
    have none : Appointment.conflicts (Val.ofId none).key a.appointmentDate a.startTime a.endTime r =
        false := by
      simp only [Appointment.conflicts, Val.ofId, Val.key]
      cases r.cols.staffId <;> simp
    simp [none, Conflicting, staff]
  | some i =>
    have key : (Val.ofId (some i)).key = .num i := by simp [Val.ofId, Val.key]
    rw [key, conflicts_iff staff r]
    simp [Conflicting, staff]

/-- A stored staff id compares as the argument that it was stored from. -/
theorem key_of_foreignKey {α : Type} {t : Table α} {k : SqlVal} {i : Option Nat}
    (found : foreignKey t k = some i) : (Val.ofId i).key = k := by
  cases i with
  | none => exact (foreignKey_eq_none_id.mp found).symm
  | some i => simp [Val.ofId, Val.key, (foreignKey_eq_some.mp found).1]

/-- A call that goes through keeps the appointments without conflicts. -/
theorem noConflicts_of_booked {appointmentId : Nat}
    (success : b.statements php db = (.ok appointmentId, after)) (apart : NoConflicts db) :
    NoConflicts after := by
  obtain ⟨a, booked, rfl⟩ := Appointment.createStatements_eq_ok success
  have free := booked.free
  rw [← key_of_foreignKey booked.staff, ← booked.day] at free
  refine Exclusive.insert conflicting_symm (fun r member live conflicting => ?_) apart
  exact free r member ((conflicting_iff a r).mpr ⟨live, conflicting⟩)

end OneCall

section Outcomes

variable {ι : Type} {php : Platform} {b : Booking} {i j : ι} {c d q : Connection Booking.Phase Db}
  {s t : Store ι Db}

/-- The call has returned the id of its appointment. -/
def Answered (c : Connection Booking.Phase Db) : Prop :=
  ∃ appointmentId, c.place = .booked appointmentId

/-- A call before its COMMIT has the lock, and it has answered exactly when its commit
is in the log. -/
structure Accounts (i : ι) (c : Connection Booking.Phase Db) (s : Store ι Db) : Prop where
  locked : ∀ appointmentId, c.place = .commit appointmentId → ∃ written, c.view = .writing written
  answered : Answered c ↔ i ∈ s.log

/-- Where a call is before its INSERT has run, or after it has failed. -/
def Unsettled : Booking.Phase → Prop
  | .commit _ => False
  | .booked _ => False
  | _ => True

theorem unsettled_loaded (duration : Int) : Unsettled (b.loaded php duration) := by
  unfold Booking.loaded
  split
  · trivial
  · split <;> trivial

theorem unsettled_checked (duration : Int) (n : Nat) : Unsettled (Booking.checked duration n) := by
  unfold Booking.checked
  split <;> trivial

theorem not_answered (unsettled : Unsettled c.place) : ¬ Answered c := by
  rintro ⟨appointmentId, here⟩
  rw [here] at unsettled
  exact unsettled

/-- A step between two places at which the call has not answered. -/
theorem Accounts.moved (accounts : Accounts i c s) (before : Unsettled c.place)
    (after : Unsettled d.place) (log : t.log = s.log) : Accounts i d t where
  locked appointmentId here := by
    rw [here] at after
    exact after.elim
  answered := by
    rw [log, ← accounts.answered]
    exact iff_of_false (not_answered after) (not_answered before)

/-- The INSERT leads to the COMMIT with the lock, or to the ROLLBACK. -/
theorem Accounts.inserted {duration : Int} {read : Db} (accounts : Accounts i c s)
    (before : c.place = .insert duration) (log : t.log = s.log) :
    Accounts i (Connection.applied i (b.inserted php duration) read s).1 t where
  locked _ _ := ⟨_, rfl⟩
  answered := by
    rw [log, ← accounts.answered]
    refine iff_of_false ?_ (not_answered (by rw [before]; trivial))
    rintro ⟨appointmentId, here⟩
    have place : (b.inserted php duration read).1 = .booked appointmentId := here
    unfold Booking.inserted at place
    split at place <;> cases place

theorem accounts_effect (effect : Effect (b.program php) i c s d t) (accounts : Accounts i c s) :
    Accounts i d t := by
  obtain ⟨place, view⟩ := c
  cases effect with
  | stays => exact accounts
  | begins statement live =>
    cases place <;> cases statement
    exact accounts.moved trivial trivial rfl
  | selects statement live =>
    cases place with
    | load =>
      cases statement
      exact accounts.moved trivial (unsettled_loaded _) rfl
    | check duration =>
      cases statement
      exact accounts.moved trivial (unsettled_checked _ _) rfl
    | _ => cases statement
  | refused statement unlocked =>
    cases place <;> cases statement
    exact accounts.moved trivial trivial rfl
  | locks statement unlocked free current =>
    cases place <;> cases statement
    exact accounts.inserted rfl rfl
  | writes statement holds =>
    cases place <;> cases statement
    exact accounts.inserted rfl rfl
  | commits statement holds =>
    cases place <;> cases statement
    exact ⟨fun _ other => absurd other (by simp), iff_of_true ⟨_, rfl⟩ (by simp)⟩
  | leaves statement unlocked =>
    rcases statement with statement | statement <;> cases place <;> cases statement
    · -- the COMMIT stands behind an INSERT that took the lock
      obtain ⟨written, holds⟩ := accounts.locked _ rfl
      cases holds
      exact unlocked.elim
    · exact accounts.moved trivial trivial rfl
  | aborts statement holds =>
    cases place <;> cases statement
    exact accounts.moved trivial trivial rfl

theorem accounts_others (effect : Effect (b.program php) i c s d t) {start : Booking.Phase}
    (sound : Sound (b.program php) start i c s) (different : i ≠ j) (accounts : Accounts j q s) :
    Accounts j q t := by
  refine ⟨accounts.locked, accounts.answered.trans ?_⟩
  rcases effect.published sound with ⟨-, log⟩ | ⟨-, -, log, -⟩
  · rw [log]
  · simp [log, different.symm]

end Outcomes

section Schedules

variable {ι : Type} [DecidableEq ι]

/-- The calls of any number of requests, statement by statement, from one database. -/
def interleaved (php : Platform) (calls : ι → Booking) (db : Db) (schedule : List (ι × Bool)) :
    System ι (Connection Booking.Phase Db) (Store ι Db) :=
  run (advance fun i => (calls i).program php) (opened (fun _ => .begin) db) schedule

theorem accounts_interleaved (php : Platform) (calls : ι → Booking) (db : Db)
    (schedule : List (ι × Bool)) (j : ι) :
    Accounts j ((interleaved php calls db schedule).locals j)
      (interleaved php calls db schedule).shared := by
  have kept : Serializable (fun i => (calls i).program php) (fun _ => .begin) db
      (interleaved php calls db schedule) ∧
      ∀ j, Accounts j ((interleaved php calls db schedule).locals j)
        (interleaved php calls db schedule).shared :=
    run_keeps (P := fun s => Serializable (fun i => (calls i).program php) (fun _ => .begin) db s ∧
        ∀ j, Accounts j (s.locals j) s.shared)
      (fun turn s before => ⟨before.1.advance turn, fun j => ?_⟩)
      ⟨serializable_opened _ _ _, fun j => ⟨fun _ none => absurd none (by simp [opened]),
        by simp [Answered, opened]⟩⟩
      schedule
  · exact kept.2 j
  · have effect := advance_effect (fun i => (calls i).program php) turn s
    by_cases same : j = turn.1
    · rw [same]
      exact accounts_effect effect (before.2 turn.1)
    · rw [advance_other turn same]
      exact accounts_others effect (before.1.sound turn.1) (Ne.symm same) (before.2 j)

/-- Whatever the interleaving of the calls: no two committed appointments conflict; what
is committed is the outcome of the calls that answered with an appointment, each once
and one after the other; and every other call has left no trace. -/
theorem concurrent_bookings (php : Platform) (calls : ι → Booking) {db : Db}
    (apart : NoConflicts db) (schedule : List (ι × Bool)) :
    let s := interleaved php calls db schedule
    NoConflicts s.shared.committed ∧
      Serial (fun i before after => ∃ appointmentId,
        (calls i).statements php before = (.ok appointmentId, after))
        db s.shared.log s.shared.committed ∧
      s.shared.log.Nodup ∧ ∀ i, i ∈ s.shared.log ↔ Answered (s.locals i) := by
  have whole := serializable (fun i => (calls i).program php) (fun _ => .begin) db schedule
  have serial := whole.serial.imp fun i before after => Booking.commits_iff.mp
  refine ⟨serial.keeps (fun _ _ _ ⟨_, success⟩ => noConflicts_of_booked success) apart, serial,
    whole.once, fun i => ?_⟩
  exact (accounts_interleaved php calls db schedule i).answered.symm

/-- Two clients ask for the same free hour of the second stylist. -/
def sameHour (second : Bool) : Booking :=
  ⟨morning, .int (if second then 2 else 1), .int 2, .int 2, .str "2026-06-10", .str "11:00",
    .str "pre-booked"⟩

/-- Both look before either books. -/
def bothLook : List (Bool × Bool) :=
  [(false, true), (false, true), (false, true), (true, true), (true, true), (true, true),
    (true, true), (false, true), (true, true), (false, true), (false, true)]

theorem same_hour_booked_once :
    (interleaved recorded sameHour morningDb bothLook).shared.log = [true] ∧
    let s := interleaved recorded sameHour morningDb bothLook
    NoConflicts s.shared.committed ∧
      Serial (fun i before after => ∃ appointmentId,
        (sameHour i).statements recorded before = (.ok appointmentId, after))
        morningDb s.shared.log s.shared.committed ∧
      s.shared.log.Nodup ∧ ∀ i, i ∈ s.shared.log ↔ Answered (s.locals i) := by
  refine ⟨by decide +kernel, concurrent_bookings recorded sameHour (fun r rMember s sMember
    different rLive sLive conflicting => ?_) bothLook⟩
  exact (bookings_seed _ morning).apart r rMember s sMember different rLive sLive conflicting.2

end Schedules

end Saloon.Guarantees
