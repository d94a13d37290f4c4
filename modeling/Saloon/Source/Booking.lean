import Saloon.Lib.Transactions
import Saloon.Source.Appointment

/-!
# A booking, statement by statement

`Appointment::create` (`models/Appointment.php:52-111`) cut at the statements that
SQLite sees: a deferred BEGIN, the SELECT of the duration, the SELECT of the
conflicts, the INSERT and the COMMIT, or the ROLLBACK that an exception or the end
of the request makes.
-/
namespace Saloon.Source

open Lib

/-- One `create($clientId, $staffId, $serviceId, $date, $startTime, $clientType)`. -/
structure Booking where
  clock : Clock
  clientId : Val
  staffId : Val
  serviceId : Val
  date : Val
  startTime : Val
  clientType : Val

/-- What PDO throws when SQLite gives the write lock to no one or to another. -/
def databaseLocked : Thrown := .exception "SQLSTATE[HY000]: General error: 5 database is locked"

namespace Booking

inductive Phase where
  | begin
  /-- before the SELECT of the duration -/
  | load
  /-- before "Check for slot conflict" -/
  | check (duration : Int)
  /-- before the INSERT -/
  | insert (duration : Int)
  | commit (appointmentId : Nat)
  | rollBack (why : Thrown)
  | booked (appointmentId : Nat)
  | refused (why : Thrown)

variable (php : Platform) (b : Booking)

def startTs : Int := Appointment.startTimestamp php b.clock b.date b.startTime

def endTs (duration : Int) : Int := b.startTs php + duration * 60

/-- What the request does between the SELECT of the duration and the next statement. -/
def loaded (duration : Int) : Phase :=
  if duration = 0 then .rollBack (.exception "Service not found")
  else if !Appointment.isInt64 (b.endTs php duration) then
    .rollBack (.error "date(): Argument #2 ($timestamp) must be of type ?int")
  else .check duration

def conflictCount (duration : Int) (db : Db) : Nat :=
  db.appointments.rows.countP (Appointment.conflicts b.staffId.key b.date.key
    (dateHis (b.startTs php)) (dateHis (b.endTs php duration)))

def checked (duration : Int) (conflictCount : Nat) : Phase :=
  if 0 < conflictCount then .rollBack (.exception "Stylist is already booked for this time slot.")
  else .insert duration

def inserted (duration : Int) (db : Db) : Phase × Db :=
  match Appointment.insert b.clock b.clientId b.staffId b.serviceId b.date
    (dateHis (b.startTs php)) (dateHis (b.endTs php duration)) b.clientType db with
  | (.ok appointmentId, after) => (.commit appointmentId, after)
  | (.error why, after) => (.rollBack why, after)

def program : Phase → Statement Phase Db
  | .begin => .begin .load
  | .load => .select fun db => b.loaded php (Appointment.durationOf b.serviceId.key db)
  | .check duration => .select fun db => checked duration (b.conflictCount php duration db)
  | .insert duration => .write (b.inserted php duration) (.rollBack databaseLocked)
  | .commit appointmentId => .commit (.booked appointmentId)
  | .rollBack why => .rollBack (.refused why)
  | .booked _ => .done
  | .refused _ => .done

/-- The statements of the call, as one transaction. -/
def statements : Sql Nat :=
  Appointment.createStatements php b.clock b.clientId b.staffId b.serviceId b.date b.startTime
    b.clientType

section Specs

variable {php} {b} {db view after : Db}

/-- What a call knows of its snapshot where it stands. -/
def At (php : Platform) (b : Booking) (db : Db) : Phase → Db → Prop
  | .begin, view => view = db
  | .load, view => view = db
  | .check duration, view => view = db ∧ duration = Appointment.durationOf b.serviceId.key db ∧
      duration ≠ 0 ∧ Appointment.isInt64 (b.endTs php duration) = true
  | .insert duration, view => view = db ∧ duration = Appointment.durationOf b.serviceId.key db ∧
      duration ≠ 0 ∧ Appointment.isInt64 (b.endTs php duration) = true ∧
      b.conflictCount php duration db = 0
  | .commit appointmentId, view => b.statements php db = (.ok appointmentId, view)
  | _, _ => True

theorem statements_run (duration : Int) (loads : duration = Appointment.durationOf b.serviceId.key db)
    (known : duration ≠ 0) (fits : Appointment.isInt64 (b.endTs php duration) = true)
    (free : b.conflictCount php duration db = 0) :
    b.statements php db = Appointment.insert b.clock b.clientId b.staffId b.serviceId b.date
      (dateHis (b.startTs php)) (dateHis (b.endTs php duration)) b.clientType db := by
  subst loads
  exact Appointment.createStatements_run ⟨known, by simpa [endTs, startTs] using fits,
    List.countP_eq_zero.mp free⟩

theorem statements_eq_ok {appointmentId : Nat}
    (success : b.statements php db = (.ok appointmentId, after)) :
    Appointment.durationOf b.serviceId.key db ≠ 0 ∧
      Appointment.isInt64 (b.endTs php (Appointment.durationOf b.serviceId.key db)) = true ∧
      b.conflictCount php (Appointment.durationOf b.serviceId.key db) db = 0 ∧
      Appointment.insert b.clock b.clientId b.staffId b.serviceId b.date (dateHis (b.startTs php))
        (dateHis (b.endTs php (Appointment.durationOf b.serviceId.key db))) b.clientType db =
        (.ok appointmentId, after) := by
  have clears := Appointment.createStatements_clears success
  refine ⟨clears.known, by simpa [endTs, startTs] using clears.fits,
    List.countP_eq_zero.mpr clears.free, ?_⟩
  exact (Appointment.createStatements_run clears).symm.trans success

theorem at_of_reaches {phase : Phase} (reaches : Reaches (b.program php) .begin db phase view) :
    At php b db phase view := by
  induction reaches with
  | start => rfl
  | @begin phase next view before statement known =>
    cases phase <;> cases statement
    exact known
  | @select phase view next before statement known =>
    cases phase with
    | load =>
      cases statement
      obtain rfl : view = db := known
      simp only [loaded]
      split
      · trivial
      · split
        · trivial
        · rename_i nonzero fits
          exact ⟨rfl, rfl, nonzero, by simpa using fits⟩
    | check duration =>
      cases statement
      obtain ⟨rfl, loads, nonzero, fits⟩ := known
      simp only [checked]
      split
      · trivial
      · exact ⟨rfl, loads, nonzero, fits, by omega⟩
    | _ => cases statement
  | @write phase refused view next before statement known =>
    cases phase with
    | insert duration =>
      cases statement
      obtain ⟨rfl, loads, nonzero, fits, free⟩ := known
      have run := statements_run duration loads nonzero fits free
      simp only [inserted]
      split
      · rename_i outcome
        exact run.trans outcome
      · trivial
    | _ => cases statement
  | @refused phase refused view next before statement known =>
    cases phase with
    | insert duration =>
      cases statement
      trivial
    | _ => cases statement

/-- The call, uninterrupted, commits exactly what its statements make as one transaction. -/
theorem commits_iff : Commits (b.program php) .begin db after ↔
    ∃ appointmentId, b.statements php db = (.ok appointmentId, after) := by
  constructor
  · rintro ⟨phase, next, reaches, statement⟩
    have known := at_of_reaches reaches
    cases phase with
    | commit appointmentId => exact ⟨appointmentId, known⟩
    | _ => cases statement
  · rintro ⟨appointmentId, success⟩
    obtain ⟨nonzero, fits, free, inserts⟩ := statements_eq_ok success
    have load : Reaches (b.program php) .begin db .load db := .begin .start rfl
    have check : Reaches (b.program php) .begin db
        (b.loaded php (Appointment.durationOf b.serviceId.key db)) db := .select load rfl
    rw [loaded, if_neg nonzero, if_neg (by simp [fits])] at check
    have insert : Reaches (b.program php) .begin db (checked _ (b.conflictCount php _ db)) db :=
      .select check rfl
    rw [checked, if_neg (by omega)] at insert
    have commit : Reaches (b.program php) .begin db (b.inserted php _ db).1
        (b.inserted php _ db).2 := .write insert rfl
    simp only [inserted, inserts] at commit
    exact ⟨_, _, commit, rfl⟩

end Specs

end Booking

end Saloon.Source
