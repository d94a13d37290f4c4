import Saloon.Source.Controllers

/-!
# A booking on a database that fails

`createAppointment` (`controllers/AppointmentController.php:91-119`) with each of its
SQL statements open to failure: a locked or full database makes PDO throw. Where
nothing fails it is the action itself.
-/
namespace Saloon.Source

open Lib

/-- The statements of a booking request, in the order they are sent. -/
inductive BookingStatement where
  | findClient
  | insertClient
  | begin
  | loadDuration
  | countConflicts
  | insertAppointment
  | commit
  | rollBack

/-- The statements that fail. -/
abbrev Faults : Type := BookingStatement → Bool

def Faults.none : Faults := fun _ => false

def ioError : String := "SQLSTATE[HY000]: General error: 10 disk I/O error"

section Statements

variable {α : Type}

/-- A statement that throws where the database fails. -/
def failing (fails : Bool) (x : Sql α) : Sql α := if fails then raise ioError else x

/-- The same for what is sent over the connection itself. -/
def failingCall (fails : Bool) (x : Php α) : Php α := if fails then throwing ioError else x

def transactionUnder (faults : Faults) (body : Sql α) : Php α := do
  failingCall (faults .begin) beginTransaction
  catchException
    (do
      let a ← exec body
      failingCall (faults .commit) commit
      pure a)
    (fun message => do
      failingCall (faults .rollBack) rollBack
      throwing message)

end Statements

namespace Client

def findOrCreateUnder (faults : Faults) (clock : Clock) (name email phone : Val) : Sql Nat := do
  let found ← failing (faults .findClient) (.read fun db => db.clients.find? (reachedBy email phone))
  match found with
  | some r => pure r.id
  | none => failing (faults .insertClient) (create clock name email phone)

end Client

namespace Appointment

def createStatementsUnder (faults : Faults) (php : Platform) (clock : Clock)
    (clientId staffId serviceId date startTime clientType : Val) : Sql Nat := do
  let duration ← failing (faults .loadDuration) (.read (durationOf serviceId.key))
  if duration = 0 then raise "Service not found"
  else do
    let startTs := startTimestamp php clock date startTime
    let endTs := startTs + duration * 60
    if !isInt64 endTs then fatal "date(): Argument #2 ($timestamp) must be of type ?int"
    else do
      let conflictCount ← failing (faults .countConflicts) (.read fun db =>
        db.appointments.rows.countP
          (conflicts staffId.key date.key (dateHis startTs) (dateHis endTs)))
      if 0 < conflictCount then raise "Stylist is already booked for this time slot."
      else
        failing (faults .insertAppointment)
          (insert clock clientId staffId serviceId date (dateHis startTs) (dateHis endTs) clientType)

end Appointment

namespace AppointmentController

def createAppointmentUnder (faults : Faults) (env : Env) : Php Unit := do
  let body := env.getBody
  let clientName := body.fieldOr "client_name" (.str "")
  let clientEmail := body.fieldOr "client_email" (.str "")
  let clientPhone := body.fieldOr "client_phone" (.str "")
  let staffId := body.field "staff_id"
  let serviceId := body.field "service_id"
  let date := body.fieldOr "date" (.str "")
  let time := body.fieldOr "time" (.str "")
  let clientType := body.fieldOr "client_type" (.str "pre-booked")
  if clientName.empty || staffId.empty || serviceId.empty || date.empty || time.empty then
    json (errorBody "Missing required appointment fields") 400
  else
    attempt
      (do
        let clientId ← exec
          (Client.findOrCreateUnder faults env.clock clientName clientEmail clientPhone)
        transactionUnder faults
          (Appointment.createStatementsUnder faults env.php env.clock (.int clientId) staffId serviceId
            date time clientType))
      fun appointmentId => successBody "Appointment created successfully"
        [("appointment_id", insertedId appointmentId)]

/-- On a database that does not fail this is the action. -/
theorem createAppointmentUnder_none (env : Env) :
    createAppointmentUnder .none env = createAppointment env := rfl

end AppointmentController

section Specs

variable {α : Type} {faults : Faults} {s : Session}

/-- A failure before the transaction begins leaves the session as it is. -/
theorem transactionUnder_unbegun (body : Sql α) (fails : faults .begin = true) (s : Session) :
    transactionUnder faults body s = (.error (.thrown (.exception ioError)), s) := by
  simp only [transactionUnder, failingCall, fails, if_true]
  rfl

/-- A transaction that is not committed is undone, by the handler or with the session:
whether its body stopped, or its commit failed. -/
theorem transactionUnder_undone {body : Sql α} (idle : s.saved = none)
    (undone : (∃ why db, body s.db = (.error why, db)) ∨ faults .commit = true) :
    ∃ why t, transactionUnder faults body s = (.error (.thrown why), t) ∧ t.close = s.db := by
  rcases s with ⟨db, saved, user, signed⟩
  cases idle
  by_cases unbegun : faults .begin = true
  · exact ⟨_, _, transactionUnder_unbegun body unbegun _, rfl⟩
  · simp only [transactionUnder, failingCall, unbegun, beginTransaction, Prog.bind_run, exec_run,
      catchException, Bool.false_eq_true, if_false]
    rcases outcome : body db with ⟨(m | m) | a, after⟩
    · by_cases stuck : faults .rollBack = true
      · simp only [stuck, if_true]
        exact ⟨_, _, rfl, rfl⟩
      · simp only [stuck, Bool.false_eq_true, if_false]
        exact ⟨_, _, rfl, rfl⟩
    · exact ⟨_, _, rfl, rfl⟩
    · have fails : faults .commit = true := by
        rcases undone with ⟨why, other, stopped⟩ | fails
        · cases outcome.symm.trans stopped
        · exact fails
      simp only [fails, if_true]
      by_cases stuck : faults .rollBack = true
      · simp only [stuck, if_true]
        exact ⟨_, _, rfl, rfl⟩
      · simp only [stuck, Bool.false_eq_true, if_false]
        exact ⟨_, _, rfl, rfl⟩

/-- A transaction whose body returns and whose own calls do not fail is committed. -/
theorem transactionUnder_done {body : Sql α} {a : α} {db : Db} (idle : s.saved = none)
    (begun : faults .begin = false) (committed : faults .commit = false)
    (returned : body s.db = (.ok a, db)) :
    transactionUnder faults body s = (.ok a, { s with db }) := by
  rcases s with ⟨start, saved, user, signed⟩
  cases idle
  simp only [transactionUnder, failingCall, begun, committed, beginTransaction, commit,
    Prog.bind_run, exec_run, catchException, Bool.false_eq_true, if_false]
  simp only at returned
  rw [returned]
  rfl

/-- The statements of a booking that fail nowhere are those of `create`. -/
theorem Appointment.createStatementsUnder_sound (php : Platform) (clock : Clock)
    (clientId staffId serviceId date startTime clientType : Val)
    (sound : faults .loadDuration = false ∧ faults .countConflicts = false ∧
      faults .insertAppointment = false) :
    createStatementsUnder faults php clock clientId staffId serviceId date startTime clientType =
      createStatements php clock clientId staffId serviceId date startTime clientType := by
  simp only [createStatementsUnder, failing, sound, Bool.false_eq_true, if_false]
  rfl

/-- Where one of them fails the booking stops, there or before. -/
theorem Appointment.createStatementsUnder_stops (php : Platform) (clock : Clock)
    (clientId staffId serviceId date startTime clientType : Val) (db : Db)
    (fails : faults .loadDuration = true ∨ faults .countConflicts = true ∨
      faults .insertAppointment = true) :
    ∃ why after, createStatementsUnder faults php clock clientId staffId serviceId date startTime
      clientType db = (.error why, after) := by
  by_cases load : faults .loadDuration = true
  · rw [createStatementsUnder, failing, if_pos load]
    exact ⟨_, _, rfl⟩
  · rw [createStatementsUnder, failing, if_neg load, Prog.read_bind_run, Prog.ite_run]
    split
    · exact ⟨_, _, rfl⟩
    · rw [Prog.ite_run]
      split
      · exact ⟨_, _, rfl⟩
      · by_cases count : faults .countConflicts = true
        · rw [failing, if_pos count]
          exact ⟨_, _, rfl⟩
        · have last : faults .insertAppointment = true :=
            (fails.resolve_left load).resolve_left count
          rw [failing, if_neg count, Prog.read_bind_run, Prog.ite_run]
          split
          · exact ⟨_, _, rfl⟩
          · rw [failing, if_pos last]
            exact ⟨_, _, rfl⟩

end Specs

end Saloon.Source
