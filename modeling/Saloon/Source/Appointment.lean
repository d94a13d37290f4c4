import Saloon.Source.Invoice
import Saloon.Source.User

/-!
# Appointments

`models/Appointment.php:52-111` (`create`, booking a slot) and
`models/Appointment.php:113-153` (`updateStatus`, with the invoice that follows a
completion, `models/Invoice.php:159-193`). A status update is two transactions: the
checkout begins after the status is committed, inside the same `try`.
-/
namespace Saloon.Source

open Lib

namespace Appointment

/-- The rows that "Check for slot conflict" counts. -/
def conflicts (staffId date : SqlVal) (startTime endTime : String) (r : Row Appointment) : Bool :=
  (match r.cols.staffId with
    | some i => SqlVal.num i = staffId
    | none => false) &&
  r.cols.appointmentDate = date && r.cols.status ≠ "cancelled" &&
  (startTime < r.cols.endTime && r.cols.startTime < endTime)

/-- INSERT INTO appointments. -/
def insert (clock : Clock) (clientId staffId serviceId date : Val) (startTime endTime : String)
    (clientType : Val) : Sql Nat := fun db =>
  if date.key = .null then (.error (notNullFailed "appointments.appointment_date"), db)
  else
    match foreignKey db.clients clientId.key, foreignKey db.staff staffId.key,
      foreignKey db.services serviceId.key with
    | some client, some staff, some service =>
      (.ok db.appointments.nextId,
        db.setAppointments (db.appointments.insert
          { clientId := client
            staffId := staff
            serviceId := service
            appointmentDate := date.key
            startTime
            endTime
            status := "upcoming"
            clientType := clientType.strval
            createdAt := clock.now }))
    | _, _, _ => (.error foreignKeyFailed, db)

/-- `strtotime("$date $time")`; a text it cannot read counts as zero from here on. -/
def startTimestamp (php : Platform) (clock : Clock) (date time : Val) : Int :=
  (php.strtotime clock.time (date.strval ++ " " ++ time.strval)).getD 0

def isInt64 (n : Int) : Bool := -2 ^ 63 ≤ n && n < 2 ^ 63

/-- `SELECT duration_mins FROM services WHERE id = :id`; false without a row. -/
def durationOf (serviceId : SqlVal) (db : Db) : Int :=
  match lookup db.services serviceId with
  | some s => s.cols.durationMins
  | none => 0

def createStatements (php : Platform) (clock : Clock)
    (clientId staffId serviceId date startTime clientType : Val) : Sql Nat := do
  let duration ← .read (durationOf serviceId.key)
  if duration = 0 then raise "Service not found"
  else do
    let startTs := startTimestamp php clock date startTime
    let endTs := startTs + duration * 60
    -- past the integers the sum is a float that `date` does not take
    if !isInt64 endTs then fatal "date(): Argument #2 ($timestamp) must be of type ?int"
    else do
      let conflictCount ← .read fun db => db.appointments.rows.countP
        (conflicts staffId.key date.key (dateHis startTs) (dateHis endTs))
      if 0 < conflictCount then raise "Stylist is already booked for this time slot."
      else insert clock clientId staffId serviceId date (dateHis startTs) (dateHis endTs) clientType

def create (php : Platform) (clock : Clock)
    (clientId staffId serviceId date startTime clientType : Val) : Php Nat :=
  transaction (createStatements php clock clientId staffId serviceId date startTime clientType)

def setStatus (status : String) (a : Appointment) : Appointment := { a with status }

/-- "Sync staff availability based on status". -/
def staffStatus (status : Val) : String := if status.is "active" then "in_service" else "available"

/-- `SELECT staff_id FROM appointments WHERE id = :id`. -/
def assigned (id : SqlVal) (db : Db) : Option Nat :=
  (lookup db.appointments id).bind fun a => a.cols.staffId

/-- The statements of `updateStatus` before its commit. -/
def statusStatements (id status : Val) : Sql Unit := do
  let staffId ← .read (assigned id.key)
  match staffId with
  | none => raise "Appointment not found"
  | some staffId =>
    .update fun db =>
      db.setAppointments (db.appointments.modify (byId id.key) (setStatus status.strval))
    .update fun db =>
      db.setStaff (db.staff.modify (byId (.num staffId)) (.setStatus (staffStatus status)))

/-- `$loggedById ?: 1`. -/
def billedBy (loggedById : Val) : Val := if loggedById.truthy then loggedById else .int 1

def updateStatus (clock : Clock) (id status loggedById : Val) : Php Unit := do
  beginTransaction
  catchException
    (do
      exec (statusStatements id status)
      commit
      if status.is "completed" then
        Invoice.createFromCompletedAppointment clock id (billedBy loggedById))
    (fun message => do
      rollBack
      throwing message)

section Specs

/-- `a` is the row that a booking with these arguments may add to `db`. -/
structure Booked (php : Platform) (clock : Clock) (db : Db)
    (clientId staffId serviceId date startTime clientType : Val) (a : Appointment) : Prop where
  client : foreignKey db.clients clientId.key = some a.clientId
  staff : foreignKey db.staff staffId.key = some a.staffId
  service : foreignKey db.services serviceId.key = some a.serviceId
  duration : durationOf serviceId.key db ≠ 0
  day : a.appointmentDate = date.key
  begins : a.startTime = dateHis (startTimestamp php clock date startTime)
  ends : a.endTime =
    dateHis (startTimestamp php clock date startTime + durationOf serviceId.key db * 60)
  free : ∀ r ∈ db.appointments.rows, ¬ conflicts staffId.key date.key a.startTime a.endTime r
  status : a.status = "upcoming"

theorem insert_eq_ok {clock : Clock} {clientId staffId serviceId date clientType : Val}
    {startTime endTime : String} {appointmentId : Nat} {db after : Db}
    (success : insert clock clientId staffId serviceId date startTime endTime clientType db =
      (.ok appointmentId, after)) :
    ∃ client staff service, foreignKey db.clients clientId.key = some client ∧
      foreignKey db.staff staffId.key = some staff ∧
      foreignKey db.services serviceId.key = some service ∧
      after = db.setAppointments (db.appointments.insert
        ⟨client, staff, service, date.key, startTime, endTime, "upcoming", clientType.strval,
          clock.now⟩) := by
  unfold insert at success
  split at success
  · cases success
  · split at success
    · rename_i client staff service hClient hStaff hService
      cases success
      exact ⟨client, staff, service, hClient, hStaff, hService, rfl⟩
    · cases success

/-- What lets a booking get as far as its INSERT. -/
structure Clears (php : Platform) (clock : Clock) (db : Db)
    (staffId serviceId date startTime : Val) : Prop where
  known : durationOf serviceId.key db ≠ 0
  fits : isInt64 (startTimestamp php clock date startTime + durationOf serviceId.key db * 60) = true
  free : ∀ r ∈ db.appointments.rows, ¬ conflicts staffId.key date.key
    (dateHis (startTimestamp php clock date startTime))
    (dateHis (startTimestamp php clock date startTime + durationOf serviceId.key db * 60)) r

section Statements

variable {php : Platform} {clock : Clock} {clientId staffId serviceId date startTime clientType : Val}
  {appointmentId : Nat} {db after : Db}

theorem createStatements_run (clears : Clears php clock db staffId serviceId date startTime) :
    createStatements php clock clientId staffId serviceId date startTime clientType db =
      insert clock clientId staffId serviceId date (dateHis (startTimestamp php clock date startTime))
        (dateHis (startTimestamp php clock date startTime + durationOf serviceId.key db * 60))
        clientType db := by
  have fits : ¬ (!isInt64 (startTimestamp php clock date startTime +
      durationOf serviceId.key db * 60)) = true := by simpa using clears.fits
  have free : ¬ 0 < db.appointments.rows.countP (conflicts staffId.key date.key
      (dateHis (startTimestamp php clock date startTime))
      (dateHis (startTimestamp php clock date startTime + durationOf serviceId.key db * 60))) := by
    simpa [List.countP_eq_zero] using clears.free
  rw [createStatements, Prog.read_bind_run, Prog.ite_run, if_neg clears.known, Prog.ite_run,
    if_neg fits, Prog.read_bind_run, Prog.ite_run, if_neg free]

theorem createStatements_clears
    (success : createStatements php clock clientId staffId serviceId date startTime clientType db =
      (.ok appointmentId, after)) : Clears php clock db staffId serviceId date startTime := by
  rw [createStatements, Prog.read_bind_run, Prog.ite_run] at success
  split at success
  · cases success
  · rename_i known
    rw [Prog.ite_run] at success
    split at success
    · cases success
    · rename_i fits
      rw [Prog.read_bind_run, Prog.ite_run] at success
      split at success
      · cases success
      · rename_i free
        exact ⟨known, by simpa using fits, by simpa [List.countP_eq_zero] using free⟩

/-- A booking that went through found its slot free and is the one new row. -/
theorem createStatements_eq_ok
    (success : createStatements php clock clientId staffId serviceId date startTime clientType db =
      (.ok appointmentId, after)) :
    ∃ a, Booked php clock db clientId staffId serviceId date startTime clientType a ∧
      after = db.setAppointments (db.appointments.insert a) := by
  have clears := createStatements_clears success
  rw [createStatements_run clears] at success
  obtain ⟨client, staff, service, hClient, hStaff, hService, posted⟩ := insert_eq_ok success
  refine ⟨_, ⟨hClient, hStaff, hService, clears.known, rfl, rfl, rfl, ?_, rfl⟩, posted⟩
  exact clears.free

end Statements

/-- The database after the status transaction of an appointment of that staff member. -/
def mark (id status : Val) (staffId : Nat) (db : Db) : Db :=
  (db.setAppointments (db.appointments.modify (byId id.key) (setStatus status.strval))).setStaff
    (db.staff.modify (byId (.num staffId)) (.setStatus (staffStatus status)))

theorem statusStatements_run (id status : Val) (db : Db) :
    statusStatements id status db =
      match assigned id.key db with
      | none => (.error (.exception "Appointment not found"), db)
      | some staffId => (.ok (), mark id status staffId db) := by
  rw [statusStatements, Prog.read_bind_run]
  cases assigned id.key db <;> rfl

/-- The appointment that an update found. -/
theorem appointment_of_assigned {id : SqlVal} {staffId : Nat} {db : Db}
    (found : assigned id db = some staffId) :
    ∃ a ∈ db.appointments.rows, id = .num a.id ∧ a.cols.staffId = some staffId := by
  obtain ⟨a, hit, staff⟩ := Option.bind_eq_some_iff.mp found
  obtain ⟨member, key⟩ := lookup_eq_some.mp hit
  exact ⟨a, member, key, staff⟩

theorem assigned_mark (id status : Val) (staffId : Nat) (db : Db) :
    assigned id.key (mark id status staffId db) = assigned id.key db := by
  simp only [assigned, mark, Db.setStaff_appointments, Db.setAppointments_appointments,
    lookup_modify]
  cases lookup db.appointments id.key with
  | none => rfl
  | some a =>
    simp only [Option.map_some, Option.bind_some]
    split <;> rfl

/-- What is left to bill for an appointment: nothing once it has an invoice. -/
def toBill (id : SqlVal) (db : Db) : Option Invoice.Billable :=
  if Invoice.isInvoiced id db then none else Invoice.billable id db

theorem toBill_eq_some {id : SqlVal} {db : Db} {apt : Invoice.Billable} :
    toBill id db = some apt ↔
      Invoice.isInvoiced id db = false ∧ Invoice.billable id db = some apt := by
  unfold toBill
  by_cases already : Invoice.isInvoiced id db = true <;> simp [already]

/-- A status update leaves what any appointment is billed. -/
theorem billable_mark (k : SqlVal) (id status : Val) (staffId : Nat) (db : Db) :
    Invoice.billable k (mark id status staffId db) = Invoice.billable k db := by
  simp only [Invoice.billable, mark, Db.setStaff_appointments, Db.setStaff_services,
    Db.setAppointments_appointments, Db.setAppointments_services, lookup_modify]
  cases lookup db.appointments k with
  | none => rfl
  | some a =>
    simp only [Option.map_some, Option.bind_some]
    split <;> rfl

theorem toBill_mark (id status : Val) (staffId : Nat) (db : Db) :
    toBill id.key (mark id status staffId db) = toBill id.key db := by
  simp only [toBill, billable_mark]
  rfl

/-- The outcomes of the invoicing step outside any transaction. -/
theorem createFromCompletedAppointment_run (clock : Clock) (id loggedById : Val) (s : Session)
    (idle : s.saved = none) :
    Invoice.createFromCompletedAppointment clock id loggedById s =
      match toBill id.key s.db with
      | none => (.ok (), s)
      | some apt =>
        match Invoice.billStatements clock id loggedById apt s.db with
        | (.ok _, db) => (.ok (), { s with db })
        | (.error (.exception m), _) => (.error (.thrown (.exception m)), s)
        | (.error (.error m), db) =>
          (.error (.thrown (.error m)), { s with db, saved := some s.db }) := by
  rw [Invoice.createFromCompletedAppointment, exec_read_bind_run, toBill]
  by_cases already : Invoice.isInvoiced id.key s.db = true
  · rw [if_pos already, if_pos already]
    rfl
  · rw [if_neg already, if_neg already, exec_read_bind_run]
    cases Invoice.billable id.key s.db with
    | none => rfl
    | some apt =>
      dsimp only
      rw [Prog.bind_run, Invoice.billAppointment, Invoice.createCheckout,
        transaction_run _ s idle, Invoice.billStatements]
      rcases Invoice.checkoutStatements clock (.ofId apt.clientId) loggedById (.str "cash")
        (.list [apt.item]) id s.db with ⟨(m | m) | invoiceId, after⟩ <;> rfl

/-- An update of an appointment that is not there changes nothing. -/
theorem updateStatus_run_missing (clock : Clock) (id status loggedById : Val) (s : Session)
    (idle : s.saved = none) (missing : assigned id.key s.db = none) :
    updateStatus clock id status loggedById s =
      (.error (.thrown (.exception "Appointment not found")), s) := by
  rcases s with ⟨db, saved, user, signed⟩
  cases idle
  simp only [updateStatus, beginTransaction, Prog.bind_run, catchException, exec_run,
    statusStatements_run]
  rw [missing]
  rfl

/-- After the status is committed, the bill decides the outcome. -/
theorem updateStatus_run (clock : Clock) (id status loggedById : Val) (s : Session)
    (idle : s.saved = none) (staffId : Nat) (found : assigned id.key s.db = some staffId) :
    updateStatus clock id status loggedById s =
      if status.is "completed" then
        match toBill id.key (mark id status staffId s.db) with
        | none => (.ok (), { s with db := mark id status staffId s.db })
        | some apt =>
          match Invoice.billStatements clock id (billedBy loggedById) apt
              (mark id status staffId s.db) with
          | (.ok _, db) => (.ok (), { s with db })
          | (.error (.exception _), _) =>
            (.error (.thrown (.exception "There is no active transaction")),
              { s with db := mark id status staffId s.db })
          | (.error (.error m), db) =>
            (.error (.thrown (.error m)),
              { s with db, saved := some (mark id status staffId s.db) })
      else (.ok (), { s with db := mark id status staffId s.db }) := by
  rcases s with ⟨db, saved, user, signed⟩
  cases idle
  have marked : exec (statusStatements id status) ⟨db, some db, user, signed⟩ =
      (.ok (), ⟨mark id status staffId db, some db, user, signed⟩) := by
    rw [exec_run, statusStatements_run, found]
    rfl
  have body : updateStatus clock id status loggedById ⟨db, none, user, signed⟩ =
      catchException
        (if status.is "completed" then
          Invoice.createFromCompletedAppointment clock id (billedBy loggedById)
        else pure ())
        (fun message => do
          rollBack
          throwing message)
        ⟨mark id status staffId db, none, user, signed⟩ := by
    simp only [updateStatus, beginTransaction, Prog.bind_run, catchException, marked, commit]
  rw [body, catchException]
  by_cases completed : status.is "completed" = true
  · rw [if_pos completed, if_pos completed, createFromCompletedAppointment_run _ _ _ _ rfl]
    cases toBill id.key (mark id status staffId db) with
    | none => rfl
    | some apt =>
      dsimp only
      rcases Invoice.billStatements clock id (billedBy loggedById) apt
        (mark id status staffId db) with ⟨(m | m) | invoiceId, after⟩ <;> rfl
  · rw [if_neg completed, if_neg completed]
    rfl

section Outcomes

variable (clock : Clock) (id status loggedById : Val) (s : Session) {staffId : Nat}

/-- Nothing to bill: the update is its status transaction. -/
theorem updateStatus_marked (idle : s.saved = none) (found : assigned id.key s.db = some staffId)
    (settled : status.is "completed" = true → toBill id.key (mark id status staffId s.db) = none) :
    updateStatus clock id status loggedById s =
      (.ok (), { s with db := mark id status staffId s.db }) := by
  rw [updateStatus_run clock id status loggedById s idle staffId found]
  by_cases completed : status.is "completed" = true
  · rw [if_pos completed, settled completed]
  · rw [if_neg completed]

/-- A completion that is billed. -/
theorem updateStatus_billed {apt : Invoice.Billable} {invoiceId : Nat} {after : Db}
    (idle : s.saved = none) (found : assigned id.key s.db = some staffId)
    (completed : status.is "completed" = true)
    (pending : toBill id.key (mark id status staffId s.db) = some apt)
    (billed : Invoice.billStatements clock id (billedBy loggedById) apt
      (mark id status staffId s.db) = (.ok invoiceId, after)) :
    updateStatus clock id status loggedById s = (.ok (), { s with db := after }) := by
  rw [updateStatus_run clock id status loggedById s idle staffId found, if_pos completed, pending]
  dsimp only
  rw [billed]

/-- A completion whose bill fails: the status stays, and when the failure is an
exception there is no transaction left to roll back, which is the error reported. -/
theorem updateStatus_unbilled {apt : Invoice.Billable} {why : Thrown} {after : Db}
    (idle : s.saved = none) (found : assigned id.key s.db = some staffId)
    (completed : status.is "completed" = true)
    (pending : toBill id.key (mark id status staffId s.db) = some apt)
    (unbilled : Invoice.billStatements clock id (billedBy loggedById) apt
      (mark id status staffId s.db) = (.error why, after)) :
    ∃ thrown t, updateStatus clock id status loggedById s = (.error (.thrown thrown), t) ∧
      t.close = mark id status staffId s.db ∧ t.user = s.user ∧ t.signed = s.signed := by
  rw [updateStatus_run clock id status loggedById s idle staffId found, if_pos completed, pending]
  dsimp only
  rw [unbilled]
  cases why with
  | exception m => exact ⟨_, _, rfl, Session.close_of_idle idle, rfl, rfl⟩
  | error m => exact ⟨_, _, rfl, rfl, rfl, rfl⟩

/-- However the bill ends, appointments and staff are those of the status transaction. -/
theorem updateStatus_marks (idle : s.saved = none)
    (found : assigned id.key s.db = some staffId) :
    let after := (updateStatus clock id status loggedById s).2.close
    after.appointments = s.db.appointments.modify (byId id.key) (setStatus status.strval) ∧
      after.staff = s.db.staff.modify (byId (.num staffId)) (.setStatus (staffStatus status)) := by
  intro after
  have marked : ({ s with db := mark id status staffId s.db } : Session).close =
      mark id status staffId s.db := Session.close_of_idle idle
  by_cases completed : status.is "completed" = true
  · cases pending : toBill id.key (mark id status staffId s.db) with
    | none =>
      have result : after = mark id status staffId s.db := by
        show (updateStatus clock id status loggedById s).2.close = _
        rw [updateStatus_marked clock id status loggedById s idle found fun _ => pending, marked]
      rw [result]
      exact ⟨rfl, rfl⟩
    | some apt =>
      rcases billed : Invoice.billStatements clock id (billedBy loggedById) apt
        (mark id status staffId s.db) with ⟨why | invoiceId, final⟩
      · obtain ⟨thrown, t, outcome, ends, -⟩ := updateStatus_unbilled clock id status loggedById s
          idle found completed pending billed
        have result : after = mark id status staffId s.db := by
          show (updateStatus clock id status loggedById s).2.close = _
          rw [outcome, ends]
        rw [result]
        exact ⟨rfl, rfl⟩
      · have outcome := updateStatus_billed clock id status loggedById s idle found completed pending
          billed
        obtain ⟨sale, drawers, -, -, rfl⟩ := Invoice.checkoutStatements_eq_ok billed
        have result : after = sale.post clock drawers (mark id status staffId s.db) := by
          show (updateStatus clock id status loggedById s).2.close = _
          rw [outcome]
          exact Session.close_of_idle idle
        rw [result]
        exact ⟨rfl, rfl⟩
  · have result : after = mark id status staffId s.db := by
      show (updateStatus clock id status loggedById s).2.close = _
      rw [updateStatus_marked clock id status loggedById s idle found
        fun same => absurd same completed, marked]
    rw [result]
    exact ⟨rfl, rfl⟩

end Outcomes

end Specs

end Appointment

end Saloon.Source
