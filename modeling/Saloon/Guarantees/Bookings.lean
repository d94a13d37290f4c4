import Saloon.Guarantees.Privileges
import Saloon.Lib.Slots

/-!
# Appointments and double bookings

What a request does to the appointments: nothing, one booking into a slot that
was free, or one change of a status. Only the first of the two writers asks
whether the slot is free.
-/
namespace Saloon.Guarantees

open Lib Source

/-- The three things a request can do to the appointments. -/
inductive AppointmentChange (php : Platform) (e : Event) (db after : Db) : Prop
  | same (appointments : after.appointments = db.appointments)
  | booked {clientId : Nat} {mid : Db} (a : Appointment) (client : clientOf e db = (.ok clientId, mid))
      (named : (arg e "staff_id").empty = false)
      (booking : Appointment.Booked php e.clock mid (.int clientId) (arg e "staff_id")
        (arg e "service_id") (argOr e "date" (.str "")) (argOr e "time" (.str ""))
        (argOr e "client_type" (.str "pre-booked")) a)
      (result : after = mid.setAppointments (mid.appointments.insert a)) (asked : AsksBooking e)
  | marked {payload : Val} {staffId : Nat} (asked : Asks e "appointments_update" ["POST", "PUT"])
      (checked : Passes php e [.admin, .receptionist, .stylist] payload)
      (known : isStatus (statusOf e) = true)
      (found : Appointment.assigned (arg e "id").key db = some staffId)
      (appointments : after.appointments = db.appointments.modify (byId (arg e "id").key)
        (Appointment.setStatus (statusOf e).strval))
      (bill : (statusOf e).is "completed" = true →
        Invoice.isInvoiced (arg e "id").key after = true ∨ ∀ apt,
          Appointment.toBill (arg e "id").key
            (Appointment.mark (arg e "id") (statusOf e) staffId db) = some apt →
          ∀ invoiceId done, billOf e payload apt
            (Appointment.mark (arg e "id") (statusOf e) staffId db) ≠ (.ok invoiceId, done))

section Changes

variable {php : Platform} {e : Event} {user : Option Val} {db mid after : Db}

theorem client_appointments {clientId : Nat} (client : clientOf e db = (.ok clientId, mid)) :
    mid.appointments = db.appointments ∧ mid.staff = db.staff ∧ mid.services = db.services := by
  rcases client_frame client with rfl | ⟨c, rfl⟩
  · exact ⟨rfl, rfl, rfl⟩
  · exact ⟨rfl, rfl, rfl⟩

theorem isStatus_of_completed {status : Val} (completed : status.is "completed" = true) :
    isStatus status = true := by
  cases status with
  | str s =>
    obtain rfl : s = "completed" := by simpa [Val.is] using completed
    decide +kernel
  | _ => cases completed

/-- A bill that went through is an invoice of its appointment. -/
theorem isInvoiced_of_billed {id loggedById : Val} {apt : Invoice.Billable} {clock : Clock}
    {invoiceId : Nat} {staffId : Nat} (found : Appointment.assigned id.key db = some staffId)
    (billed : Invoice.billStatements clock id loggedById apt db = (.ok invoiceId, after)) :
    Invoice.isInvoiced id.key after = true := by
  obtain ⟨a, -, key, -⟩ := Appointment.appointment_of_assigned found
  obtain ⟨sale, drawers, -, charged, rfl⟩ := Invoice.checkoutStatements_eq_ok billed
  rw [key, Invoice.isInvoiced_iff]
  exact ⟨_, Table.mem_insert_self db.invoices (sale.invoice clock), charged.appointment_eq key⟩

theorem Served.appointment_cases (served : Served php e user db after) :
    AppointmentChange php e db after := by
  cases served with
  | nothing => exact .same rfl
  | register allowed known done asked =>
    obtain ⟨users, staff, rfl⟩ := User.registerStatements_frame done
    exact .same rfl
  | updateStaff allowed done asked =>
    obtain ⟨users, staff, rfl⟩ := User.updateStatements_frame done
    exact .same rfl
  | availability passed allowed known => exact .same rfl
  | addClient allowed asked => exact .same rfl
  | clientOnly asked client => exact .same (client_appointments client).1
  | book asked named client done =>
    obtain ⟨a, booking, rfl⟩ := Appointment.createStatements_eq_ok done
    exact .booked a client named booking rfl asked
  | mark asked checked passed allowed known found unbilled =>
    exact .marked asked checked known found rfl fun completed => .inr (unbilled completed)
  | complete asked checked passed allowed completed found pending billed =>
    refine .marked asked checked (isStatus_of_completed completed) found ?_ fun _ =>
      .inl (isInvoiced_of_billed ((Appointment.assigned_mark _ _ _ db).trans found) billed)
    obtain ⟨sale, drawers, -, -, rfl⟩ := Invoice.checkoutStatements_eq_ok billed
    rfl
  | addService allowed duration nonneg => exact .same rfl
  | updateService allowed duration nonneg => exact .same rfl
  | addProduct allowed asked => exact .same rfl
  | updateStock allowed => exact .same rfl
  | checkout asked checked passed allowed method items done =>
    obtain ⟨sale, drawers, -, -, rfl⟩ := Invoice.checkoutStatements_eq_ok done
    exact .same rfl
  | expense asked passed allowed positive done =>
    obtain ⟨loggedBy, drawers, -, -, rfl⟩ := Expense.createStatements_eq_ok done
    exact .same rfl
  | viewDrawer allowed =>
    obtain ⟨drawers, viewed⟩ := Reconciliation.getTodayStatus_frame e.clock db
    rw [viewed]
    exact .same rfl
  | closeDrawer passed allowed =>
    obtain ⟨drawers, closed⟩ := Reconciliation.closeDrawer_frame e.clock _ _ _ db
    rw [closeOf, closed]
    exact .same rfl

end Changes

section References

/-- The client, the staff member and the service of an appointment exist. -/
structure Referenced (db : Db) (a : Appointment) : Prop where
  client : ∃ r ∈ db.clients.rows, a.clientId = some r.id
  staff : ∃ r ∈ db.staff.rows, a.staffId = some r.id
  service : ∃ r ∈ db.services.rows, a.serviceId = some r.id

def ReferencesHold (db : Db) : Prop := ∀ a ∈ db.appointments.rows, Referenced db a.cols

variable {php : Platform} {e : Event} {user : Option Val} {db after : Db}

theorem Referenced.mono {a : Appointment} (rows : KeepsRows db after) (refs : Referenced db a) :
    Referenced after a := by
  obtain ⟨⟨c, cMember, client⟩, ⟨s, sMember, staff⟩, ⟨v, vMember, service⟩⟩ := refs
  obtain ⟨c', cMember', cSame⟩ := rows.clients.exists_id cMember
  obtain ⟨s', sMember', sSame⟩ := rows.staff.exists_id sMember
  obtain ⟨v', vMember', vSame⟩ := rows.services.exists_id vMember
  exact ⟨⟨c', cMember', cSame ▸ client⟩, ⟨s', sMember', sSame ▸ staff⟩,
    ⟨v', vMember', vSame ▸ service⟩⟩

theorem key_ne_null_of_not_empty {v : Val} (given : v.empty = false) : v.key ≠ .null := by
  intro null
  rw [key_eq_null.mp null] at given
  cases given

theorem key_ne_null_of_duration {serviceId : SqlVal}
    (duration : Appointment.durationOf serviceId db ≠ 0) : serviceId ≠ .null := by
  rintro rfl
  have missing : lookup db.services .null = none := lookup_eq_none.mpr fun r _ => by simp
  exact duration (by rw [Appointment.durationOf, missing])

theorem Served.references (served : Served php e user db after) (refs : ReferencesHold db) :
    ReferencesHold after := by
  have rows := served.writes.rows
  cases served.appointment_cases with
  | same appointments =>
    intro a member
    rw [appointments] at member
    exact (refs a member).mono rows
  | booked a client named booking result asked =>
    obtain ⟨appointments, -, -⟩ := client_appointments client
    intro b member
    rw [result] at member
    rcases Table.mem_insert.mp member with old | rfl
    · rw [appointments] at old
      exact (refs b old).mono rows
    · rw [result]
      exact ⟨exists_of_foreignKey booking.client (by simp [Val.key]),
        exists_of_foreignKey booking.staff (key_ne_null_of_not_empty named),
        exists_of_foreignKey booking.service (key_ne_null_of_duration booking.duration)⟩
  | marked asked checked known found appointments bill =>
    intro b member
    rw [appointments] at member
    obtain ⟨old, oldMember, rfl⟩ := Table.mem_modify.mp member
    obtain ⟨client, staff, service⟩ := (refs old oldMember).mono rows
    split <;> exact ⟨client, staff, service⟩

theorem references_seed (hash : String → String) (clock : Clock) :
    ReferencesHold (seed hash clock) := by
  intro a member
  rcases List.mem_cons.mp member with rfl | rest
  · exact ⟨⟨_, .head _, rfl⟩, ⟨_, .head _, rfl⟩,
      ⟨_, .tail _ (.tail _ (.tail _ (.tail _ (.tail _ (.head _))))), rfl⟩⟩
  · rw [List.mem_singleton.mp rest]
    exact ⟨⟨_, .tail _ (.head _), rfl⟩, ⟨_, .tail _ (.head _), rfl⟩, ⟨_, .tail _ (.head _), rfl⟩⟩

theorem references_hold (php : Platform) (hash : String → String) (clock : Clock)
    (events : List Event) : ReferencesHold (afterRun php hash clock events) :=
  afterRun_keeps references_seed (fun _ _ _ _ served => served.references) hash clock events

end References

section Slots

/-- The appointment takes its slot. -/
def occupies (a : Appointment) : Prop := a.status ≠ "cancelled"

def Overlaps (a b : Appointment) : Prop :=
  a.staffId = b.staffId ∧ a.appointmentDate = b.appointmentDate ∧
    a.startTime < b.endTime ∧ b.startTime < a.endTime

def NoDoubleBooking (db : Db) : Prop := Exclusive occupies Overlaps db.appointments

/-- A status update that makes a cancelled appointment take its slot again, which
another one took in the meantime. -/
def Reopens (php : Platform) (e : Event) (db : Db) : Prop :=
  Asks e "appointments_update" ["POST", "PUT"] ∧
    (∃ payload, Passes php e [.admin, .receptionist, .stylist] payload) ∧
    isStatus (statusOf e) = true ∧ (statusOf e).strval ≠ "cancelled" ∧
    ∃ a ∈ db.appointments.rows, (arg e "id").key = .num a.id ∧ a.cols.status = "cancelled" ∧
      ∃ b ∈ db.appointments.rows, b ≠ a ∧ occupies b.cols ∧ Overlaps a.cols b.cols

/-- The invariant behind the bookings. -/
structure BookingsHold (db : Db) : Prop where
  references : ReferencesHold db
  apart : NoDoubleBooking db

variable {php : Platform} {e : Event} {user : Option Val} {db after : Db}

theorem overlaps_symm (a b : Appointment) (overlaps : Overlaps a b) : Overlaps b a :=
  ⟨overlaps.1.symm, overlaps.2.1.symm, overlaps.2.2.2, overlaps.2.2.1⟩

/-- The conflict test of the booking code, for an appointment of a staff member. -/
theorem conflicts_iff {a : Appointment} {i : Nat} (staff : a.staffId = some i)
    (r : Row Appointment) :
    Appointment.conflicts (.num i) a.appointmentDate a.startTime a.endTime r = true ↔
      occupies r.cols ∧ Overlaps a r.cols := by
  rcases r with ⟨id, b⟩
  simp only [Appointment.conflicts, occupies, Overlaps, staff, Bool.and_eq_true, decide_eq_true_eq]
  cases b.staffId with
  | none => simp
  | some j =>
    simp only [decide_eq_true_eq, SqlVal.num.injEq, Nat.cast_inj, Option.some.injEq]
    constructor
    · rintro ⟨⟨⟨rfl, day⟩, live⟩, before, behind⟩
      exact ⟨live, rfl, day.symm, before, behind⟩
    · rintro ⟨live, rfl, day, before, behind⟩
      exact ⟨⟨⟨rfl, day.symm⟩, live⟩, before, behind⟩

theorem Served.apart (served : Served php e user db after) (closed : ¬ Reopens php e db)
    (apart : NoDoubleBooking db) : NoDoubleBooking after := by
  unfold NoDoubleBooking at apart ⊢
  cases served.appointment_cases with
  | same appointments => rwa [appointments]
  | booked a client named booking result asked =>
    obtain ⟨appointments, -, -⟩ := client_appointments client
    obtain ⟨s, -, staff⟩ := exists_of_foreignKey booking.staff (key_ne_null_of_not_empty named)
    have key : (arg e "staff_id").key = .num s.id :=
      (foreignKey_eq_some.mp (staff ▸ booking.staff)).1
    have free := booking.free
    rw [key, ← booking.day, appointments] at free
    rw [result, Db.setAppointments_appointments, appointments]
    refine apart.insert overlaps_symm fun r member live overlaps => ?_
    exact free r member ((conflicts_iff staff r).mpr ⟨live, overlaps⟩)
  | marked asked checked known found appointments bill =>
    rw [appointments]
    refine apart.modify overlaps_symm (fun r rMember s sMember rHit sHit => ?_)
      fun r member hit enters s sMember other live overlaps => ?_
    · have same : SqlVal.num r.id = .num s.id := (byId_iff.mp rHit).trans (byId_iff.mp sHit).symm
      exact db.appointments.eq_of_id_eq rMember sMember (by simpa using same)
    · by_cases was : r.cols.status = "cancelled"
      · exact closed ⟨asked, ⟨_, checked⟩, known, enters, r, member, (byId_iff.mp hit).symm, was, s,
          sMember, other, live, overlaps⟩
      · exact apart r member s sMember other.symm was live overlaps

/-- A status update of an appointment that is there marks it and its staff member. -/
theorem request_mark {payload : Val} {staffId : Nat}
    (asked : Asks e "appointments_update" ["POST", "PUT"])
    (checked : Passes php e [.admin, .receptionist, .stylist] payload)
    (known : isStatus (statusOf e) = true)
    (found : Appointment.assigned (arg e "id").key db = some staffId) :
    (request php e db).appointments = db.appointments.modify (byId (arg e "id").key)
      (Appointment.setStatus (statusOf e).strval) ∧
    (request php e db).staff = db.staff.modify (byId (.num staffId))
      (.setStatus (Appointment.staffStatus (statusOf e))) := by
  obtain ⟨a, member, key, -⟩ := Appointment.appointment_of_assigned found
  have named : (arg e "id").empty = false := by
    rw [Val.empty, truthy_of_key (db.appointments.ids_range a member).1 key]
    rfl
  rw [request, serve_statusUpdate asked checked named known]
  exact Appointment.updateStatus_marks _ _ _ _ (entered db payload) rfl found

theorem assigned_of_mem {id : SqlVal} {a : Row Appointment} {staffId : Nat}
    (member : a ∈ db.appointments.rows) (key : id = .num a.id)
    (staff : a.cols.staffId = some staffId) : Appointment.assigned id db = some staffId := by
  rw [Appointment.assigned, lookup_eq_some.mpr ⟨member, key⟩]
  exact staff

/-- In particular it sets the status of an appointment whose references exist. -/
theorem request_marks {payload : Val} {a : Row Appointment}
    (asked : Asks e "appointments_update" ["POST", "PUT"])
    (checked : Passes php e [.admin, .receptionist, .stylist] payload)
    (known : isStatus (statusOf e) = true) (member : a ∈ db.appointments.rows)
    (key : (arg e "id").key = .num a.id) (refs : ReferencesHold db) :
    (request php e db).appointments = db.appointments.modify (byId (arg e "id").key)
      (Appointment.setStatus (statusOf e).strval) := by
  obtain ⟨-, ⟨s, -, staff⟩, -⟩ := refs a member
  exact (request_mark asked checked known (assigned_of_mem member key staff)).1

/-- A reopened appointment and the one in its slot are both there afterwards. -/
theorem reopened_overlaps (reopens : Reopens php e db) (refs : ReferencesHold db) :
    ¬ NoDoubleBooking (request php e db) := by
  obtain ⟨asked, ⟨payload, checked⟩, known, reopened, a, aMember, key, was, b, bMember, other, live,
    overlaps⟩ := reopens
  have result := request_marks asked checked known aMember key refs
  intro apart
  rw [NoDoubleBooking, result] at apart
  have aHit : byId (arg e "id").key a = true := byId_iff.mpr key.symm
  have bMiss : byId (arg e "id").key b = false := by
    rw [Bool.eq_false_iff]
    intro bHit
    have same : SqlVal.num b.id = .num a.id := (byId_iff.mp bHit).trans key
    exact other (db.appointments.eq_of_id_eq bMember aMember (by simpa using same))
  have aThere : ⟨a.id, Appointment.setStatus (statusOf e).strval a.cols⟩ ∈
      (db.appointments.modify (byId (arg e "id").key)
        (Appointment.setStatus (statusOf e).strval)).rows :=
    Table.mem_modify.mpr ⟨a, aMember, by simp [aHit]⟩
  have bThere : b ∈ (db.appointments.modify (byId (arg e "id").key)
      (Appointment.setStatus (statusOf e).strval)).rows :=
    Table.mem_modify.mpr ⟨b, bMember, by simp [bMiss]⟩
  refine apart _ aThere b bThere (fun same => ?_) reopened live overlaps
  exact other (db.appointments.eq_of_id_eq bMember aMember (congrArg Row.id same).symm)

theorem bookings_seed (hash : String → String) (clock : Clock) : BookingsHold (seed hash clock) where
  references := references_seed hash clock
  apart r rMember s sMember different _ _ overlaps := by
    have staff := overlaps.1
    rcases List.mem_cons.mp rMember with rfl | rMember <;>
      rcases List.mem_cons.mp sMember with rfl | sMember
    · exact different rfl
    · rw [List.mem_singleton.mp sMember] at staff
      cases staff
    · rw [List.mem_singleton.mp rMember] at staff
      cases staff
    · exact different ((List.mem_singleton.mp rMember).trans (List.mem_singleton.mp sMember).symm)

end Slots

/-- No state of a run has a double booking exactly when no status update of the run
reopens a cancelled appointment whose slot is taken. -/
theorem no_double_booking_iff (php : Platform) (hash : String → String) (clock : Clock)
    (events : List Event) :
    (∀ first, first <+: events → NoDoubleBooking (afterRun php hash clock first)) ↔
      Along (request php) (fun e db => ¬ Reopens php e db) (seed hash clock) events :=
  always_iff_along (fun _ => BookingsHold.apart)
    (fun e db closed holds =>
      ⟨(serve_served php e db).references holds.references,
        (serve_served php e db).apart closed holds.apart⟩)
    (fun _ _ reopens holds => reopened_overlaps (not_not.mp reopens) holds.references)
    (bookings_seed hash clock) events

def cancelFirst : Event := adminRequest "appointments_update" "POST"
  [("id", .int 1), ("status", .str "cancelled")]

/-- A haircut by the same stylist within the slot of the first appointment. -/
def bookEleven : Event := adminRequest "appointments" "POST"
  [("client_name", .str "Jane Roe"), ("staff_id", .int 1), ("service_id", .int 2),
    ("date", .str "2026-06-10"), ("time", .str "11:00")]

def reopenFirst : Event := adminRequest "appointments_update" "POST"
  [("id", .int 1), ("status", .str "upcoming")]

/-- An appointment is cancelled, its slot booked again, and the appointment reopened. -/
theorem reopened_slot :
    ¬ ∀ events, NoDoubleBooking (afterRun recorded (fun _ => adminHash) morning events) := by
  intro apart
  have overlapping : ∃ r ∈ (afterRun recorded (fun _ => adminHash) morning
      [cancelFirst, bookEleven, reopenFirst]).appointments.rows,
      ∃ s ∈ (afterRun recorded (fun _ => adminHash) morning
        [cancelFirst, bookEleven, reopenFirst]).appointments.rows,
      r ≠ s ∧ r.cols.status ≠ "cancelled" ∧ s.cols.status ≠ "cancelled" ∧
        r.cols.staffId = s.cols.staffId ∧ r.cols.appointmentDate = s.cols.appointmentDate ∧
        r.cols.startTime < s.cols.endTime ∧ s.cols.startTime < r.cols.endTime := by decide +kernel
  obtain ⟨r, rMember, s, sMember, different, rLive, sLive, overlaps⟩ := overlapping
  exact apart _ r rMember s sMember different rLive sLive overlaps

end Saloon.Guarantees
