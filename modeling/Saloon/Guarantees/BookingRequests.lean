import Saloon.Guarantees.Bookings
import Saloon.Source.TimeOfDay

/-!
# What a booking request answers

A booking goes through exactly when its service, staff and client exist, its
end is a time stamp and its slot is free. The request around it finds or adds
the client first, in a statement of its own.
-/
namespace Saloon.Guarantees

open Lib Source

/-- The salon can take a booking of this service with this staff member at this time. -/
structure Offered (php : Platform) (clock : Clock) (db : Db)
    (staffId serviceId date startTime : Val) : Prop where
  staff : ∃ staff, foreignKey db.staff staffId.key = some staff
  service : Appointment.durationOf serviceId.key db ≠ 0
  day : date.key ≠ .null
  fits : Appointment.isInt64 (Appointment.startTimestamp php clock date startTime +
    Appointment.durationOf serviceId.key db * 60) = true
  free : ∀ r ∈ db.appointments.rows, ¬ Appointment.conflicts staffId.key date.key
    (dateHis (Appointment.startTimestamp php clock date startTime))
    (dateHis (Appointment.startTimestamp php clock date startTime +
      Appointment.durationOf serviceId.key db * 60)) r

/-- No check of the booking refuses these arguments. -/
structure Bookable (php : Platform) (clock : Clock) (db : Db)
    (clientId staffId serviceId date startTime : Val) : Prop extends
    Offered php clock db staffId serviceId date startTime where
  client : ∃ client, foreignKey db.clients clientId.key = some client

section Model

variable {php : Platform} {clock : Clock} {db after : Db}
  {clientId staffId serviceId date startTime clientType : Val}

/-- A service with a duration is a row, and a key into the services. -/
theorem service_of_duration {k : SqlVal} (known : Appointment.durationOf k db ≠ 0) :
    ∃ r ∈ db.services.rows, k = .num r.id ∧ r.cols.durationMins = Appointment.durationOf k db ∧
      foreignKey db.services k = some (some r.id) := by
  unfold Appointment.durationOf at known ⊢
  cases found : lookup db.services k with
  | none =>
    rw [found] at known
    exact absurd rfl known
  | some r =>
    obtain ⟨member, rfl⟩ := lookup_eq_some.mp found
    exact ⟨r, member, rfl, rfl, foreignKey_eq_some.mpr ⟨rfl, r, member, rfl⟩⟩

theorem bookable_of_created {appointmentId : Nat}
    (success : Appointment.createStatements php clock clientId staffId serviceId date startTime
      clientType db = (.ok appointmentId, after)) :
    Bookable php clock db clientId staffId serviceId date startTime := by
  have clears := Appointment.createStatements_clears success
  rw [Appointment.createStatements_run clears] at success
  obtain ⟨client, staff, service, hClient, hStaff, -, -⟩ := Appointment.insert_eq_ok success
  refine ⟨⟨⟨staff, hStaff⟩, clears.known, ?_, clears.fits, clears.free⟩, ⟨client, hClient⟩⟩
  intro null
  rw [Appointment.insert, if_pos null] at success
  cases success

theorem created_of_bookable (clientType : Val)
    (bookable : Bookable php clock db clientId staffId serviceId date startTime) :
    ∃ a, Appointment.createStatements php clock clientId staffId serviceId date startTime clientType
      db = (.ok db.appointments.nextId, db.setAppointments (db.appointments.insert a)) := by
  obtain ⟨⟨⟨staff, hStaff⟩, known, day, fits, free⟩, client, hClient⟩ := bookable
  obtain ⟨service, -, -, -, hService⟩ := service_of_duration known
  rw [Appointment.createStatements_run ⟨known, fits, free⟩, Appointment.insert, if_neg day, hClient,
    hStaff, hService]
  exact ⟨_, rfl⟩

/-- The booking goes through exactly when nothing refuses it. -/
theorem created_iff_bookable (clientType : Val) :
    (∃ appointmentId after, Appointment.createStatements php clock clientId staffId serviceId date
      startTime clientType db = (.ok appointmentId, after)) ↔
      Bookable php clock db clientId staffId serviceId date startTime := by
  constructor
  · rintro ⟨appointmentId, after, success⟩
    exact bookable_of_created success
  · intro bookable
    obtain ⟨a, created⟩ := created_of_bookable clientType bookable
    exact ⟨_, _, created⟩

end Model

section Requests

/-- "Missing required appointment fields". -/
def lacksFields (e : Event) : Bool :=
  (argOr e "client_name" (.str "")).empty || (arg e "staff_id").empty ||
    (arg e "service_id").empty || (argOr e "date" (.str "")).empty ||
    (argOr e "time" (.str "")).empty

/-- The salon can take the booking that the request asks for. -/
def OfferedTo (php : Platform) (e : Event) (db : Db) : Prop :=
  Offered php e.clock db (arg e "staff_id") (arg e "service_id") (argOr e "date" (.str ""))
    (argOr e "time" (.str ""))

/-- How a booking request can end: the client is found or added before the booking is
tried, and stays when it is refused. -/
inductive BookingOutcome (php : Platform) (e : Event) (db : Db) (response : Response) : Db → Prop
  | incomplete (lacks : lacksFields e = true) (answer : response.status = 400) :
      BookingOutcome php e db response db
  | booked {clientId : Nat} {mid : Db} {a : Appointment} (given : lacksFields e = false)
      (client : clientOf e db = (.ok clientId, mid)) (offered : OfferedTo php e db)
      (booking : Appointment.Booked php e.clock mid (.int clientId) (arg e "staff_id")
        (arg e "service_id") (argOr e "date" (.str "")) (argOr e "time" (.str ""))
        (argOr e "client_type" (.str "pre-booked")) a) (answer : response.status = 200) :
      BookingOutcome php e db response (mid.setAppointments (mid.appointments.insert a))
  | refused {clientId : Nat} {mid : Db} (given : lacksFields e = false)
      (client : clientOf e db = (.ok clientId, mid)) (full : ¬ OfferedTo php e db)
      (answer : response.status ≠ 200) : BookingOutcome php e db response mid

variable {php : Platform} {e : Event} {db mid after : Db} {clientId : Nat}

/-- The client of a booking is in the database that the booking starts from. -/
theorem client_known (client : clientOf e db = (.ok clientId, mid)) :
    foreignKey mid.clients (Val.int clientId).key = some (some clientId) := by
  have present : ∃ r ∈ mid.clients.rows, r.id = clientId := by
    rcases Client.findOrCreate_run e.clock (argOr e "client_name" (.str ""))
      (argOr e "client_email" (.str "")) (argOr e "client_phone" (.str "")) db with
      ⟨r, member, -, outcome⟩ | ⟨-, outcome⟩
    · cases client.symm.trans outcome
      exact ⟨r, member, rfl⟩
    · cases client.symm.trans outcome
      exact ⟨_, Table.mem_insert_self _ _, rfl⟩
  exact foreignKey_eq_some.mpr ⟨by simp [Val.key], present⟩

/-- The client makes no difference to what the salon can take. -/
theorem offered_congr {staffId serviceId date startTime : Val}
    (client : clientOf e db = (.ok clientId, mid)) :
    Offered php e.clock mid staffId serviceId date startTime ↔
      Offered php e.clock db staffId serviceId date startTime := by
  rcases client_frame client with rfl | ⟨c, rfl⟩
  · rfl
  · exact ⟨fun ⟨staff, service, day, fits, free⟩ => ⟨staff, service, day, fits, free⟩,
      fun ⟨staff, service, day, fits, free⟩ => ⟨staff, service, day, fits, free⟩⟩

theorem booking_iff_offered (client : clientOf e db = (.ok clientId, mid)) :
    (∃ appointmentId after, bookingOf php e clientId mid = (.ok appointmentId, after)) ↔
      OfferedTo php e db := by
  rw [OfferedTo, ← offered_congr client]
  refine (created_iff_bookable _).trans ⟨Bookable.toOffered, fun offered => ⟨offered, ?_⟩⟩
  exact ⟨_, client_known client⟩

/-- The action with its model calls named. -/
theorem createAppointment_eq (php : Platform) (e : Event) :
    AppointmentController.createAppointment (e.env php) =
      if lacksFields e then json (errorBody "Missing required appointment fields") 400
      else
        attempt (exec (clientOf e) >>= fun clientId => transaction (bookingOf php e clientId))
          fun appointmentId => successBody "Appointment created successfully"
            [("appointment_id", insertedId appointmentId)] := rfl

theorem booking_outcome (asked : AsksBooking e) :
    BookingOutcome php e db (serve php e db).response (serve php e db).db := by
  rw [serve_response, serve_db, index_booking asked, createAppointment_eq, Prog.ite_run]
  by_cases lacks : lacksFields e = true
  · rw [if_pos lacks]
    exact .incomplete lacks rfl
  · have given : lacksFields e = false := by simpa using lacks
    obtain ⟨clientId, mid, client⟩ : ∃ clientId mid, clientOf e db = (.ok clientId, mid) := by
      rcases Client.findOrCreate_run e.clock (argOr e "client_name" (.str ""))
        (argOr e "client_email" (.str "")) (argOr e "client_phone" (.str "")) db with
        ⟨r, -, -, outcome⟩ | ⟨-, outcome⟩
      · exact ⟨_, _, outcome⟩
      · exact ⟨_, _, outcome⟩
    have found : exec (clientOf e) (.start db) = (.ok clientId, .start mid) := by
      rw [exec_run, show (Session.start db).db = db from rfl, client]
      rfl
    rw [if_neg lacks, attempt, catchException, Prog.bind_run, Prog.bind_of_ok found,
      transaction_run _ _ rfl]
    have full (why : Thrown) (after : Db)
        (failed : bookingOf php e clientId mid = (.error why, after)) : ¬ OfferedTo php e db := by
      rw [← booking_iff_offered client, failed]
      rintro ⟨_, _, ⟨⟩⟩
    rcases outcome : bookingOf php e clientId mid with ⟨(m | m) | appointmentId, after⟩
    · simp only [Session.start, outcome]
      exact .refused given client (full _ _ outcome) (show 400 ≠ 200 by decide)
    · simp only [Session.start, outcome]
      exact .refused given client (full _ _ outcome) (show 500 ≠ 200 by decide)
    · obtain ⟨a, booking, rfl⟩ := Appointment.createStatements_eq_ok outcome
      simp only [Session.start, outcome]
      exact .booked given client ((booking_iff_offered client).mp ⟨_, _, outcome⟩) booking rfl

end Requests

end Saloon.Guarantees
