import Saloon.Guarantees.BookingRequests
import Saloon.Source.FailingBooking

/-!
# What a refused booking leaves behind

The client is found or added in a statement of its own, committed before the
booking's transaction begins. The transaction is undone when the booking is
refused or the database fails in it; a client that was added for it stays.
-/
namespace Saloon.Guarantees

open Lib Source

/-- The response to a booking request and the database after it, when the statements of
`faults` fail. -/
def bookUnder (php : Platform) (faults : Faults) (e : Event) (db : Db) : Response × Db :=
  let (result, s) := AppointmentController.createAppointmentUnder faults (e.env php) (.start db)
  (responseOf result, s.close)

/-- A booking that is refused behind its new client: by one of its checks, or by a failure
of the database in its transaction. -/
structure LeavesClient (php : Platform) (faults : Faults) (e : Event) (db : Db) : Prop where
  given : lacksFields e = false
  unknown : ∀ r ∈ db.clients.rows,
    Client.reachedBy (argOr e "client_email" (.str "")) (argOr e "client_phone" (.str "")) r = false
  entered : faults .findClient = false ∧ faults .insertClient = false
  refused : ¬ OfferedTo php e db ∨
    ∃ s ∈ [BookingStatement.begin, .loadDuration, .countConflicts, .insertAppointment, .commit],
      faults s = true

section Requests

variable {php : Platform} {faults : Faults} {e : Event} {db mid : Db} {clientId : Nat}

/-- Without failures it is the request as the API serves it. -/
theorem bookUnder_none (asked : AsksBooking e) :
    bookUnder php .none e db = ((serve php e db).response, (serve php e db).db) := by
  rw [bookUnder, AppointmentController.createAppointmentUnder_none, serve_response, serve_db,
    index_booking asked]

def clientUnder (faults : Faults) (e : Event) : Sql Nat :=
  Client.findOrCreateUnder faults e.clock (argOr e "client_name" (.str ""))
    (argOr e "client_email" (.str "")) (argOr e "client_phone" (.str ""))

def bookingUnder (php : Platform) (faults : Faults) (e : Event) (clientId : Nat) : Sql Nat :=
  Appointment.createStatementsUnder faults php e.clock (.int clientId) (arg e "staff_id")
    (arg e "service_id") (argOr e "date" (.str "")) (argOr e "time" (.str ""))
    (argOr e "client_type" (.str "pre-booked"))

theorem createAppointmentUnder_eq (php : Platform) (faults : Faults) (e : Event) :
    AppointmentController.createAppointmentUnder faults (e.env php) =
      if lacksFields e then json (errorBody "Missing required appointment fields") 400
      else
        attempt (exec (clientUnder faults e) >>= fun clientId =>
            transactionUnder faults (bookingUnder php faults e clientId))
          fun appointmentId => successBody "Appointment created successfully"
            [("appointment_id", insertedId appointmentId)] := rfl

theorem bookUnder_incomplete (lacks : lacksFields e = true) :
    (bookUnder php faults e db).2 = db := by
  rw [bookUnder, createAppointmentUnder_eq, Prog.ite_run, if_pos lacks]
  rfl

/-- A client that cannot be looked up or written ends the request where it began. -/
theorem bookUnder_unfound (given : lacksFields e = false) {message : String}
    (failed : clientUnder faults e db = (.error (.exception message), db)) :
    (bookUnder php faults e db).2 = db := by
  have unfound : exec (clientUnder faults e) (.start db) =
      (.error (.thrown (.exception message)), .start db) := by
    rw [exec_run, show (Session.start db).db = db from rfl, failed]
    rfl
  rw [bookUnder, createAppointmentUnder_eq, Prog.ite_run, if_neg (by simp [given]), attempt,
    catchException, Prog.bind_run, Prog.bind_of_error unfound]
  rfl

/-- Behind its client the request is the booking's transaction. -/
theorem bookUnder_tried (given : lacksFields e = false)
    (client : clientUnder faults e db = (.ok clientId, mid)) :
    bookUnder php faults e db =
      match transactionUnder faults (bookingUnder php faults e clientId) (.start mid) with
      | (.ok appointmentId, t) => (⟨200, some (successBody "Appointment created successfully"
          [("appointment_id", insertedId appointmentId)])⟩, t.close)
      | (.error (.thrown (.exception message)), t) => (⟨400, some (errorBody message)⟩, t.close)
      | (.error why, t) => (responseOf (.error why), t.close) := by
  have found : exec (clientUnder faults e) (.start db) = (.ok clientId, .start mid) := by
    rw [exec_run, show (Session.start db).db = db from rfl, client]
    rfl
  rw [bookUnder, createAppointmentUnder_eq, Prog.ite_run, if_neg (by simp [given]), attempt,
    catchException, Prog.bind_run, Prog.bind_of_ok found]
  rcases transactionUnder faults (bookingUnder php faults e clientId) (.start mid) with
    ⟨((m | m) | response) | appointmentId, t⟩ <;> rfl

/-- Refused or undone, it leaves the client it has. -/
theorem bookUnder_undone (given : lacksFields e = false)
    (client : clientUnder faults e db = (.ok clientId, mid))
    (undone : (∃ why after, bookingUnder php faults e clientId mid = (.error why, after)) ∨
      faults .begin = true ∨ faults .commit = true) :
    (bookUnder php faults e db).1.status ≠ 200 ∧ (bookUnder php faults e db).2 = mid := by
  have ended : ∃ why t, transactionUnder faults (bookingUnder php faults e clientId) (.start mid) =
      (.error (.thrown why), t) ∧ t.close = mid := by
    rcases undone with stopped | unbegun | uncommitted
    · exact transactionUnder_undone rfl (.inl stopped)
    · exact ⟨_, _, transactionUnder_unbegun _ unbegun _, rfl⟩
    · exact transactionUnder_undone rfl (.inr uncommitted)
  obtain ⟨why, t, ended, closed⟩ := ended
  rw [bookUnder_tried given client, ended]
  cases why with
  | exception message => exact ⟨show 400 ≠ 200 by decide, closed⟩
  | error message => exact ⟨show 500 ≠ 200 by decide, closed⟩

theorem bookUnder_done (given : lacksFields e = false)
    (client : clientUnder faults e db = (.ok clientId, mid)) {appointmentId : Nat} {after : Db}
    (booked : bookingUnder php faults e clientId mid = (.ok appointmentId, after))
    (begun : faults .begin = false) (committed : faults .commit = false) :
    (bookUnder php faults e db).1.status = 200 := by
  rw [bookUnder_tried given client, transactionUnder_done rfl begun committed booked]

/-- Answered with an error, it leaves the client it has. -/
theorem bookUnder_settled (given : lacksFields e = false)
    (client : clientUnder faults e db = (.ok clientId, mid))
    (refused : (bookUnder php faults e db).1.status ≠ 200) :
    (bookUnder php faults e db).2 = mid := by
  by_cases unbegun : faults .begin = true
  · exact (bookUnder_undone given client (.inr (.inl unbegun))).2
  by_cases uncommitted : faults .commit = true
  · exact (bookUnder_undone given client (.inr (.inr uncommitted))).2
  rcases outcome : bookingUnder php faults e clientId mid with ⟨why | appointmentId, after⟩
  · exact (bookUnder_undone given client (.inl ⟨why, after, outcome⟩)).2
  · exact absurd (bookUnder_done given client outcome (by simpa using unbegun)
      (by simpa using uncommitted)) refused

/-- What the client's statements do: fail, find one, or add one. -/
theorem clientUnder_cases (faults : Faults) (e : Event) (db : Db) :
    ((faults .findClient = true ∨ faults .insertClient = true) ∧
      ∃ message, clientUnder faults e db = (.error (.exception message), db)) ∨
    (∃ r ∈ db.clients.rows, Client.reachedBy (argOr e "client_email" (.str ""))
        (argOr e "client_phone" (.str "")) r = true ∧ clientUnder faults e db = (.ok r.id, db)) ∨
    ((∀ r ∈ db.clients.rows, Client.reachedBy (argOr e "client_email" (.str ""))
        (argOr e "client_phone" (.str "")) r = false) ∧
      (faults .findClient = false ∧ faults .insertClient = false) ∧
      ∃ c, clientUnder faults e db = (.ok db.clients.nextId, db.setClients (db.clients.insert c)) ∧
        clientOf e db = (.ok db.clients.nextId, db.setClients (db.clients.insert c))) := by
  rw [clientUnder, Client.findOrCreateUnder]
  by_cases find : faults .findClient = true
  · rw [failing, if_pos find]
    exact .inl ⟨.inl find, _, rfl⟩
  · rw [failing, if_neg find, Prog.read_bind_run, clientOf, Client.findOrCreate, Prog.read_bind_run]
    cases found : db.clients.find? (Client.reachedBy (argOr e "client_email" (.str ""))
        (argOr e "client_phone" (.str ""))) with
    | some r =>
      obtain ⟨member, reached⟩ := Table.mem_of_find? found
      exact .inr (.inl ⟨r, member, reached, rfl⟩)
    | none =>
      by_cases insert : faults .insertClient = true
      · dsimp only
        rw [failing, if_pos insert]
        exact .inl ⟨.inr insert, _, rfl⟩
      · dsimp only
        rw [failing, if_neg insert]
        exact .inr (.inr ⟨Table.find?_eq_none.mp found, ⟨by simpa using find, by simpa using insert⟩,
          _, rfl, rfl⟩)

/-- A booking whose own statements do not fail goes through where the salon can take it. -/
theorem bookingUnder_sound
    (sound : ∀ s ∈ [BookingStatement.begin, .loadDuration, .countConflicts, .insertAppointment,
      .commit], faults s = false) :
    bookingUnder php faults e clientId = bookingOf php e clientId :=
  Appointment.createStatementsUnder_sound _ _ _ _ _ _ _ _
    ⟨sound _ (by simp), sound _ (by simp), sound _ (by simp)⟩

/-- With a new client in, a refusal of the booking or a failure in it undoes just the rest. -/
theorem bookUnder_refused (given : lacksFields e = false)
    (client : clientUnder faults e db = (.ok clientId, mid))
    (known : clientOf e db = (.ok clientId, mid))
    (refused : ¬ OfferedTo php e db ∨
      ∃ s ∈ [BookingStatement.begin, .loadDuration, .countConflicts, .insertAppointment, .commit],
        faults s = true) :
    (bookUnder php faults e db).1.status ≠ 200 ∧ (bookUnder php faults e db).2 = mid := by
  refine bookUnder_undone given client ?_
  by_cases fails : ∃ s ∈ [BookingStatement.begin, .loadDuration, .countConflicts,
      .insertAppointment, .commit], faults s = true
  · simp only [List.mem_cons, List.not_mem_nil, or_false, exists_eq_or_imp, exists_eq_left] at fails
    rcases fails with fails | fails | fails | fails | fails
    · exact .inr (.inl fails)
    · exact .inl (Appointment.createStatementsUnder_stops _ _ _ _ _ _ _ _ _ (.inl fails))
    · exact .inl (Appointment.createStatementsUnder_stops _ _ _ _ _ _ _ _ _ (.inr (.inl fails)))
    · exact .inl (Appointment.createStatementsUnder_stops _ _ _ _ _ _ _ _ _ (.inr (.inr fails)))
    · exact .inr (.inr fails)
  · have sound : ∀ s ∈ [BookingStatement.begin, .loadDuration, .countConflicts, .insertAppointment,
        .commit], faults s = false := by
      intro s member
      rw [Bool.eq_false_iff]
      exact fun fault => fails ⟨s, member, fault⟩
    have full := refused.resolve_right fails
    rw [← booking_iff_offered known, ← bookingUnder_sound sound] at full
    rcases outcome : bookingUnder php faults e clientId mid with ⟨why | appointmentId, after⟩
    · exact .inl ⟨why, after, rfl⟩
    · exact absurd ⟨appointmentId, after, outcome⟩ full

/-- With nothing to refuse it, the booking goes through. -/
theorem bookUnder_accepted (given : lacksFields e = false)
    (client : clientUnder faults e db = (.ok clientId, mid))
    (known : clientOf e db = (.ok clientId, mid)) (offered : OfferedTo php e db)
    (sound : ∀ s ∈ [BookingStatement.begin, .loadDuration, .countConflicts, .insertAppointment,
      .commit], faults s = false) : (bookUnder php faults e db).1.status = 200 := by
  obtain ⟨appointmentId, after, booked⟩ := (booking_iff_offered known).mpr offered
  rw [← bookingUnder_sound sound] at booked
  exact bookUnder_done given client booked (sound _ (by simp)) (sound _ (by simp))

end Requests

/-- Whatever statements of a booking fail, and after every run: a refused booking leaves the
database as it was exactly when it is not refused behind a client that it has just added. -/
theorem no_trace_iff (php : Platform) (hash : String → String) (clock : Clock)
    (events : List Event) (faults : Faults) (e : Event) :
    ((bookUnder php faults e (afterRun php hash clock events)).1.status ≠ 200 →
      (bookUnder php faults e (afterRun php hash clock events)).2 = afterRun php hash clock events) ↔
      ¬ LeavesClient php faults e (afterRun php hash clock events) := by
  generalize afterRun php hash clock events = db
  by_cases lacks : lacksFields e = true
  · refine iff_of_true (fun _ => bookUnder_incomplete lacks) fun leaves => ?_
    rw [leaves.given] at lacks
    cases lacks
  have given : lacksFields e = false := by simpa using lacks
  rcases clientUnder_cases faults e db with ⟨fails, message, unfound⟩ | ⟨r, member, reached, found⟩ |
    ⟨unknown, entered, c, added, known⟩
  · refine iff_of_true (fun _ => bookUnder_unfound given unfound) fun leaves => ?_
    rcases fails with fails | fails
    · cases fails.symm.trans leaves.entered.1
    · cases fails.symm.trans leaves.entered.2
  · refine iff_of_true (fun refused => bookUnder_settled given found refused) fun leaves => ?_
    cases reached.symm.trans (leaves.unknown r member)
  · constructor
    · intro traceless leaves
      obtain ⟨refused, trace⟩ := bookUnder_refused given added known leaves.refused
      have same := congrArg Db.clients (trace.symm.trans (traceless refused))
      exact Table.insert_ne_self db.clients c same
    · intro clean refused
      by_cases offered : OfferedTo php e db
      · by_cases fails : ∃ s ∈ [BookingStatement.begin, .loadDuration, .countConflicts,
            .insertAppointment, .commit], faults s = true
        · exact absurd ⟨given, unknown, entered, .inr fails⟩ clean
        · refine absurd (bookUnder_accepted given added known offered fun s member => ?_) refused
          rw [Bool.eq_false_iff]
          exact fun fault => fails ⟨s, member, fault⟩
      · exact absurd ⟨given, unknown, entered, .inl offered⟩ clean

/-- A booking of a taken slot is refused with its client entered. -/
theorem refused_client_entered : ¬ ∀ events e, AsksBooking e →
    (serve recorded e (afterRun recorded (fun _ => adminHash) morning events)).response.status ≠ 200 →
      (serve recorded e (afterRun recorded (fun _ => adminHash) morning events)).db =
        afterRun recorded (fun _ => adminHash) morning events := by
  intro traceless
  have refused : (serve recorded bookEleven morningDb).response.status ≠ 200 := by decide +kernel
  have entered : (serve recorded bookEleven morningDb).db.clients.rows.length ≠
      morningDb.clients.rows.length := by decide +kernel
  have same := traceless [] bookEleven (.inl (by decide)) refused
  exact entered (congrArg (fun db => db.clients.rows.length) same)

end Saloon.Guarantees
