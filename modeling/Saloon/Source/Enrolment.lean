import Saloon.Lib.Interleave
import Saloon.Source.Controllers

/-!
# Entering a client, statement by statement

Two requests write clients: a booking (`controllers/AppointmentController.php:91-119`),
which looks for the client first, and the form at the desk
(`controllers/ClientController.php:20-42`), which does not. `findOrCreate`
(`models/Client.php:21-30`) is outside any transaction: its SELECT and its INSERT are
two statements in autocommit, and the appointment's transaction comes after them.
-/
namespace Saloon.Source

open Lib

/-- One `createAppointment` or `addClient`. -/
inductive Enrolment where
  | booking (env : Env)
  | addClient (env : Env)

namespace Enrolment

/-- Where a request is. -/
inductive Phase where
  | begin
  /-- after a lookup that found no one, before the INSERT of the client -/
  | create
  /-- before the transaction of the appointment -/
  | book (clientId : Nat)
  | done

def env : Enrolment → Env
  | .booking env => env
  | .addClient env => env

def name : Enrolment → Val
  | .booking env => env.getBody.fieldOr "client_name" (.str "")
  | .addClient env => env.getBody.fieldOr "name" (.str "")

def email : Enrolment → Val
  | .booking env => env.getBody.fieldOr "client_email" (.str "")
  | .addClient env => env.getBody.fieldOr "email" (.str "")

def phone : Enrolment → Val
  | .booking env => env.getBody.fieldOr "client_phone" (.str "")
  | .addClient env => env.getBody.fieldOr "phone" (.str "")

/-- The INSERT of the request's client. -/
def createClient (r : Enrolment) : Sql Nat := Client.create r.env.clock r.name r.email r.phone

/-- "Missing required appointment fields". -/
def missing (env : Env) : Bool :=
  let body := env.getBody
  (body.fieldOr "client_name" (.str "")).empty || (body.field "staff_id").empty ||
    (body.field "service_id").empty || (body.fieldOr "date" (.str "")).empty ||
    (body.fieldOr "time" (.str "")).empty

def bookStatements (env : Env) (clientId : Nat) : Sql Nat :=
  let body := env.getBody
  Appointment.createStatements env.php env.clock (.int clientId) (body.field "staff_id")
    (body.field "service_id") (body.fieldOr "date" (.str "")) (body.fieldOr "time" (.str ""))
    (body.fieldOr "client_type" (.str "pre-booked"))

/-- The desk's form passes the middleware and names a client. -/
def admitted (env : Env) : Bool :=
  match AuthMiddleware.check env.php env.clock env.headers [.admin, .receptionist] with
  | .ok _ => !(env.getBody.fieldOr "name" (.str "")).empty
  | .error _ => false

/-- The next transaction, or autocommit statement. -/
def act (r : Enrolment) (phase : Phase) (db : Db) : Phase × Db :=
  match r, phase with
  | .booking env, .begin =>
    if missing env then (.done, db)
    else
      match db.clients.find? (Client.reachedBy r.email r.phone) with
      | some found => (.book found.id, db)
      | none => (.create, db)
  | .booking _, .create =>
    match r.createClient db with
    | (.ok clientId, after) => (.book clientId, after)
    | (.error _, after) => (.done, after)
  | .booking env, .book clientId =>
    match bookStatements env clientId db with
    | (.ok _, after) => (.done, after)
    | (.error _, _) => (.done, db)
  | .addClient env, .begin => (.done, if admitted env then (r.createClient db).2 else db)
  | .addClient _, .create => (.done, db)
  | .addClient _, .book _ => (.done, db)
  | _, .done => (.done, db)

/-- The controller's action, from its first line to its last. -/
def request : Enrolment → Php Unit
  | .booking env => AppointmentController.createAppointment env
  | .addClient env => ClientController.addClient env

section Specs

variable {r : Enrolment} {db : Db}

/-- The row that the request inserts, if it comes to that. -/
def client (r : Enrolment) : Client where
  name := r.name.strval
  email := r.email.strval
  phone := r.phone.strval
  totalSpent := 0
  lastVisit := .null
  createdAt := r.env.clock.now

/-- The next statement is the INSERT of the client. -/
def Inserts : Enrolment → Phase → Prop
  | .booking _, .create => True
  | .addClient env, .begin => admitted env = true
  | _, _ => False

theorem phase_of_inserts {phase : Phase} (inserts : Inserts r phase) :
    phase = .begin ∨ phase = .create := by
  cases r <;> cases phase
  case booking.create => exact .inr rfl
  case addClient.begin => exact .inl rfl
  all_goals exact inserts.elim

theorem createClient_eq (r : Enrolment) (db : Db) :
    r.createClient db = (.ok db.clients.nextId, db.setClients (db.clients.insert r.client)) := rfl

/-- A request's statements change the clients by one row, or not at all. -/
theorem act_clients (r : Enrolment) (phase : Phase) (db : Db) :
    (Inserts r phase ∧ (r.act phase db).2.clients = db.clients.insert r.client) ∨
      (¬ Inserts r phase ∧ (r.act phase db).2.clients = db.clients) := by
  cases r with
  | booking env =>
    cases phase with
    | begin =>
      refine .inr ⟨id, ?_⟩
      simp only [act]
      split
      · rfl
      · split <;> rfl
    | create => exact .inl ⟨trivial, rfl⟩
    | book clientId =>
      refine .inr ⟨id, ?_⟩
      simp only [act]
      split
      · rename_i after booked
        obtain ⟨a, -, rfl⟩ := Appointment.createStatements_eq_ok booked
        rfl
      · rfl
    | done => exact .inr ⟨id, rfl⟩
  | addClient env =>
    cases phase with
    | begin =>
      by_cases passes : admitted env = true
      · exact .inl ⟨passes, by simp only [act, if_pos passes]; rfl⟩
      · exact .inr ⟨passes, by simp only [act, if_neg passes]⟩
    | create => exact .inr ⟨id, rfl⟩
    | book clientId => exact .inr ⟨id, rfl⟩
    | done => exact .inr ⟨id, rfl⟩

/-- A request comes before its INSERT only by a lookup that finds no one. -/
theorem act_eq_create {phase : Phase} (next : (r.act phase db).1 = .create) :
    phase = .begin ∧ (r.act phase db).2 = db ∧
      ∀ c ∈ db.clients.rows, Client.reachedBy r.email r.phone c = false := by
  cases r with
  | booking env =>
    cases phase with
    | begin =>
      simp only [act] at next ⊢
      split
      · rename_i unnamed
        rw [if_pos unnamed] at next
        cases next
      · rename_i given
        rw [if_neg given] at next
        split
        · rename_i found known
          rw [known] at next
          cases next
        · rename_i unknown
          exact ⟨trivial, rfl, Table.find?_eq_none.mp unknown⟩
    | create => cases next
    | book clientId =>
      simp only [act] at next
      split at next <;> cases next
    | done => cases next
  | addClient env => cases phase <;> cases next

/-- The steps of a request that nothing interrupts. -/
def alone (r : Enrolment) : Nat → Phase → Db → Db
  | 0, _, db => db
  | n + 1, phase, db => alone r n (r.act phase db).1 (r.act phase db).2

/-- The action of a booking, with its model calls named. -/
theorem request_booking (env : Env) :
    (booking env).request =
      if missing env then json (errorBody "Missing required appointment fields") 400
      else
        attempt
          (exec (Client.findOrCreate env.clock (booking env).name (booking env).email
              (booking env).phone) >>= fun clientId => transaction (bookStatements env clientId))
          fun appointmentId => successBody "Appointment created successfully"
            [("appointment_id", insertedId appointmentId)] := rfl

theorem alone_done (r : Enrolment) (n : Nat) (db : Db) : r.alone n .done db = db := by
  induction n with
  | zero => rfl
  | succ n ih => cases r <;> exact ih

theorem alone_book (env : Env) (n clientId : Nat) (s : Session) (idle : s.saved = none) :
    (booking env).alone (n + 1) (.book clientId) s.db =
      (transaction (bookStatements env clientId) s).2.close := by
  rw [transaction_run _ s idle, alone, act]
  rcases bookStatements env clientId s.db with ⟨(m | m) | appointmentId, after⟩ <;>
    simp [alone_done, Session.close, idle]

/-- Uninterrupted, the steps are the request that the controller serves. -/
theorem alone_eq (r : Enrolment) (s : Session) (idle : s.saved = none) :
    r.alone 3 .begin s.db = (r.request s).2.close := by
  have unchanged : s.close = s.db := Session.close_of_idle idle
  cases r with
  | booking env =>
    rw [request_booking, Prog.ite_run]
    by_cases unnamed : missing env = true
    · rw [if_pos unnamed, alone, act, if_pos unnamed]
      exact unchanged.symm
    · rw [if_neg unnamed, attempt_state, Prog.bind_run, exec_run, Client.findOrCreate,
        Prog.read_bind_run, alone, act, if_neg unnamed]
      cases s.db.clients.find? (Client.reachedBy (booking env).email (booking env).phone) with
      | some found => exact alone_book env 1 found.id s idle
      | none =>
        exact alone_book env 0 s.db.clients.nextId
          { s with db := s.db.setClients (s.db.clients.insert (booking env).client) } idle
  | addClient env =>
    rw [alone, act, alone_done, request, ClientController.addClient, Prog.bind_run, Env.handle_eq,
      admitted]
    cases AuthMiddleware.check env.php env.clock env.headers [.admin, .receptionist] with
    | error response => exact unchanged.symm
    | ok payload =>
      have closed : ∀ db, ({ s with db, user := some payload } : Session).close = db :=
        fun _ => Session.close_of_idle idle
      dsimp only
      rw [Prog.ite_run]
      by_cases unnamed : (env.getBody.fieldOr "name" (.str "")).empty = true
      · rw [if_pos unnamed, if_neg (by simp [unnamed])]
        exact (closed s.db).symm
      · rw [if_neg unnamed, if_pos (by simpa using unnamed), attempt_state, createClient_eq]
        exact (closed _).symm

end Specs

end Enrolment

end Saloon.Source
