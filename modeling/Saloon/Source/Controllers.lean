import Saloon.Source.Jwt
import Saloon.Source.Reports

/-!
# The controllers

One definition for each action method: `controllers/AuthController.php:15-146`,
`AppointmentController.php:19-142`, `ClientController.php:14-42`,
`ServiceController.php:14-69`, `POSController.php:14-57`,
`InventoryController.php:15-89`, `ExpenseController.php:14-43`,
`ReconciliationController.php:14-43`. A method checks who asks, reads the body with its
defaults, refuses what is missing, and runs the model inside a `try` that answers 400
with the exception's message.
-/
namespace Saloon.Source

open Lib

/-- What a request brings and the process adds: `body` is the decoded JSON, null
when there is none; `salt` is what bcrypt draws. -/
structure Env where
  php : Platform
  clock : Clock
  salt : Nat
  headers : Headers
  body : Val

namespace Env

def handle (env : Env) (allowedRoles : List Role) : Php Val :=
  AuthMiddleware.handle env.php env.clock env.headers (allowedRoles.map Role.name)

theorem handle_eq (env : Env) (allowedRoles : List Role) (s : Session) :
    env.handle allowedRoles s =
      match AuthMiddleware.check env.php env.clock env.headers allowedRoles with
      | .error response => (.error (.exit response), s)
      | .ok payload => (.ok payload, { s with user := some payload }) := rfl

/-- `Controller::getBody`. -/
def getBody (env : Env) : Val :=
  match env.body with
  | .null => .arr []
  | body => body

end Env

variable {α : Type}

/-- `try { $a = x; $this->json(answer) } catch (Exception $e) { $this->json($e, 400) }`. -/
def attempt (x : Php α) (answer : α → Val) : Php Unit :=
  catchException
    (do
      let a ← x
      json (answer a) 200)
    (fun message => json (errorBody message) 400)

/-- Answering changes nothing, whichever way the model ended. -/
theorem attempt_state (x : Php α) (answer : α → Val) (s : Session) :
    (attempt x answer s).2 = (x s).2 := by
  rw [attempt, catchException, Prog.bind_run]
  rcases x s with ⟨((m | m) | r) | a, t⟩ <;> rfl

/-- A response that lists what the database holds. -/
def list (rows : Db → List Val) : Php Unit := do
  let rows ← exec (.read rows)
  json (.list rows) 200

/-- `['success' => true, 'message' => …, …]`. -/
def successBody (message : String) (more : List (String × Val)) : Val :=
  .arr (("success", .bool true) :: ("message", .str message) :: more)

/-- `lastInsertId()`, a text. -/
def insertedId (id : Nat) : Val := .str (toString id)

namespace AuthController

def login (env : Env) : Php Unit := do
  let body := env.getBody
  let username := body.fieldOr "username" (.str "")
  let password := body.fieldOr "password" (.str "")
  if username.empty || password.empty then
    json (errorBody "Username and password are required") 400
  else do
    let user ← exec (User.authenticate env.php username password)
    match user with
    | none => json (errorBody "Invalid username or password") 401
    | some user => do
      let token ← JWT.encode env.php env.clock
        (.arr [("id", .int user.id), ("username", .str user.cols.username),
          ("role", .str user.cols.role), ("name", .str user.cols.name)]) 86400
      json (.arr [("success", .bool true), ("token", .str (ofAscii token)),
        ("user", .arr [("id", .int user.id), ("name", .str user.cols.name),
          ("username", .str user.cols.username), ("role", .str user.cols.role)])]) 200

def register (env : Env) : Php Unit := do
  let _ ← env.handle [.admin]
  let body := env.getBody
  let name := body.fieldOr "name" (.str "")
  let username := body.fieldOr "username" (.str "")
  let password := body.fieldOr "password" (.str "")
  let role := body.fieldOr "role" (.str "")
  let commissionRate := (body.fieldOr "commission_rate" (.float 0)).floatval
  let commissionType := body.fieldOr "commission_type" (.str "percentage")
  let specializations := body.fieldOr "specializations" (.str "")
  if name.empty || username.empty || password.empty || role.empty then
    json (errorBody "Name, username, password and role are required") 400
  else if !role.inArray ["admin", "receptionist", "stylist"] then
    json (errorBody "Invalid role specified") 400
  else
    attempt
      (User.register env.php env.salt env.clock name username password role commissionRate
        commissionType specializations)
      fun userId => successBody "Staff registered successfully" [("user_id", insertedId userId)]

/-- With an Authorization header the list is for the desk; without one it is public. -/
def getStaffList (env : Env) : Php Unit := do
  if !emptyBytes env.headers.authHeader then do
    let _ ← env.handle [.admin, .receptionist]
    list User.getAllStaff
  else list Staff.getAll

def updateStatus (env : Env) : Php Unit := do
  let user ← env.handle [.stylist]
  let body := env.getBody
  let status := body.fieldOr "status" (.str "available")
  if !status.inArray ["available", "off"] then json (errorBody "Invalid status specified") 400
  else
    attempt (exec (Staff.updateStatus status (user.field "id")))
      fun _ => .arr [("success", .bool true)]

def updateStaff (env : Env) : Php Unit := do
  let _ ← env.handle [.admin]
  let body := env.getBody
  let userId := (body.fieldOr "user_id" (.int 0)).intval
  let name := body.fieldOr "name" (.str "")
  let username := body.fieldOr "username" (.str "")
  let password := body.field "password"
  let commissionRate := (body.fieldOr "commission_rate" (.float 0)).floatval
  let commissionType := body.fieldOr "commission_type" (.str "percentage")
  let specializations := body.fieldOr "specializations" (.str "")
  if userId = 0 || name.empty || username.empty then
    json (errorBody "User ID, name, and username are required") 400
  else
    attempt
      (User.updateStaffDetails env.php env.salt userId name username password commissionRate
        commissionType specializations)
      fun _ => successBody "Staff updated successfully" []

end AuthController

namespace AppointmentController

def getDashboard (env : Env) : Php Unit := do
  let _ ← env.handle [.admin, .receptionist]
  let answer ← exec (.read fun db =>
    Val.arr [("totalRevenue", .float (Invoice.revenueOn env.clock.today db)),
      ("appointmentsToday", .int (db.appointments.rows.countP fun r =>
        r.cols.appointmentDate = dateKey env.clock.today)),
      ("totalClients", .int db.clients.rows.length),
      ("todayAppointmentsList", .list (Appointment.getTodayAppointments env.clock none db))])
  json answer 200

/-- The staff id of a stylist's user, `SELECT id FROM staff WHERE user_id = :user_id`. -/
def ownStaff (user : Val) (db : Db) : Option Nat :=
  (db.staff.find? (hasUserId (user.field "id").key)).map Row.id

def getAppointments (env : Env) : Php Unit := do
  let user ← env.handle [.admin, .receptionist, .stylist]
  if (user.field "role").is "stylist" then do
    let staffId ← exec (.read (ownStaff user))
    match staffId with
    | none => json (errorBody "Stylist profile not found") 404
    | some staffId => list (Appointment.getAll (some (.num staffId)))
  else list (Appointment.getAll none)

/-- Here a stylist without a staff row filters by `false`, which no row meets. -/
def getTodayAppointments (env : Env) : Php Unit := do
  let user ← env.handle [.admin, .receptionist, .stylist]
  if (user.field "role").is "stylist" then do
    let staffId ← exec (.read (ownStaff user))
    match staffId with
    | none => list (Appointment.getTodayAppointments env.clock (some (Val.bool false).key))
    | some staffId => list (Appointment.getTodayAppointments env.clock (some (.num staffId)))
  else list (Appointment.getTodayAppointments env.clock none)

def createAppointment (env : Env) : Php Unit := do
  let body := env.getBody
  let clientName := body.fieldOr "client_name" (.str "")
  let clientEmail := body.fieldOr "client_email" (.str "")
  let clientPhone := body.fieldOr "client_phone" (.str "")
  let staffId := body.field "staff_id"
  let serviceId := body.field "service_id"
  let date := body.fieldOr "date" (.str "")
  let time := body.fieldOr "time" (.str "")
  let clientType := body.fieldOr "client_type" (.str "pre-booked")
  if clientName.empty || staffId.empty || serviceId.empty || date.empty || time.empty then
    json (errorBody "Missing required appointment fields") 400
  else
    attempt
      (do
        let clientId ← exec (Client.findOrCreate env.clock clientName clientEmail clientPhone)
        Appointment.create env.php env.clock (.int clientId) staffId serviceId date time clientType)
      fun appointmentId => successBody "Appointment created successfully"
        [("appointment_id", insertedId appointmentId)]

def updateStatus (env : Env) : Php Unit := do
  let user ← env.handle [.admin, .receptionist, .stylist]
  let body := env.getBody
  let id := body.field "id"
  let status := body.fieldOr "status" (.str "")
  if id.empty || status.empty then
    json (errorBody "Appointment ID and status are required") 400
  else if !status.inArray ["upcoming", "active", "completed", "cancelled"] then
    json (errorBody "Invalid status specified") 400
  else
    attempt (Appointment.updateStatus env.clock id status (user.field "id"))
      fun _ => successBody "Appointment status updated successfully" []

end AppointmentController

namespace ClientController

def getClients (env : Env) : Php Unit := do
  let _ ← env.handle [.admin, .receptionist]
  list Client.getAll

def addClient (env : Env) : Php Unit := do
  let _ ← env.handle [.admin, .receptionist]
  let body := env.getBody
  let name := body.fieldOr "name" (.str "")
  let email := body.fieldOr "email" (.str "")
  let phone := body.fieldOr "phone" (.str "")
  if name.empty then json (errorBody "Client name is required") 400
  else
    attempt (exec (Client.create env.clock name email phone))
      fun id => successBody "Client added successfully" [("id", insertedId id)]

end ClientController

namespace ServiceController

def getServices : Php Unit := list Service.getAll

def addService (env : Env) : Php Unit := do
  let _ ← env.handle [.admin, .receptionist]
  let body := env.getBody
  let name := body.fieldOr "name" (.str "")
  let description := body.fieldOr "description" (.str "")
  let durationMins := (body.fieldOr "duration_mins" (.int 0)).intval
  let price := (body.fieldOr "price" (.float 0)).floatval
  let category := body.fieldOr "category" (.str "")
  if name.empty || durationMins ≤ 0 || price < 0 || category.empty then
    json (errorBody "Missing or invalid service details") 400
  else
    attempt (exec (Service.create name description durationMins price category))
      fun id => successBody "Service added successfully" [("id", insertedId id)]

def updateService (env : Env) : Php Unit := do
  let _ ← env.handle [.admin, .receptionist]
  let body := env.getBody
  let id := (body.fieldOr "id" (.int 0)).intval
  let name := body.fieldOr "name" (.str "")
  let description := body.fieldOr "description" (.str "")
  let durationMins := (body.fieldOr "duration_mins" (.int 0)).intval
  let price := (body.fieldOr "price" (.float 0)).floatval
  let category := body.fieldOr "category" (.str "")
  if id = 0 || name.empty || durationMins ≤ 0 || price < 0 || category.empty then
    json (errorBody "Missing or invalid service details") 400
  else
    attempt (exec (Service.update id name description durationMins price category))
      fun _ => successBody "Service updated successfully" []

end ServiceController

namespace POSController

def checkout (env : Env) : Php Unit := do
  let user ← env.handle [.admin, .receptionist]
  let body := env.getBody
  let clientId := body.field "client_id"
  let paymentMethod := body.fieldOr "payment_method" (.str "")
  let items := body.fieldOr "items" (.arr [])
  if paymentMethod.empty || items.empty then
    json (errorBody "Payment method and checkout items are required") 400
  else
    attempt
      (Invoice.createCheckout env.clock clientId (user.field "id") paymentMethod items .null)
      fun invoiceId => successBody "Checkout completed successfully"
        [("invoice_id", insertedId invoiceId)]

def getCommissionReport (env : Env) : Php Unit := do
  let _ ← env.handle [.admin, .receptionist]
  list Invoice.getCommissionReport

def getStylistPayouts (env : Env) : Php Unit := do
  let user ← env.handle [.stylist]
  let payouts ← exec (.read (Invoice.getStylistPayouts (user.field "id").key))
  let totalEarned := (payouts.map fun p => (p.field "commission_paid").floatval).sum
  json (.arr [("total_earned", .float totalEarned), ("payouts", .list payouts)]) 200

end POSController

namespace InventoryController

def getInventory (env : Env) : Php Unit := do
  let _ ← env.handle [.admin, .receptionist, .stylist]
  list Product.getAll

def getLowStockAlerts (env : Env) : Php Unit := do
  let _ ← env.handle [.admin, .receptionist]
  list Product.getLowStockAlerts

def addProduct (env : Env) : Php Unit := do
  let _ ← env.handle [.admin, .receptionist]
  let body := env.getBody
  let name := body.fieldOr "name" (.str "")
  let description := body.fieldOr "description" (.str "")
  let price := (body.fieldOr "price" (.float 0)).floatval
  let stockQuantity := (body.fieldOr "stock_quantity" (.float 0)).floatval
  let category := body.fieldOr "category" (.str "")
  let minStockAlert := (body.fieldOr "min_stock_alert" (.float 0)).floatval
  if name.empty || category.empty then
    json (errorBody "Product name and category are required") 400
  else if !category.inArray ["salon_consumption", "retail_sale"] then
    json (errorBody "Invalid category specified") 400
  else
    attempt (exec (Product.create name description price stockQuantity category minStockAlert))
      fun id => successBody "Product added successfully" [("id", insertedId id)]

def updateStock (env : Env) : Php Unit := do
  let _ ← env.handle [.admin, .receptionist]
  let body := env.getBody
  let id := body.field "id"
  let quantity := (body.fieldOr "quantity" (.float 0)).floatval
  if id.empty then json (errorBody "Product ID is required") 400
  else
    attempt (exec (Product.updateStock id quantity))
      fun _ => successBody "Stock updated successfully" []

end InventoryController

namespace ExpenseController

def getExpenses (env : Env) : Php Unit := do
  let _ ← env.handle [.admin, .receptionist, .stylist]
  list Expense.getAll

def logExpense (env : Env) : Php Unit := do
  let user ← env.handle [.admin, .receptionist, .stylist]
  let body := env.getBody
  let category := body.fieldOr "category" (.str "")
  let amount := (body.fieldOr "amount" (.float 0)).floatval
  let description := body.fieldOr "description" (.str "")
  let expenseDate := body.fieldOr "expense_date" (.str env.clock.today)
  if category.empty || amount ≤ 0 then
    json (errorBody "Expense category and positive amount are required") 400
  else
    attempt
      (Expense.create env.clock category amount description expenseDate (user.field "id"))
      fun expenseId => successBody "Expense logged successfully"
        [("expense_id", insertedId expenseId)]

end ExpenseController

namespace ReconciliationController

def getReconciliations (env : Env) : Php Unit := do
  let _ ← env.handle [.admin, .receptionist]
  list Reconciliation.getAll

def getTodayStatus (env : Env) : Php Unit := do
  let _ ← env.handle [.admin, .receptionist]
  let today ← exec (Reconciliation.getTodayStatus env.clock)
  match today with
  | some r => json (.arr (Reconciliation.columns r)) 200
  | none => json (.bool false) 200

def closeDrawer (env : Env) : Php Unit := do
  let user ← env.handle [.admin, .receptionist]
  let body := env.getBody
  let date := body.fieldOr "date" (.str env.clock.today)
  let closingBalance := (body.fieldOr "closing_balance" (.float 0)).floatval
  catchException
    (do
      let success ← exec
        (Reconciliation.closeDrawer env.clock date closingBalance (user.field "id"))
      if success then
        json (successBody "Cash drawer reconciled and closed successfully" []) 200
      else
        json (errorBody "Failed to close cash drawer. Make sure it is not already closed.") 400)
    (fun message => json (errorBody message) 400)

end ReconciliationController

end Saloon.Source
