import Saloon.Source.Booking
import Saloon.Source.Router
import Saloon.Source.Statements

/-!
# The requests that write, statement by statement

Each action of `index.php:42-199` that can write, as the script of what its request
sends to SQLite and the response it ends with. A statement outside `beginTransaction`
is a transaction of its own, but for the SELECT that a completion leaves open behind it
(`models/Invoice.php:166-173`). A request sends nothing until the middleware has let it
pass and the controller has found its arguments in order.
-/
namespace Saloon.Source

open Lib

/-- What one request sends, and its response. -/
abbrev Exchange : Type := Script Db Response false

variable {α : Type}

/-- BEGIN, the statements, and COMMIT or ROLLBACK. -/
def inTransaction (body : SqlBody α) (next : Except Thrown α → Exchange) : Exchange :=
  .begin (body.seal databaseLocked next)

/-- A response with a JSON body. -/
def responding (output : Val) (status : Nat) : Exchange := .answer ⟨status, some output⟩

/-- The request of a client that may have to be of some role. -/
def guarded (env : Env) (allowedRoles : List Role) (action : Val → Exchange) : Exchange :=
  match AuthMiddleware.check env.php env.clock env.headers allowedRoles with
  | .error response => .answer response
  | .ok payload => action payload

/-- The response behind `try { … } catch (Exception $e) { … 400 }`. -/
def caught (answer : α → Val) : Except Thrown α → Response
  | .ok a => ⟨200, some (answer a)⟩
  | .error (.exception message) => ⟨400, some (errorBody message)⟩
  | .error (.error _) => ⟨500, none⟩

/-- One transaction, and the response by its outcome. -/
def attemptBody (body : SqlBody α) (answer : α → Val) : Exchange :=
  inTransaction body fun outcome => .answer (caught answer outcome)

/-- The response to what nothing catches. -/
def uncaught : Response := ⟨500, none⟩

namespace AuthController

def registerExchange (env : Env) : Exchange :=
  guarded env [.admin] fun _ =>
    let body := env.getBody
    let name := body.fieldOr "name" (.str "")
    let username := body.fieldOr "username" (.str "")
    let password := body.fieldOr "password" (.str "")
    let role := body.fieldOr "role" (.str "")
    let commissionRate := (body.fieldOr "commission_rate" (.float 0)).floatval
    let commissionType := body.fieldOr "commission_type" (.str "percentage")
    let specializations := body.fieldOr "specializations" (.str "")
    if name.empty || username.empty || password.empty || role.empty then
      responding (errorBody "Name, username, password and role are required") 400
    else if !role.inArray ["admin", "receptionist", "stylist"] then
      responding (errorBody "Invalid role specified") 400
    else
      attemptBody
        (User.registerBody env.php env.salt env.clock name username password role commissionRate
          commissionType specializations)
        fun userId => successBody "Staff registered successfully" [("user_id", insertedId userId)]

def updateStatusExchange (env : Env) : Exchange :=
  guarded env [.stylist] fun user =>
    let status := env.getBody.fieldOr "status" (.str "available")
    if !status.inArray ["available", "off"] then
      responding (errorBody "Invalid status specified") 400
    else
      attemptBody (.execute (Staff.updateStatus status (user.field "id")))
        fun _ => .arr [("success", .bool true)]

def updateStaffExchange (env : Env) : Exchange :=
  guarded env [.admin] fun _ =>
    let body := env.getBody
    let userId := (body.fieldOr "user_id" (.int 0)).intval
    let name := body.fieldOr "name" (.str "")
    let username := body.fieldOr "username" (.str "")
    let password := body.field "password"
    let commissionRate := (body.fieldOr "commission_rate" (.float 0)).floatval
    let commissionType := body.fieldOr "commission_type" (.str "percentage")
    let specializations := body.fieldOr "specializations" (.str "")
    if userId = 0 || name.empty || username.empty then
      responding (errorBody "User ID, name, and username are required") 400
    else
      attemptBody
        (User.updateBody env.php env.salt userId name username password commissionRate
          commissionType specializations)
        fun _ => successBody "Staff updated successfully" []

end AuthController

namespace AppointmentController

def booked (appointmentId : Nat) : Val :=
  successBody "Appointment created successfully" [("appointment_id", insertedId appointmentId)]

/-- `findOrCreate` in autocommit, then the transaction of `Appointment::create`. -/
def createAppointmentExchange (env : Env) : Exchange :=
  let body := env.getBody
  let clientName := body.fieldOr "client_name" (.str "")
  let clientEmail := body.fieldOr "client_email" (.str "")
  let clientPhone := body.fieldOr "client_phone" (.str "")
  let staffId := body.field "staff_id"
  let serviceId := body.field "service_id"
  let date := body.fieldOr "date" (.str "")
  let time := body.fieldOr "time" (.str "")
  let clientType := body.fieldOr "client_type" (.str "pre-booked")
  let book (clientId : Nat) : Exchange :=
    attemptBody
      (Appointment.createBody env.php env.clock (.int clientId) staffId serviceId date time
        clientType)
      booked
  if clientName.empty || staffId.empty || serviceId.empty || date.empty || time.empty then
    responding (errorBody "Missing required appointment fields") 400
  else
    inTransaction (.read fun db => db.clients.find? (Client.reachedBy clientEmail clientPhone))
      fun
      | .ok (some found) => book found.id
      | .ok none =>
        inTransaction (.execute (Client.create env.clock clientName clientEmail clientPhone))
          fun
          | .ok clientId => book clientId
          | .error why => .answer (caught booked (.error why))
      | .error why => .answer (caught booked (.error why))

def updated : Val := successBody "Appointment status updated successfully" []

/-- An exception after the commit meets a `rollBack` without a transaction. -/
def withoutTransaction : Thrown → Thrown
  | .exception _ => .exception "There is no active transaction"
  | .error message => .error message

/-- `createFromCompletedAppointment`: a query in autocommit, and the bill. -/
def billExchange (clock : Clock) (id loggedById : Val) : Exchange :=
  let done : Exchange := responding updated 200
  let failed (why : Thrown) : Exchange :=
    .answer (caught (fun _ : Unit => updated) (.error (withoutTransaction why)))
  inTransaction (.read (Invoice.isInvoiced id.key)) fun
    | .error why => failed why
    | .ok true => done
    | .ok false =>
      inTransaction (Invoice.billBody clock id loggedById) fun
        | .error why => failed why
        | .ok _ => done

def updateStatusExchange (env : Env) : Exchange :=
  guarded env [.admin, .receptionist, .stylist] fun user =>
    let body := env.getBody
    let id := body.field "id"
    let status := body.fieldOr "status" (.str "")
    if id.empty || status.empty then
      responding (errorBody "Appointment ID and status are required") 400
    else if !status.inArray ["upcoming", "active", "completed", "cancelled"] then
      responding (errorBody "Invalid status specified") 400
    else
      inTransaction (Appointment.statusBody id status) fun
        | .error why => .answer (caught (fun _ : Unit => updated) (.error why))
        | .ok () =>
          if status.is "completed" then
            billExchange env.clock id (Appointment.billedBy (user.field "id"))
          else responding updated 200

end AppointmentController

namespace ClientController

def addClientExchange (env : Env) : Exchange :=
  guarded env [.admin, .receptionist] fun _ =>
    let body := env.getBody
    let name := body.fieldOr "name" (.str "")
    let email := body.fieldOr "email" (.str "")
    let phone := body.fieldOr "phone" (.str "")
    if name.empty then responding (errorBody "Client name is required") 400
    else
      attemptBody (.execute (Client.create env.clock name email phone))
        fun id => successBody "Client added successfully" [("id", insertedId id)]

end ClientController

namespace ServiceController

def addServiceExchange (env : Env) : Exchange :=
  guarded env [.admin, .receptionist] fun _ =>
    let body := env.getBody
    let name := body.fieldOr "name" (.str "")
    let description := body.fieldOr "description" (.str "")
    let durationMins := (body.fieldOr "duration_mins" (.int 0)).intval
    let price := (body.fieldOr "price" (.float 0)).floatval
    let category := body.fieldOr "category" (.str "")
    if name.empty || durationMins ≤ 0 || price < 0 || category.empty then
      responding (errorBody "Missing or invalid service details") 400
    else
      attemptBody (.execute (Service.create name description durationMins price category))
        fun id => successBody "Service added successfully" [("id", insertedId id)]

def updateServiceExchange (env : Env) : Exchange :=
  guarded env [.admin, .receptionist] fun _ =>
    let body := env.getBody
    let id := (body.fieldOr "id" (.int 0)).intval
    let name := body.fieldOr "name" (.str "")
    let description := body.fieldOr "description" (.str "")
    let durationMins := (body.fieldOr "duration_mins" (.int 0)).intval
    let price := (body.fieldOr "price" (.float 0)).floatval
    let category := body.fieldOr "category" (.str "")
    if id = 0 || name.empty || durationMins ≤ 0 || price < 0 || category.empty then
      responding (errorBody "Missing or invalid service details") 400
    else
      attemptBody (.execute (Service.update id name description durationMins price category))
        fun _ => successBody "Service updated successfully" []

end ServiceController

namespace POSController

def checkoutExchange (env : Env) : Exchange :=
  guarded env [.admin, .receptionist] fun user =>
    let body := env.getBody
    let clientId := body.field "client_id"
    let paymentMethod := body.fieldOr "payment_method" (.str "")
    let items := body.fieldOr "items" (.arr [])
    if paymentMethod.empty || items.empty then
      responding (errorBody "Payment method and checkout items are required") 400
    else
      attemptBody
        (Invoice.checkoutBody env.clock clientId (user.field "id") paymentMethod items .null)
        fun invoiceId => successBody "Checkout completed successfully"
          [("invoice_id", insertedId invoiceId)]

end POSController

namespace InventoryController

def addProductExchange (env : Env) : Exchange :=
  guarded env [.admin, .receptionist] fun _ =>
    let body := env.getBody
    let name := body.fieldOr "name" (.str "")
    let description := body.fieldOr "description" (.str "")
    let price := (body.fieldOr "price" (.float 0)).floatval
    let stockQuantity := (body.fieldOr "stock_quantity" (.float 0)).floatval
    let category := body.fieldOr "category" (.str "")
    let minStockAlert := (body.fieldOr "min_stock_alert" (.float 0)).floatval
    if name.empty || category.empty then
      responding (errorBody "Product name and category are required") 400
    else if !category.inArray ["salon_consumption", "retail_sale"] then
      responding (errorBody "Invalid category specified") 400
    else
      attemptBody
        (.execute (Product.create name description price stockQuantity category minStockAlert))
        fun id => successBody "Product added successfully" [("id", insertedId id)]

def updateStockExchange (env : Env) : Exchange :=
  guarded env [.admin, .receptionist] fun _ =>
    let body := env.getBody
    let id := body.field "id"
    let quantity := (body.fieldOr "quantity" (.float 0)).floatval
    if id.empty then responding (errorBody "Product ID is required") 400
    else
      attemptBody (.execute (Product.updateStock id quantity))
        fun _ => successBody "Stock updated successfully" []

end InventoryController

namespace ExpenseController

def logExpenseExchange (env : Env) : Exchange :=
  guarded env [.admin, .receptionist, .stylist] fun user =>
    let body := env.getBody
    let category := body.fieldOr "category" (.str "")
    let amount := (body.fieldOr "amount" (.float 0)).floatval
    let description := body.fieldOr "description" (.str "")
    let expenseDate := body.fieldOr "expense_date" (.str env.clock.today)
    if category.empty || amount ≤ 0 then
      responding (errorBody "Expense category and positive amount are required") 400
    else
      attemptBody
        (Expense.createBody env.clock category amount description expenseDate (user.field "id"))
        fun expenseId => successBody "Expense logged successfully"
          [("expense_id", insertedId expenseId)]

end ExpenseController

namespace ReconciliationController

def today (env : Env) (db : Db) : Option (Row CashReconciliation) :=
  db.cashReconciliation.find? (isOn (dateKey env.clock.today))

def shown : Option (Row CashReconciliation) → Exchange
  | some r => responding (.arr (Reconciliation.columns r)) 200
  | none => responding (.bool false) 200

/-- Each statement of `getTodayStatus` is in autocommit, and no handler catches a failure. -/
def viewToday (env : Env) : Exchange :=
  inTransaction (.read (today env)) fun
    | .error _ => .answer uncaught
    | .ok (some r) => shown (some r)
    | .ok none =>
      inTransaction (.execute (insertDrawer (openingDrawer (dateKey env.clock.today) 0 0 0 200)))
        fun
        | .error _ => .answer uncaught
        | .ok () =>
          inTransaction (.read (today env)) fun
            | .error _ => .answer uncaught
            | .ok r => shown r

def getTodayStatusExchange (env : Env) : Exchange :=
  guarded env [.admin, .receptionist] fun _ => viewToday env

def closeDrawerExchange (env : Env) : Exchange :=
  guarded env [.admin, .receptionist] fun user =>
    let body := env.getBody
    let date := body.fieldOr "date" (.str env.clock.today)
    let closingBalance := (body.fieldOr "closing_balance" (.float 0)).floatval
    inTransaction
      (.execute (Reconciliation.closeDrawer env.clock date closingBalance (user.field "id")))
      fun
      | .error why => .answer (caught (fun _ : Unit => .null) (.error why))
      | .ok true =>
        responding (successBody "Cash drawer reconciled and closed successfully" []) 200
      | .ok false =>
        responding
          (errorBody "Failed to close cash drawer. Make sure it is not already closed.") 400

end ReconciliationController

/-- The script of a request to an action that can write. -/
def exchangeOf (action method : String) (env : Env) : Option Exchange :=
  match action with
  | "register" => if method = "POST" then some (AuthController.registerExchange env) else none
  | "staff" => if method = "POST" then some (AuthController.registerExchange env) else none
  | "staff_update" =>
    if method = "POST" then some (AuthController.updateStaffExchange env) else none
  | "staff_update_status" =>
    if method = "POST" then some (AuthController.updateStatusExchange env) else none
  | "appointments" =>
    if method = "POST" then some (AppointmentController.createAppointmentExchange env) else none
  | "book_online" =>
    if method = "POST" then some (AppointmentController.createAppointmentExchange env) else none
  | "appointments_update" =>
    if method = "POST" ∨ method = "PUT" then
      some (AppointmentController.updateStatusExchange env)
    else none
  | "clients" =>
    if method = "POST" then some (ClientController.addClientExchange env) else none
  | "services" =>
    if method = "POST" then some (ServiceController.addServiceExchange env) else none
  | "services_update" =>
    if method = "POST" then some (ServiceController.updateServiceExchange env) else none
  | "checkout" => if method = "POST" then some (POSController.checkoutExchange env) else none
  | "inventory" =>
    if method = "POST" then some (InventoryController.addProductExchange env) else none
  | "inventory_stock" =>
    if method = "POST" then some (InventoryController.updateStockExchange env) else none
  | "expenses" =>
    if method = "POST" then some (ExpenseController.logExpenseExchange env) else none
  | "reconciliation_today" =>
    if method = "GET" then some (ReconciliationController.getTodayStatusExchange env) else none
  | "reconciliation_close" =>
    if method = "POST" then some (ReconciliationController.closeDrawerExchange env) else none
  | _ => none

/-- The script of a request, if it can write. -/
def exchange (php : Platform) (e : Event) : Option Exchange :=
  exchangeOf e.request.action e.request.method (e.env php)

end Saloon.Source
