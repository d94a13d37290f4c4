import Saloon.Source.Controllers

/-!
# The router and one request

`index.php:9-13` and `index.php:40-199`: the preflight, the switch over the action, and
what one request does to the database from its start to its end.
-/
namespace Saloon.Source

open Lib

structure Request where
  action : String
  method : String
  headers : Headers
  body : Val

/-- A request with the moment it is served at and the salt bcrypt draws for it. -/
structure Event where
  clock : Clock
  salt : Nat
  request : Request

def Event.env (php : Platform) (e : Event) : Env where
  php
  clock := e.clock
  salt := e.salt
  headers := e.request.headers
  body := e.request.body

def notFound : Php Unit := json (errorBody "Endpoint action not found") 404

/-- The switch; a known action with another method does nothing. -/
def route (action method : String) (env : Env) : Php Unit :=
  match action with
  | "login" => if method = "POST" then AuthController.login env else pure ()
  | "register" => if method = "POST" then AuthController.register env else pure ()
  | "staff" =>
    if method = "GET" then AuthController.getStaffList env
    else if method = "POST" then AuthController.register env
    else pure ()
  | "staff_update" => if method = "POST" then AuthController.updateStaff env else pure ()
  | "staff_update_status" => if method = "POST" then AuthController.updateStatus env else pure ()
  | "dashboard" => if method = "GET" then AppointmentController.getDashboard env else pure ()
  | "appointments" =>
    if method = "GET" then AppointmentController.getAppointments env
    else if method = "POST" then AppointmentController.createAppointment env
    else pure ()
  | "book_online" =>
    if method = "POST" then AppointmentController.createAppointment env else pure ()
  | "appointments_today" =>
    if method = "GET" then AppointmentController.getTodayAppointments env else pure ()
  | "appointments_update" =>
    if method = "POST" ∨ method = "PUT" then AppointmentController.updateStatus env else pure ()
  | "clients" =>
    if method = "GET" then ClientController.getClients env
    else if method = "POST" then ClientController.addClient env
    else pure ()
  | "services" =>
    if method = "GET" then ServiceController.getServices
    else if method = "POST" then ServiceController.addService env
    else pure ()
  | "services_update" => if method = "POST" then ServiceController.updateService env else pure ()
  | "checkout" => if method = "POST" then POSController.checkout env else pure ()
  | "commission_report" =>
    if method = "GET" then POSController.getCommissionReport env else pure ()
  | "stylist_payouts" => if method = "GET" then POSController.getStylistPayouts env else pure ()
  | "inventory" =>
    if method = "GET" then InventoryController.getInventory env
    else if method = "POST" then InventoryController.addProduct env
    else pure ()
  | "inventory_stock" =>
    if method = "POST" then InventoryController.updateStock env else pure ()
  | "inventory_alerts" =>
    if method = "GET" then InventoryController.getLowStockAlerts env else pure ()
  | "expenses" =>
    if method = "GET" then ExpenseController.getExpenses env
    else if method = "POST" then ExpenseController.logExpense env
    else pure ()
  | "reconciliation" =>
    if method = "GET" then ReconciliationController.getReconciliations env else pure ()
  | "reconciliation_today" =>
    if method = "GET" then ReconciliationController.getTodayStatus env else pure ()
  | "reconciliation_close" =>
    if method = "POST" then ReconciliationController.closeDrawer env else pure ()
  | _ => notFound

/-- The script from its first line; a preflight request ends it there. -/
def index (php : Platform) (e : Event) : Php Unit :=
  if e.request.method = "OPTIONS" then .stop (.exit ⟨200, none⟩)
  else route e.request.action e.request.method (e.env php)

/-- What a request leaves: its response, the database, and the two observations. -/
structure Outcome where
  response : Response
  db : Db
  user : Option Val
  signed : List Bytes

def Session.start (db : Db) : Session := ⟨db, none, none, []⟩

/-- How the script's end reads to the client; nothing catches what is thrown this far. -/
def responseOf (result : Except Stop Unit) : Response :=
  match result with
  | .ok () => ⟨200, none⟩
  | .error (.exit response) => response
  | .error (.thrown _) => ⟨500, none⟩

def serve (php : Platform) (e : Event) (db : Db) : Outcome :=
  let (result, s) := index php e (.start db)
  ⟨responseOf result, s.close, s.user, s.signed⟩

theorem serve_db (php : Platform) (e : Event) (db : Db) :
    (serve php e db).db = (index php e (.start db)).2.close := rfl

theorem serve_response (php : Platform) (e : Event) (db : Db) :
    (serve php e db).response = responseOf (index php e (.start db)).1 := rfl

end Saloon.Source
