import Saloon.Source.BookingForm
import Saloon.Source.PosScreen
import Saloon.Source.Router

/-!
# The back office of the web client

`js/app.js:36-145` (`fetchData`, the session), `js/app.js:148-1169` (the pages with the
requests that render them, and the forms whose success renders a page again),
`js/app.js:1171-1198` (`switchPage`) and `js/app.js:1213-1256` (the dialog for a new
appointment). Answers come in any order; what runs behind an `await` sees the state of
that moment. The cart of the checkout page has a module of its own.
-/
namespace Saloon.Source

open Lib

section JavaScript

namespace Val

/-- A text: only that has `split`, `replace` and `toUpperCase`. -/
def isText : Val → Bool
  | str _ => true
  | _ => false

/-- Reading a property of `null` throws. -/
def isNull : Val → Bool
  | null => true
  | _ => false

/-- What `split` or `replace` sees behind `v ? … : …`. -/
def textIfAny (v : Val) : Bool := !v.jsTruthy || v.isText

/-- The elements, where `forEach`, `map` and `filter` exist. -/
def elements : Val → Option (List Val)
  | arr entries =>
    if entries.map Prod.fst = (List.range entries.length).map toString then
      some (entries.map Prod.snd)
    else none
  | _ => none

theorem elements_list (vs : List Val) : (list vs).elements = some vs := by
  rw [list, elements, List.length_map, List.length_zipIdx, List.map_map, List.map_map]
  have keys : vs.zipIdx.map (fun spot => toString spot.2) =
      (List.range vs.length).map toString := by
    rw [List.range_eq_range', ← List.zipIdx_map_snd 0 vs, List.map_map]
    rfl
  have values : vs.zipIdx.map (fun spot => spot.1) = vs := List.zipIdx_map_fst 0 vs
  exact (if_pos keys).trans (congrArg some values)

end Val

/-- The properties that every JavaScript object has. -/
def objectProperties : List String :=
  ["constructor", "hasOwnProperty", "isPrototypeOf", "propertyIsEnumerable", "toLocaleString",
    "toString", "valueOf", "__proto__", "__defineGetter__", "__defineSetter__", "__lookupGetter__",
    "__lookupSetter__"]

/-- `forEach` or `map` over what an answer brought, with what it needs of each element. -/
def eachOf (data : Val) (needs : Val → Bool) : Bool :=
  match data.elements with
  | some items => items.all fun item => !item.isNull && needs item
  | none => false

/-- The same behind `if (list && list.length > 0)`: a number or an object has no length. -/
def eachIfAny (list : Val) (needs : Val → Bool) : Bool :=
  match list.elements with
  | some items => items.all fun item => !item.isNull && needs item
  | none => !list.jsTruthy || !list.isText

end JavaScript

/-- The keys of the router map. -/
inductive Page where
  | dashboard
  | appointments
  | clients
  | services
  | staff
  | checkout
  | inventory
  | expenses
  | reconciliation
  deriving DecidableEq

/-- What a request of a rendering brought: null and what else is falsy is none. -/
structure Piece where
  data : Option Val
  /-- Observation: the token in the request. -/
  bearer : Option String

/-- What `page-container` shows. -/
inductive Content where
  | blank
  | loading (p : Page)
  | unauthorized
  | drawn (p : Page) (pieces : List Piece)

/-- How a rendering goes on behind an answer. -/
inductive Turn where
  | leave
  | fetch (action : String)
  | draw

namespace Page

/-- The first request of a page's rendering. -/
def firstAction : Page → String
  | dashboard => "dashboard"
  | appointments => "appointments"
  | clients => "clients"
  | services => "services"
  | staff => "staff"
  | checkout => "clients"
  | inventory => "inventory"
  | expenses => "expenses"
  | reconciliation => "reconciliation_today"

/-- The requests that follow it whatever it brings. -/
def laterActions : Page → List String
  | checkout => ["services", "inventory", "staff"]
  | reconciliation => ["reconciliation"]
  | _ => []

/-- A page asks for everything, and leaves when something is missing; the dashboard leaves
first, and then asks for the commissions where an administrator is logged in. -/
def turn (p : Page) (user : Option Val) (pieces : List Piece) : Turn :=
  match p, pieces with
  | dashboard, [data] =>
    if data.data.isSome then
      match user with
      | none => .leave -- `currentUser.role` throws
      | some user => if (user.field "role").is "admin" then .fetch "commission_report" else .draw
    else .leave
  | dashboard, _ => .draw
  | p, pieces =>
    match p.laterActions[pieces.length - 1]? with
    | some action => .fetch action
    | none => if pieces.all fun piece => piece.data.isSome then .draw else .leave

end Page

section Drawing

/-! What drawing a page needs of its data; without it a TypeError leaves the page as it was. -/

/-- `formatTime(apt.start_time)` and `apt.staff_name.split(' ')`. -/
def drawsAppointment (apt : Val) : Bool :=
  (apt.field "start_time").textIfAny && (apt.field "staff_name").isText

def drawsDashboard (user : Option Val) (data : Val) (report : Option Val) : Bool :=
  user.isSome && eachIfAny (report.getD .null) (fun _ => true) &&
    eachIfAny (data.field "todayAppointmentsList") drawsAppointment

/-- `data.filter(apt => apt.status.toLowerCase() === activeAptFilter)`, and what is left. -/
def drawsAppointments (activeAptFilter : String) (data : Val) : Bool :=
  if activeAptFilter = "all" then eachOf data drawsAppointment
  else
    eachOf data fun apt =>
      match apt.field "status" with
      | .str status => if status.toLower = activeAptFilter then drawsAppointment apt else true
      | _ => false

def drawsClients (data : Val) : Bool := eachOf data fun _ => true

/-- `categories[s.category]` is there before any service when it is inherited, and then has
no `push`. -/
def drawsServices (data : Val) : Bool :=
  eachOf data fun s =>
    (match s.field "category" with
      | .str category => category ∉ objectProperties
      | _ => true) &&
    (s.field "name").isText && (s.field "description").isText

def drawsStaff (data : Val) : Bool :=
  eachOf data fun st =>
    (st.field "specializations").textIfAny && (st.field "status").textIfAny &&
      (st.field "name").isText && (st.field "username").isText

/-- The staff list is only kept, for the rows of the cart. -/
def drawsCheckout (clients services products : Val) : Bool :=
  eachOf services (fun s => (s.field "name").isText) &&
    eachOf products (fun p => !(p.field "category").is "retail_sale" || (p.field "name").isText) &&
    eachOf clients fun _ => true

def drawsInventory (data : Val) : Bool :=
  eachOf data fun item => (item.field "category").isText && (item.field "name").isText

def drawsExpenses (data : Val) : Bool := eachOf data fun _ => true

def drawsReconciliation (historyData : Val) : Bool := eachOf historyData fun _ => true

/-- The page can be drawn with what its requests brought. -/
def Page.draws (p : Page) (user : Option Val) (activeAptFilter : String) (pieces : List Piece) :
    Bool :=
  match p, pieces.map Piece.data with
  | .dashboard, some data :: report => drawsDashboard user data report.head?.join
  | .appointments, [some data] => drawsAppointments activeAptFilter data
  | .clients, [some data] => drawsClients data
  | .services, [some data] => drawsServices data
  | .staff, [some data] => drawsStaff data
  | .checkout, [some clientData, some serviceData, some productData, some _] =>
    drawsCheckout clientData serviceData productData
  | .inventory, [some data] => drawsInventory data
  | .expenses, [some data] => drawsExpenses data
  | .reconciliation, [some _, some historyData] => drawsReconciliation historyData
  | _, _ => false

end Drawing

/-- The buttons and forms that send something and render their page again. -/
inductive Act where
  | updateAptStatus
  | addService
  | editService
  | addStaff
  | editStaff
  | submitPOSCheckout
  | addProduct
  | adjustInventoryQty
  | addExpense
  | performDrawerReconciliation

namespace Act

def page : Act → Page
  | updateAptStatus => .dashboard
  | addService => .services
  | editService => .services
  | addStaff => .staff
  | editStaff => .staff
  | submitPOSCheckout => .checkout
  | addProduct => .inventory
  | adjustInventoryQty => .inventory
  | addExpense => .expenses
  | performDrawerReconciliation => .reconciliation

def action : Act → String
  | updateAptStatus => "appointments_update"
  | addService => "services"
  | editService => "services_update"
  | addStaff => "register"
  | editStaff => "staff_update"
  | submitPOSCheckout => "checkout"
  | addProduct => "inventory"
  | adjustInventoryQty => "inventory_stock"
  | addExpense => "expenses"
  | performDrawerReconciliation => "reconciliation_close"

/-- The forms stand outside the container; drawing their page gives them their handlers. -/
def isForm : Act → Bool
  | addService | editService | addStaff | editStaff | addProduct | addExpense => true
  | _ => false

end Act

/-- The code behind an `await fetchData…`. -/
inductive AdminResume where
  | login
  | render (p : Page) (pieces : List Piece)
  | saved (p : Page)
  | dialogServices
  | dialogStaff (services : Option Val)
  | booked

/-- What the API answers, and when it did. -/
structure Answer where
  clock : Clock
  response : Response

/-- A request that was sent. -/
structure AdminCall where
  action : String
  method : String
  body : Val
  /-- the token in the Authorization header -/
  bearer : Option String
  resume : AdminResume
  /-- the answer, while it is on its way -/
  answer : Option Answer

/-- The request as the API reads it. -/
def AdminCall.event (call : AdminCall) (clock : Clock) (salt : Nat) : Event where
  clock
  salt
  request :=
    { action := call.action
      method := call.method
      headers :=
        { authorization := call.bearer.map fun token => utf8 ("Bearer " ++ token)
          lowercase := none
          server := none
          redirect := none }
      body := call.body }

/-- What a request of a rendering brought. -/
def AdminCall.piece (call : AdminCall) (result : Option Val) : Piece :=
  ⟨result.filter Val.jsTruthy, call.bearer⟩

/-- How `fetchData` ends. -/
inductive FetchResult where
  /-- a 401: `logout(); return null` -/
  | unauthorized
  /-- something was thrown: `return null` -/
  | failed
  | data (v : Val)

/-- What `await fetchData(…)` is. -/
def FetchResult.value : FetchResult → Option Val
  | data v => some v
  | _ => none

/-- A body that is no JSON throws, and so does a bad status. -/
def fetchData (response : Response) : FetchResult :=
  if response.status = 401 then .unauthorized
  else
    match response.output with
    | none => .failed
    | some v => if 200 ≤ response.status ∧ response.status < 300 then .data v else .failed

/-- What the inputs of the appointment dialog hold; `service` and `stylist` are the chosen
options. -/
structure DialogInputs where
  clientName : String
  clientEmail : String
  clientPhone : String
  service : Nat
  stylist : Nat
  date : String
  time : String
  clientType : String

structure AdminApp where
  /-- in localStorage -/
  token : Option String
  /-- in localStorage -/
  storedUser : Option Val
  currentUser : Option Val
  currentPage : Page
  activeAptFilter : String
  /-- the app is shown, or else the login screen -/
  visible : Bool
  loginError : Bool
  container : Content
  /-- the pages whose forms have their handlers -/
  bound : List Page
  dialogOpen : Bool
  /-- the values of the options of `apt-service-id` -/
  serviceOptions : List String
  /-- the values of the options of `apt-staff-id` -/
  staffOptions : List String
  /-- Observation: the token in the request for the list behind those. -/
  staffBearer : Option String
  inFlight : List AdminCall

namespace AdminApp

/-- With nothing in localStorage, and the login screen shown. -/
def start : AdminApp where
  token := none
  storedUser := none
  currentUser := none
  currentPage := .dashboard
  activeAptFilter := "all"
  visible := false
  loginError := false
  container := .blank
  bound := []
  dialogOpen := false
  serviceOptions := []
  staffOptions := []
  staffBearer := none
  inFlight := []

/-- `if (token)`: an empty token is none. -/
def bearer (s : AdminApp) : Option String := s.token.filter (· ≠ "")

def send (action method : String) (body : Val) (resume : AdminResume) (s : AdminApp) : AdminApp :=
  { s with inFlight := s.inFlight ++ [⟨action, method, body, s.bearer, resume, none⟩] }

/-- The spinner, and a page's first request. -/
def load (p : Page) (s : AdminApp) : AdminApp :=
  { s with container := .loading p }.send p.firstAction "GET" .null (.render p [])

/-- `router[p]()`. -/
def render (p : Page) (s : AdminApp) : AdminApp :=
  match p with
  | .staff =>
    match s.currentUser with
    | none => s -- `currentUser.role` throws
    | some user =>
      if (user.field "role").is "receptionist" then { s with container := .unauthorized }
      else s.load .staff
  | p => s.load p

def draw (p : Page) (pieces : List Piece) (s : AdminApp) : AdminApp :=
  if p.draws s.currentUser s.activeAptFilter pieces then
    { s with container := .drawn p pieces, bound := p :: s.bound }
  else s

/-- A rendering goes on with what its requests have brought so far. -/
def rendered (p : Page) (pieces : List Piece) (s : AdminApp) : AdminApp :=
  match p.turn s.currentUser pieces with
  | .leave => s
  | .fetch action => s.send action "GET" .null (.render p pieces)
  | .draw => s.draw p pieces

/-- The page is not switched where `currentUser.role.toUpperCase()` throws. -/
def showApp (s : AdminApp) : AdminApp :=
  let shown := { s with visible := true }
  match s.currentUser with
  | none => shown
  | some user => if (user.field "role").isText then shown.render s.currentPage else shown

def showLogin (s : AdminApp) : AdminApp := { s with visible := false }

def logout (s : AdminApp) : AdminApp :=
  { s with token := none, storedUser := none, currentUser := none }.showLogin

def checkSession (s : AdminApp) : AdminApp :=
  match s.bearer, s.storedUser with
  | some _, some user => { s with currentUser := some user }.showApp
  | _, _ => s.showLogin

/-- The script starts again; only localStorage is kept. -/
def reload (s : AdminApp) : AdminApp :=
  { start with token := s.token, storedUser := s.storedUser }.checkSession

def submitLogin (username password : String) (s : AdminApp) : AdminApp :=
  if s.visible then s
  else
    { s with loginError := false }.send "login" "POST"
      (.arr [("username", .str username), ("password", .str password)]) .login

/-- A token is a text. -/
def loggedIn (res : Val) (s : AdminApp) : AdminApp :=
  match res.field "token" with
  | .str token =>
    { s with
      token := some token
      storedUser := some (res.field "user")
      currentUser := some (res.field "user") }.showApp
  | _ => s

def clickLogout (s : AdminApp) : AdminApp := if s.visible then s.logout else s

/-- A click on the item of the current page does nothing. -/
def navigate (p : Page) (s : AdminApp) : AdminApp :=
  if s.visible ∧ p ≠ s.currentPage then { s with currentPage := p }.render p else s

/-- The page that the container's buttons belong to. -/
def buttons (s : AdminApp) : Option Page :=
  match s.container with
  | .drawn p _ => if s.visible then some p else none
  | _ => none

def setAptFilter (filter : String) (s : AdminApp) : AdminApp :=
  if s.buttons = some .appointments then { s with activeAptFilter := filter }.render .appointments
  else s

def canAct (a : Act) (s : AdminApp) : Bool :=
  if a.isForm then a.page ∈ s.bound else s.buttons = some a.page

/-- A form or a button of a page, with whatever it sends. -/
def act (a : Act) (body : Val) (s : AdminApp) : AdminApp :=
  if s.canAct a then s.send a.action "POST" body (.saved a.page) else s

def newAppointment (s : AdminApp) : AdminApp :=
  if s.visible then s.send "services" "GET" .null .dialogServices else s

/-- `items.map(…)`, with `${item.id}` for the value of an option. -/
def optionValues (items : List Val) : List String := items.map fun item => (stylistId item).text

/-- `if (services && staff) { … }`, and the dialog is shown; a `map` that is missing throws. -/
def dialogFilled (services staff : Option Val) (bearer : Option String) (s : AdminApp) : AdminApp :=
  match services, staff with
  | some services, some staff =>
    match services.elements with
    | none => s
    | some services =>
      let s := { s with serviceOptions := optionValues services }
      match staff.elements with
      | none => s
      | some staff =>
        { s with staffOptions := optionValues staff, staffBearer := bearer, dialogOpen := true }
  | _, _ => { s with dialogOpen := true }

def dialogPayload (inputs : DialogInputs) (service stylist : String) : Val :=
  .arr ([("client_name", .str inputs.clientName), ("client_email", .str inputs.clientEmail),
      ("client_phone", .str inputs.clientPhone)] ++
    JsId.property "service_id" (JsId.parseInt service) ++
    JsId.property "staff_id" (JsId.parseInt stylist) ++
    [("date", .str inputs.date), ("time", .str inputs.time),
      ("client_type", .str inputs.clientType)])

/-- A required choice that has no options holds the form back. -/
def submitAppointment (inputs : DialogInputs) (s : AdminApp) : AdminApp :=
  match s.serviceOptions[inputs.service]?, s.staffOptions[inputs.stylist]? with
  | some service, some stylist =>
    if s.dialogOpen then
      s.send "appointments" "POST" (dialogPayload inputs service stylist) .booked
    else s
  | _, _ => s

def closeDialog (s : AdminApp) : AdminApp := { s with dialogOpen := false }

/-- `if (res && res.success)`. -/
def succeeded (result : Option Val) : Bool :=
  match result with
  | some res => (res.field "success").jsTruthy
  | none => false

/-- The two pages that show appointments are rendered again. -/
def booked (s : AdminApp) : AdminApp :=
  match s.currentPage with
  | .dashboard => s.closeDialog.render .dashboard
  | .appointments => s.closeDialog.render .appointments
  | _ => s.closeDialog

/-- Behind an `await`, with what `fetchData` returned. -/
def resume (call : AdminCall) (result : Option Val) (s : AdminApp) : AdminApp :=
  match call.resume with
  | .login =>
    match result with
    | some res => if succeeded result then s.loggedIn res else { s with loginError := true }
    | none => { s with loginError := true }
  | .render p pieces => s.rendered p (pieces ++ [call.piece result])
  | .saved p => if succeeded result then s.render p else s
  | .dialogServices => s.send "staff" "GET" .null (.dialogStaff (result.filter Val.jsTruthy))
  | .dialogStaff services =>
    s.dialogFilled services (result.filter Val.jsTruthy) call.bearer
  | .booked => if succeeded result then s.booked else s

def settle (call : AdminCall) (result : FetchResult) (s : AdminApp) : AdminApp :=
  match result with
  | .unauthorized => s.logout.resume call none
  | result => s.resume call result.value

/-- The answer to the request at position `i` of those in flight arrives. -/
def arrive (i : Nat) (s : AdminApp) : AdminApp :=
  match s.inFlight[i]? with
  | none => s
  | some call =>
    match call.answer with
    | none => s
    | some answer =>
      { s with inFlight := s.inFlight.eraseIdx i }.settle call (fetchData answer.response)

/-- The connection fails: `fetch` throws. -/
def lose (i : Nat) (s : AdminApp) : AdminApp :=
  match s.inFlight[i]? with
  | none => s
  | some call => { s with inFlight := s.inFlight.eraseIdx i }.settle call .failed

end AdminApp

/-- What the user does. -/
inductive Gesture where
  | reload
  | submitLogin (username password : String)
  | clickLogout
  | navigate (p : Page)
  | setAptFilter (filter : String)
  | act (a : Act) (body : Val)
  | newAppointment
  | closeDialog
  | submitAppointment (inputs : DialogInputs)

def AdminApp.gesture (g : Gesture) (s : AdminApp) : AdminApp :=
  match g with
  | .reload => s.reload
  | .submitLogin username password => s.submitLogin username password
  | .clickLogout => s.clickLogout
  | .navigate p => s.navigate p
  | .setAptFilter filter => s.setAptFilter filter
  | .act a body => s.act a body
  | .newAppointment => s.newAppointment
  | .closeDialog => s.closeDialog
  | .submitAppointment inputs => s.submitAppointment inputs

/-- The client and the API with its database. -/
structure BackOffice where
  app : AdminApp
  db : Db

/-- The user, the API, the network, and everyone else's requests, in any order. -/
inductive OfficeEvent where
  | gesture (g : Gesture)
  | serve (i : Nat) (clock : Clock) (salt : Nat)
  | arrive (i : Nat)
  | lose (i : Nat)
  | other (e : Event)

namespace BackOffice

/-- The API serves the request at position `i`, once. -/
def serve (php : Platform) (i : Nat) (clock : Clock) (salt : Nat) (s : BackOffice) : BackOffice :=
  match s.app.inFlight[i]? with
  | none => s
  | some call =>
    match call.answer with
    | some _ => s
    | none =>
      let outcome := Source.serve php (call.event clock salt) s.db
      { app :=
          { s.app with
            inFlight := s.app.inFlight.set i { call with answer := some ⟨clock, outcome.response⟩ } }
        db := outcome.db }

def step (php : Platform) (e : OfficeEvent) (s : BackOffice) : BackOffice :=
  match e with
  | .gesture g => { s with app := s.app.gesture g }
  | .serve i clock salt => s.serve php i clock salt
  | .arrive i => { s with app := s.app.arrive i }
  | .lose i => { s with app := s.app.lose i }
  | .other e => { s with db := (Source.serve php e s.db).db }

end BackOffice

section Specs

/-! What a step leaves alone, what it sends, and what it puts on the page. -/

namespace AdminApp

/-- What renderings and requests leave as it is. -/
structure Frame where
  token : Option String
  storedUser : Option Val
  currentUser : Option Val
  visible : Bool
  currentPage : Page
  activeAptFilter : String

def frame (s : AdminApp) : Frame :=
  ⟨s.token, s.storedUser, s.currentUser, s.visible, s.currentPage, s.activeAptFilter⟩

variable (s : AdminApp) (p : Page)

@[simp] theorem frame_send (action method : String) (body : Val) (resume : AdminResume) :
    (s.send action method body resume).frame = s.frame := rfl

@[simp] theorem frame_load : (s.load p).frame = s.frame := rfl

@[simp] theorem frame_closeDialog : s.closeDialog.frame = s.frame := rfl

@[simp] theorem frame_render : (s.render p).frame = s.frame := by
  unfold render
  split
  · split
    · rfl
    · split <;> rfl
  · rfl

@[simp] theorem frame_draw (pieces : List Piece) : (s.draw p pieces).frame = s.frame := by
  unfold draw
  split <;> rfl

@[simp] theorem frame_rendered (pieces : List Piece) : (s.rendered p pieces).frame = s.frame := by
  unfold rendered
  split
  · rfl
  · rfl
  · exact frame_draw s p pieces

@[simp] theorem frame_booked : s.booked.frame = s.frame := by
  unfold booked
  split
  · exact frame_render s.closeDialog .dashboard
  · exact frame_render s.closeDialog .appointments
  · rfl

@[simp] theorem frame_dialogFilled (services staff : Option Val) (bearer : Option String) :
    (s.dialogFilled services staff bearer).frame = s.frame := by
  unfold dialogFilled
  split
  · split
    · rfl
    · dsimp only
      split <;> rfl
  · rfl

end AdminApp

end Specs

end Saloon.Source
