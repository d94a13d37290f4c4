import Saloon.Source.AdminApp

/-!
# Booking online

`book.html:126-310` with the API behind it: `init` with its two requests, the chips, the
button and what its answer shows. The lists and the choices are the booking form's; the
names beside them, which the confirmation speaks of, and the panels are here.
-/
namespace Saloon.Source

open Lib

/-- `svc.name || svc.service_name`. -/
def chipName (svc : Val) : Val :=
  if (svc.field "name").jsTruthy then svc.field "name" else svc.field "service_name"

/-- `res.ok`. -/
def Response.ok (response : Response) : Bool := 200 ≤ response.status && response.status < 300

/-- The list in a good answer. -/
def Response.list (response : Response) : Option (List Val) :=
  if response.ok then response.output.bind Val.elements else none

/-- `data.error`, or what `submitForm` says without it; `null` has no properties. -/
def Response.shownError (response : Response) : Val :=
  match response.output with
  | none => .str "Something went wrong. Please try again."
  | some .null => .str "Network error. Please try again."
  | some data =>
    if (data.field "error").jsTruthy then data.field "error"
    else .str "Something went wrong. Please try again."

/-- The values in the text of `confirm-msg`. -/
structure Confirmation where
  serviceName : Val
  staffName : Val
  date : String
  time : String
  /-- Observation: the booking that was answered. -/
  sent : Val

/-- The code behind an `await fetch…`; `submitForm` keeps the date that it has read. -/
inductive OnlineResume where
  | loadServices
  | loadStaff
  | booking (date : String)

structure OnlineCall where
  action : String
  method : String
  body : Val
  resume : OnlineResume
  /-- the answer, while it is on its way -/
  answer : Option Answer

namespace OnlineCall

/-- The request as the API reads it; the page has no token. -/
def event (call : OnlineCall) (clock : Clock) (salt : Nat) : Event where
  clock
  salt
  request :=
    { action := call.action
      method := call.method
      headers := ⟨none, none, none, none⟩
      body := call.body }

/-- One for a booking that the answer accepts. -/
def takes (call : OnlineCall) (response : Response) : Nat :=
  match call.resume with
  | .booking _ => if response.ok then 1 else 0
  | _ => 0

def taken (call : OnlineCall) : Nat :=
  match call.answer with
  | none => 0
  | some answer => call.takes answer.response

end OnlineCall

structure OnlinePage where
  form : BookingPage
  /-- `state.serviceName` -/
  serviceName : Val
  /-- `state.staffName` -/
  staffName : Val
  /-- the chips are drawn -/
  ready : Bool
  /-- the form is shown, or else the confirmation -/
  formShown : Bool
  /-- `submit-btn` is disabled -/
  sending : Bool
  formError : Option Val
  confirmation : Option Confirmation
  inFlight : List OnlineCall

namespace OnlinePage

def firstAvailable : Val := .str "First available"

/-- The page when its script has run, with the first request of `init` on its way. -/
def opened : OnlinePage where
  form :=
    { serviceId := .null
      staffId := .null
      time := ""
      services := []
      staff := [] }
  serviceName := .str ""
  staffName := firstAvailable
  ready := false
  formShown := true
  sending := false
  formError := none
  confirmation := none
  inFlight := [⟨"services", "GET", .null, .loadServices, none⟩]

def send (call : OnlineCall) (s : OnlinePage) : OnlinePage :=
  { s with inFlight := s.inFlight ++ [call] }

/-- `state.services = await loadServices()`, and the second request. -/
def servicesLoaded (answer : Option (List Val)) (s : OnlinePage) : OnlinePage :=
  { s with form := { s.form with services := BookingPage.loadServices answer } }.send
    ⟨"staff", "GET", .null, .loadStaff, none⟩

/-- The rest of `init`. -/
def staffLoaded (answer : Option (List Val)) (s : OnlinePage) : OnlinePage :=
  { s with
    form :=
      { s.form with
        staff := BookingPage.loadStaff answer
        serviceId := BookingPage.firstService s.form.services }
    serviceName :=
      match s.form.services with
      | [] => s.serviceName
      | svc :: _ => chipName svc
    ready := true }

/-- `state.services[0]?.name || ''`. -/
def firstName (services : List Val) : Val :=
  match services with
  | [] => .str ""
  | svc :: _ => if (svc.field "name").jsTruthy then svc.field "name" else .str ""

/-- A click on a chip, and "Book another": `resetForm` leaves the button as it is. -/
def click (chip : Chip) (s : OnlinePage) : OnlinePage :=
  match chip with
  | .bookAnother =>
    if s.formShown then s
    else
      { s with
        form := s.form.click .bookAnother
        serviceName := firstName s.form.services
        staffName := firstAvailable
        formError := none
        formShown := true }
  | chip =>
    if s.formShown && s.ready then
      { s with
        form := s.form.click chip
        serviceName :=
          match chip with
          | .service i => (s.form.services[i]?.map chipName).getD s.serviceName
          | _ => s.serviceName
        staffName :=
          match chip with
          | .stylist 0 => firstAvailable
          | .stylist (i + 1) => (s.form.staff[i]?.map fun st => st.field "name").getD s.staffName
          | _ => s.staffName }
    else s

/-- A click on the button, unless it is disabled. -/
def submit (inputs : FormInputs) (s : OnlinePage) : OnlinePage :=
  if s.formShown && !s.sending then
    match s.form.submitForm inputs with
    | .showErr message => { s with formError := some (.str message) }
    | .send body =>
      { s with formError := none, sending := true }.send
        ⟨"book_online", "POST", body, .booking inputs.date, none⟩
  else s

/-- The button stays disabled behind a confirmation. -/
def confirmed (call : OnlineCall) (date : String) (s : OnlinePage) : OnlinePage :=
  { s with
    confirmation := some ⟨s.serviceName, s.staffName, date, s.form.time, call.body⟩
    formShown := false }

def showErr (message : Val) (s : OnlinePage) : OnlinePage :=
  { s with formError := some message, sending := false }

/-- Behind an `await`, with the answer, or with none where `fetch` throws. -/
def resume (call : OnlineCall) (response : Option Response) (s : OnlinePage) : OnlinePage :=
  match call.resume with
  | .loadServices => s.servicesLoaded (response.bind Response.list)
  | .loadStaff => s.staffLoaded (response.bind Response.list)
  | .booking date =>
    match response with
    | none => s.showErr (.str "Network error. Please try again.")
    | some response =>
      if response.ok then s.confirmed call date else s.showErr response.shownError

end OnlinePage

/-- What the visitor does. -/
inductive FormGesture where
  | reload
  | click (chip : Chip)
  | submit (inputs : FormInputs)

inductive OnlineEvent where
  | gesture (g : FormGesture)
  /-- the API answers a request of the page -/
  | serve (i : Nat) (clock : Clock) (salt : Nat)
  | arrive (i : Nat)
  /-- the connection of a request fails -/
  | lose (i : Nat)
  /-- the API answers a request whose connection has failed -/
  | serveLate (i : Nat) (clock : Clock) (salt : Nat)
  /-- a request of somebody else -/
  | other (e : Event)

/-- One visitor's page and the API. -/
structure OnlineSite where
  page : OnlinePage
  db : Db
  /-- the requests whose connection has failed, and which the API may still get -/
  adrift : List OnlineCall
  /-- Observation: the bookings of the page that the API has accepted since it was loaded. -/
  accepted : Nat
  /-- Observation: those among them whose answer was lost. -/
  lost : Nat

namespace OnlineSite

/-- To a page that is loaded again the old one's requests are somebody else's. -/
def gesture (g : FormGesture) (s : OnlineSite) : OnlineSite :=
  match g with
  | .reload => { s with page := .opened, adrift := [], accepted := 0, lost := 0 }
  | .click chip => { s with page := s.page.click chip }
  | .submit inputs => { s with page := s.page.submit inputs }

def serve (php : Platform) (i : Nat) (clock : Clock) (salt : Nat) (s : OnlineSite) : OnlineSite :=
  match s.page.inFlight[i]? with
  | none => s
  | some call =>
    match call.answer with
    | some _ => s
    | none =>
      let served := Source.serve php (call.event clock salt) s.db
      { s with
        page :=
          { s.page with
            inFlight := s.page.inFlight.set i
              { call with answer := some ⟨clock, served.response⟩ } }
        db := served.db
        accepted := s.accepted + call.takes served.response }

/-- A request is settled once. -/
def settle (call : OnlineCall) (i : Nat) (response : Option Response) (s : OnlineSite) :
    OnlineSite :=
  { s with
    page := { s.page with inFlight := s.page.inFlight.eraseIdx i }.resume call response }

def arrive (i : Nat) (s : OnlineSite) : OnlineSite :=
  match s.page.inFlight[i]? with
  | none => s
  | some call =>
    match call.answer with
    | none => s
    | some answer => s.settle call i (some answer.response)

def lose (i : Nat) (s : OnlineSite) : OnlineSite :=
  match s.page.inFlight[i]? with
  | none => s
  | some call =>
    { s.settle call i none with
      adrift := if call.answer.isSome then s.adrift else s.adrift ++ [call]
      lost := s.lost + call.taken }

def serveLate (php : Platform) (i : Nat) (clock : Clock) (salt : Nat) (s : OnlineSite) :
    OnlineSite :=
  match s.adrift[i]? with
  | none => s
  | some call =>
    let served := Source.serve php (call.event clock salt) s.db
    { s with
      adrift := s.adrift.eraseIdx i
      db := served.db
      accepted := s.accepted + call.takes served.response
      lost := s.lost + call.takes served.response }

def step (php : Platform) (e : OnlineEvent) (s : OnlineSite) : OnlineSite :=
  match e with
  | .gesture g => s.gesture g
  | .serve i clock salt => s.serve php i clock salt
  | .arrive i => s.arrive i
  | .lose i => s.lose i
  | .serveLate i clock salt => s.serveLate php i clock salt
  | .other e => { s with db := (Source.serve php e s.db).db }

end OnlineSite

end Saloon.Source
