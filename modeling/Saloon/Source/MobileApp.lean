import Mathlib.Data.Rat.Defs

/-!
# The providers of the mobile app

`lib/main.dart:88-410`: the three providers and their requests. A method runs up to its
`await http…`; what stands behind it runs when the response arrives, in any order
with the rest. Each request takes the token as its provider has it when it is sent.
-/
namespace Saloon.Source

/-- What `jsonDecode` returns. -/
inductive Json where
  | null
  | bool (b : Bool)
  | int (n : Int)
  | double (q : Rat)
  | str (s : String)
  | list (items : List Json)
  | map (entries : List (String × Json))

abbrev JsonMap : Type := List (String × Json)

namespace Json

/-- `data[k]` of a map. -/
def get (data : JsonMap) (k : String) : Json := (data.lookup k).getD null

/-- `v == true`. -/
def isTrue : Json → Bool
  | bool b => b
  | _ => false

/-- `v == 's'`. -/
def isStr (v : Json) (s : String) : Bool :=
  match v with
  | str t => t = s
  | _ => false

/-- The assignment of a `dynamic` to a `String?`; none where it throws. -/
def toNullableString : Json → Option (Option String)
  | null => some none
  | str s => some (some s)
  | _ => none

/-- The same to a `Map<String, dynamic>?`. -/
def toNullableMap : Json → Option (Option JsonMap)
  | null => some none
  | map entries => some (some entries)
  | _ => none

/-- The same to a `List<dynamic>`. -/
def toList : Json → Option (List Json)
  | list items => some items
  | _ => none

/-- `v.toString() == userId.toString()`: no text of a fraction, a truth value, a list or
a map is that of an integer or of null. -/
def sameText (v : Json) (userId : Option Int) : Bool :=
  match v, userId with
  | null, none => true
  | int n, some id => n = id
  | str s, none => s = "null"
  | str s, some id => s = toString id
  | _, _ => false

end Json

/-- How a request ends. -/
inductive Reply where
  /-- the `await` throws -/
  | failed
  /-- `body` is none when `jsonDecode` throws -/
  | response (statusCode : Nat) (body : Option Json)

namespace Reply

/-- `jsonDecode(response.body)`. -/
def decoded : Reply → Option Json
  | failed => none
  | response _ body => body

/-- The body behind `if (response.statusCode == 200)`. -/
def found : Reply → Option Json
  | failed => none
  | response statusCode body => if statusCode = 200 then body else none

/-- `response.statusCode == 200 && data['success'] == true`. -/
def succeeded (reply : Reply) : Bool :=
  match reply.found with
  | some (.map data) => (Json.get data "success").isTrue
  | _ => false

end Reply

/-- The code behind an `await http…`. -/
inductive Continuation where
  | login
  | stylistStatus (userId : Option Int)
  | availability (value : Bool)
  /-- `thenWallet`: inside the update of a status to 'completed' -/
  | queue (thenWallet : Bool)
  | wallet
  | appointmentStatus (status : String)
  | staff
  | metrics
  /-- `thenMetrics`: inside `logExpense` -/
  | expenses (thenMetrics : Bool)
  | expense

/-- A request that was sent. -/
structure Call where
  action : String
  /-- the token in the Authorization header -/
  bearer : Option String
  /-- what a POST carries -/
  body : Option JsonMap
  resume : Continuation

/-- A field that responses fill. -/
structure Fetched (α : Type) where
  value : α
  /-- Observation: the token in the request that filled it. -/
  bearer : Option String

/-- The assignment of what a response brought, if it is reached and does not throw. -/
def Fetched.assign {α : Type} (value : Option α) (bearer : Option String) (f : Fetched α) :
    Fetched α :=
  match value with
  | some value => ⟨value, bearer⟩
  | none => f

structure AuthProvider where
  token : Option String
  user : Option JsonMap
  isLoading : Bool
  errorMessage : Option String

structure StylistProvider where
  authToken : Option String
  isLoadingQueue : Bool
  isLoadingWallet : Bool
  isLoadingStatus : Bool
  queue : Fetched (List Json)
  walletData : Fetched (Option JsonMap)
  isAvailable : Bool

structure ManagerProvider where
  authToken : Option String
  isLoadingMetrics : Bool
  isLoadingExpenses : Bool
  isLoadingStaff : Bool
  dashboardData : Fetched (Option JsonMap)
  expenses : Fetched (List Json)
  staffList : Fetched (List Json)

namespace AuthProvider

def signOut (a : AuthProvider) : AuthProvider :=
  { a with token := none, user := none, errorMessage := none }

/-- What `catch (e)` does. -/
def connectionFailed (a : AuthProvider) : AuthProvider :=
  { a with
    errorMessage := some "Connection failed. Ensure backend server is running."
    isLoading := false }

/-- `_token = data['token']; _user = data['user']`: the second one can throw after the first. -/
def signIn (data : JsonMap) (a : AuthProvider) : AuthProvider :=
  match (Json.get data "token").toNullableString with
  | none => a.connectionFailed
  | some token =>
    match (Json.get data "user").toNullableMap with
    | none => { a with token }.connectionFailed
    | some user => { a with token, user, isLoading := false }

def refused (data : JsonMap) (a : AuthProvider) : AuthProvider :=
  match (Json.get data "error").toNullableString with
  | none => a.connectionFailed
  | some error =>
    { a with
      errorMessage := some (error.getD "Invalid username or password")
      isLoading := false }

/-- `login` behind its `await`. -/
def answered (reply : Reply) (a : AuthProvider) : AuthProvider :=
  match reply.decoded with
  | some (.map data) => if reply.succeeded then a.signIn data else a.refused data
  | _ => a.connectionFailed

end AuthProvider

namespace StylistProvider

def updateAuth (token : Option String) (p : StylistProvider) : StylistProvider :=
  if p.authToken = token then p
  else
    match token with
    | none =>
      { p with
        authToken := none
        queue := ⟨[], none⟩
        walletData := ⟨none, none⟩
        isAvailable := false }
    | some token => { p with authToken := some token }

/-- `staffList.firstWhere(…)`; none where an entry that is no map throws. -/
def findMe (userId : Option Int) : List Json → Option (Option JsonMap)
  | [] => some none
  | .map s :: rest =>
    if (Json.get s "user_id").sameText userId then some (some s) else findMe userId rest
  | _ :: _ => none

/-- The status that `loadStylistStatus` finds, if it gets that far. -/
def ownStatus (userId : Option Int) (reply : Reply) : Option Bool :=
  match (reply.found.bind Json.toList).bind (findMe userId) with
  | some (some me) => some ((Json.get me "status").isStr "available")
  | _ => none

def statusAnswered (userId : Option Int) (reply : Reply) (p : StylistProvider) : StylistProvider :=
  { p with
    isAvailable := (ownStatus userId reply).getD p.isAvailable
    isLoadingStatus := false }

def availabilityAnswered (value : Bool) (reply : Reply) (p : StylistProvider) : StylistProvider :=
  { p with
    isAvailable := if reply.succeeded then p.isAvailable else !value
    isLoadingStatus := false }

def queueAnswered (bearer : Option String) (reply : Reply) (p : StylistProvider) :
    StylistProvider :=
  { p with
    queue := p.queue.assign (reply.found.bind Json.toList) bearer
    isLoadingQueue := false }

def walletAnswered (bearer : Option String) (reply : Reply) (p : StylistProvider) :
    StylistProvider :=
  { p with
    walletData := p.walletData.assign (reply.found.bind Json.toNullableMap) bearer
    isLoadingWallet := false }

end StylistProvider

namespace ManagerProvider

def updateAuth (token : Option String) (p : ManagerProvider) : ManagerProvider :=
  if p.authToken = token then p
  else
    match token with
    | none =>
      { p with
        authToken := none
        dashboardData := ⟨none, none⟩
        expenses := ⟨[], none⟩
        staffList := ⟨[], none⟩ }
    | some token => { p with authToken := some token }

def staffAnswered (bearer : Option String) (reply : Reply) (p : ManagerProvider) :
    ManagerProvider :=
  { p with
    staffList := p.staffList.assign (reply.found.bind Json.toList) bearer
    isLoadingStaff := false }

def metricsAnswered (bearer : Option String) (reply : Reply) (p : ManagerProvider) :
    ManagerProvider :=
  { p with
    dashboardData := p.dashboardData.assign (reply.found.bind Json.toNullableMap) bearer
    isLoadingMetrics := false }

def expensesAnswered (bearer : Option String) (reply : Reply) (p : ManagerProvider) :
    ManagerProvider :=
  { p with
    expenses := p.expenses.assign (reply.found.bind Json.toList) bearer
    isLoadingExpenses := false }

end ManagerProvider

/-- The providers, and the requests whose responses are still to come. -/
structure MobileApp where
  auth : AuthProvider
  stylist : StylistProvider
  manager : ManagerProvider
  inFlight : List Call

namespace MobileApp

def start : MobileApp where
  auth := ⟨none, none, false, none⟩
  stylist := ⟨none, false, false, false, ⟨[], none⟩, ⟨none, none⟩, false⟩
  manager := ⟨none, false, false, false, ⟨none, none⟩, ⟨[], none⟩, ⟨[], none⟩⟩
  inFlight := []

def withStylist (f : StylistProvider → StylistProvider) (s : MobileApp) : MobileApp :=
  { s with stylist := f s.stylist }

def withManager (f : ManagerProvider → ManagerProvider) (s : MobileApp) : MobileApp :=
  { s with manager := f s.manager }

/-- The AuthProvider changes and notifies: both proxies run `updateAuth(auth.token)`. -/
def setAuth (auth : AuthProvider) (s : MobileApp) : MobileApp :=
  { s with
    auth
    stylist := s.stylist.updateAuth auth.token
    manager := s.manager.updateAuth auth.token }

def send (call : Call) (s : MobileApp) : MobileApp :=
  { s with inFlight := s.inFlight ++ [call] }

def logout (s : MobileApp) : MobileApp := s.setAuth s.auth.signOut

def login (username password : String) (s : MobileApp) : MobileApp :=
  (s.setAuth { s.auth with isLoading := true, errorMessage := none }).send
    ⟨"login", none, some [("username", .str username), ("password", .str password)], .login⟩

/-- `if (_authToken == null) return;`, what is set before the request, and the request. -/
def request (authToken : Option String) (set : MobileApp → MobileApp) (call : String → Call)
    (s : MobileApp) : MobileApp :=
  match authToken with
  | none => s
  | some token => (set s).send (call token)

/-- The public staff list: this one carries no token. -/
def loadStylistStatus (userId : Option Int) (s : MobileApp) : MobileApp :=
  s.request s.stylist.authToken (withStylist fun p => { p with isLoadingStatus := true })
    fun _ => ⟨"staff", none, none, .stylistStatus userId⟩

def toggleAvailability (value : Bool) (s : MobileApp) : MobileApp :=
  s.request s.stylist.authToken
    (withStylist fun p => { p with isAvailable := value, isLoadingStatus := true })
    fun token => ⟨"staff_update_status", some token,
      some [("status", .str (if value then "available" else "off"))], .availability value⟩

def loadQueue (thenWallet : Bool) (s : MobileApp) : MobileApp :=
  s.request s.stylist.authToken (withStylist fun p => { p with isLoadingQueue := true })
    fun token => ⟨"appointments_today", some token, none, .queue thenWallet⟩

def loadWallet (s : MobileApp) : MobileApp :=
  s.request s.stylist.authToken (withStylist fun p => { p with isLoadingWallet := true })
    fun token => ⟨"stylist_payouts", some token, none, .wallet⟩

def updateAppointmentStatus (id : Int) (status : String) (s : MobileApp) : MobileApp :=
  s.request s.stylist.authToken (fun s => s)
    fun token => ⟨"appointments_update", some token,
      some [("id", .int id), ("status", .str status)], .appointmentStatus status⟩

def loadStaff (s : MobileApp) : MobileApp :=
  s.request s.manager.authToken (withManager fun p => { p with isLoadingStaff := true })
    fun token => ⟨"staff", some token, none, .staff⟩

def loadMetrics (s : MobileApp) : MobileApp :=
  s.request s.manager.authToken (withManager fun p => { p with isLoadingMetrics := true })
    fun token => ⟨"dashboard", some token, none, .metrics⟩

def loadExpenses (thenMetrics : Bool) (s : MobileApp) : MobileApp :=
  s.request s.manager.authToken (withManager fun p => { p with isLoadingExpenses := true })
    fun token => ⟨"expenses", some token, none, .expenses thenMetrics⟩

/-- `today` is the date of the phone's clock. -/
def logExpense (category : String) (amount : Rat) (description today : String) (s : MobileApp) :
    MobileApp :=
  s.request s.manager.authToken (fun s => s)
    fun token => ⟨"expenses", some token,
      some [("category", .str category), ("amount", .double amount),
        ("description", .str description), ("expense_date", .str today)], .expense⟩

/-- A method goes on behind its `await`; a load that is awaited inside another method
is sent with the token of that moment. -/
def resume (call : Call) (reply : Reply) (s : MobileApp) : MobileApp :=
  match call.resume with
  | .login => s.setAuth (s.auth.answered reply)
  | .stylistStatus userId => s.withStylist (.statusAnswered userId reply)
  | .availability value => s.withStylist (.availabilityAnswered value reply)
  | .queue thenWallet =>
    let s := s.withStylist (.queueAnswered call.bearer reply)
    if thenWallet then s.loadWallet else s
  | .wallet => s.withStylist (.walletAnswered call.bearer reply)
  | .appointmentStatus status =>
    if reply.succeeded then s.loadQueue (status = "completed") else s
  | .staff => s.withManager (.staffAnswered call.bearer reply)
  | .metrics => s.withManager (.metricsAnswered call.bearer reply)
  | .expenses thenMetrics =>
    let s := s.withManager (.expensesAnswered call.bearer reply)
    if thenMetrics then s.loadMetrics else s
  | .expense => if reply.succeeded then s.loadExpenses true else s

/-- The response to the request at position `i` of those in flight. -/
def arrive (i : Nat) (reply : Reply) (s : MobileApp) : MobileApp :=
  match s.inFlight[i]? with
  | none => s
  | some call => { s with inFlight := s.inFlight.eraseIdx i }.resume call reply

end MobileApp

/-- The methods that send a request. -/
inductive Method where
  | login (username password : String)
  | loadStylistStatus (userId : Option Int)
  | toggleAvailability (value : Bool)
  | loadQueue
  | loadWallet
  | updateAppointmentStatus (id : Int) (status : String)
  | loadStaff
  | loadMetrics
  | loadExpenses
  | logExpense (category : String) (amount : Rat) (description today : String)

def MobileApp.call : Method → MobileApp → MobileApp
  | .login username password => login username password
  | .loadStylistStatus userId => loadStylistStatus userId
  | .toggleAvailability value => toggleAvailability value
  | .loadQueue => loadQueue false
  | .loadWallet => loadWallet
  | .updateAppointmentStatus id status => updateAppointmentStatus id status
  | .loadStaff => loadStaff
  | .loadMetrics => loadMetrics
  | .loadExpenses => loadExpenses false
  | .logExpense category amount description today => logExpense category amount description today

/-- What the screens do, and the responses, in any order. -/
inductive MobileEvent where
  | call (m : Method)
  | logout
  | arrive (i : Nat) (reply : Reply)

def MobileApp.step (e : MobileEvent) (s : MobileApp) : MobileApp :=
  match e with
  | .call m => s.call m
  | .logout => s.logout
  | .arrive i reply => s.arrive i reply

section Specs

/-- The token that a login's response assigns. -/
def Reply.granted (reply : Reply) : Option (Option String) :=
  match reply.found with
  | some (.map data) =>
    if (Json.get data "success").isTrue then (Json.get data "token").toNullableString else none
  | _ => none

namespace AuthProvider

variable {a : AuthProvider}

@[simp] theorem token_refused (data : JsonMap) : (a.refused data).token = a.token := by
  unfold refused
  split <;> rfl

theorem token_signIn (data : JsonMap) :
    (a.signIn data).token = (Json.get data "token").toNullableString.getD a.token := by
  unfold signIn
  cases (Json.get data "token").toNullableString with
  | none => rfl
  | some token => cases (Json.get data "user").toNullableMap <;> rfl

/-- A login's response changes the token only to one that it grants. -/
theorem token_answered (reply : Reply) :
    (a.answered reply).token = reply.granted.getD a.token := by
  cases reply with
  | failed => rfl
  | response statusCode body =>
    by_cases ok : statusCode = 200
    · cases body with
      | none => simp [answered, connectionFailed, Reply.decoded, Reply.granted, Reply.found]
      | some v =>
        cases v with
        | map data =>
          simp only [answered, Reply.decoded, Reply.succeeded, Reply.granted, Reply.found, if_pos ok]
          split
          · exact token_signIn data
          · exact token_refused data
        | _ => simp [answered, connectionFailed, Reply.decoded, Reply.granted, Reply.found, ok]
    · have nothing : (Reply.response statusCode body).found = none := if_neg ok
      simp only [answered, Reply.decoded, Reply.succeeded, Reply.granted, nothing]
      split
      · exact token_refused _
      · rfl

end AuthProvider

@[simp] theorem StylistProvider.authToken_updateAuth (token : Option String)
    (p : StylistProvider) : (p.updateAuth token).authToken = token := by
  unfold updateAuth
  split
  · assumption
  · split <;> rfl

@[simp] theorem ManagerProvider.authToken_updateAuth (token : Option String)
    (p : ManagerProvider) : (p.updateAuth token).authToken = token := by
  unfold updateAuth
  split
  · assumption
  · split <;> rfl

/-- The response of the call is to fill a field. -/
def Call.Loads (call : Call) : Prop :=
  match call.resume with
  | .queue _ | .wallet | .staff | .metrics | .expenses _ => True
  | _ => False

namespace MobileApp

variable {s t : MobileApp}

/-- The providers have the token of the AuthProvider. -/
structure Synced (s : MobileApp) : Prop where
  stylist : s.stylist.authToken = s.auth.token
  manager : s.manager.authToken = s.auth.token

theorem synced_setAuth (auth : AuthProvider) (s : MobileApp) : (s.setAuth auth).Synced :=
  ⟨StylistProvider.authToken_updateAuth .., ManagerProvider.authToken_updateAuth ..⟩

/-- The two differ in flags only. -/
structure Flagged (s t : MobileApp) : Prop where
  token : t.auth.token = s.auth.token
  stylist : t.stylist.authToken = s.stylist.authToken
  manager : t.manager.authToken = s.manager.authToken
  queue : t.stylist.queue = s.stylist.queue
  walletData : t.stylist.walletData = s.stylist.walletData
  dashboardData : t.manager.dashboardData = s.manager.dashboardData
  expenses : t.manager.expenses = s.manager.expenses
  staffList : t.manager.staffList = s.manager.staffList
  inFlight : t.inFlight = s.inFlight

theorem Flagged.refl (s : MobileApp) : Flagged s s :=
  ⟨rfl, rfl, rfl, rfl, rfl, rfl, rfl, rfl, rfl⟩

theorem flagged_withStylist {f : StylistProvider → StylistProvider}
    (kept : ∀ p, (f p).authToken = p.authToken ∧ (f p).queue = p.queue ∧
      (f p).walletData = p.walletData) : Flagged s (s.withStylist f) :=
  { Flagged.refl s with
    stylist := (kept s.stylist).1
    queue := (kept s.stylist).2.1
    walletData := (kept s.stylist).2.2 }

theorem flagged_withManager {f : ManagerProvider → ManagerProvider}
    (kept : ∀ p, (f p).authToken = p.authToken ∧ (f p).dashboardData = p.dashboardData ∧
      (f p).expenses = p.expenses ∧ (f p).staffList = p.staffList) :
    Flagged s (s.withManager f) :=
  { Flagged.refl s with
    manager := (kept s.manager).1
    dashboardData := (kept s.manager).2.1
    expenses := (kept s.manager).2.2.1
    staffList := (kept s.manager).2.2.2 }

/-- From `s` to `t` at most one request was sent, a load with the current token. -/
inductive Sends (s : MobileApp) : MobileApp → Prop
  | nothing : Sends s s
  | request {t : MobileApp} {call : Call} (flagged : Flagged s t)
      (current : call.Loads → s.auth.token ≠ none ∧ call.bearer = s.auth.token) :
      Sends s (t.send call)

theorem Sends.synced (sends : Sends s t) (synced : s.Synced) : t.Synced := by
  cases sends with
  | nothing => exact synced
  | request flagged _ =>
    exact ⟨flagged.stylist.trans (synced.stylist.trans flagged.token.symm),
      flagged.manager.trans (synced.manager.trans flagged.token.symm)⟩

theorem Sends.token (sends : Sends s t) : t.auth.token = s.auth.token := by
  cases sends with
  | nothing => rfl
  | request flagged _ => exact flagged.token

theorem sends_request {authToken : Option String} {set : MobileApp → MobileApp}
    {call : String → Call} (flagged : Flagged s (set s)) (own : authToken = s.auth.token)
    (bears : ∀ token, (call token).Loads → (call token).bearer = some token) :
    Sends s (s.request authToken set call) := by
  cases authToken with
  | none => exact .nothing
  | some token =>
    exact .request flagged fun loads => ⟨by simp [← own], (bears token loads).trans own⟩

theorem sends_loadQueue (synced : s.Synced) (thenWallet : Bool) :
    Sends s (s.loadQueue thenWallet) :=
  sends_request (flagged_withStylist fun _ => ⟨rfl, rfl, rfl⟩) synced.stylist fun _ _ => rfl

theorem sends_loadWallet (synced : s.Synced) : Sends s s.loadWallet :=
  sends_request (flagged_withStylist fun _ => ⟨rfl, rfl, rfl⟩) synced.stylist fun _ _ => rfl

theorem sends_loadMetrics (synced : s.Synced) : Sends s s.loadMetrics :=
  sends_request (flagged_withManager fun _ => ⟨rfl, rfl, rfl, rfl⟩) synced.manager fun _ _ => rfl

theorem sends_loadExpenses (synced : s.Synced) (thenMetrics : Bool) :
    Sends s (s.loadExpenses thenMetrics) :=
  sends_request (flagged_withManager fun _ => ⟨rfl, rfl, rfl, rfl⟩) synced.manager fun _ _ => rfl

/-- What the response changes, before the method goes on to another load. -/
def answer (call : Call) (reply : Reply) (s : MobileApp) : MobileApp :=
  match call.resume with
  | .login => s.setAuth (s.auth.answered reply)
  | .stylistStatus userId => s.withStylist (.statusAnswered userId reply)
  | .availability value => s.withStylist (.availabilityAnswered value reply)
  | .queue _ => s.withStylist (.queueAnswered call.bearer reply)
  | .wallet => s.withStylist (.walletAnswered call.bearer reply)
  | .appointmentStatus _ => s
  | .staff => s.withManager (.staffAnswered call.bearer reply)
  | .metrics => s.withManager (.metricsAnswered call.bearer reply)
  | .expenses _ => s.withManager (.expensesAnswered call.bearer reply)
  | .expense => s

theorem synced_answer (synced : s.Synced) (call : Call) (reply : Reply) :
    (s.answer call reply).Synced := by
  unfold answer
  cases call.resume with
  | login => exact synced_setAuth _ s
  | _ => exact ⟨synced.stylist, synced.manager⟩

@[simp] theorem inFlight_answer (call : Call) (reply : Reply) :
    (s.answer call reply).inFlight = s.inFlight := by
  unfold answer
  cases call.resume <;> rfl

theorem sends_resume (synced : s.Synced) (call : Call) (reply : Reply) :
    Sends (s.answer call reply) (s.resume call reply) := by
  unfold resume answer
  cases call.resume with
  | queue thenWallet =>
    cases thenWallet with
    | false => exact .nothing
    | true => exact sends_loadWallet ⟨synced.stylist, synced.manager⟩
  | appointmentStatus status =>
    dsimp only
    split
    · exact sends_loadQueue synced _
    · exact .nothing
  | expenses thenMetrics =>
    cases thenMetrics with
    | false => exact .nothing
    | true => exact sends_loadMetrics ⟨synced.stylist, synced.manager⟩
  | expense =>
    dsimp only
    split
    · exact sends_loadExpenses synced _
    · exact .nothing
  | _ => exact .nothing

/-- A method sends its request, or none without a token. -/
theorem sends_call (synced : s.Synced) (m : Method) : Sends s (s.call m) := by
  cases m with
  | login username password =>
    have stylist : s.stylist.updateAuth s.auth.token = s.stylist := if_pos synced.stylist
    have manager : s.manager.updateAuth s.auth.token = s.manager := if_pos synced.manager
    have flagged : Flagged s (s.setAuth { s.auth with isLoading := true, errorMessage := none }) := by
      simp only [setAuth, stylist, manager]
      exact { Flagged.refl s with token := rfl }
    exact .request flagged False.elim
  | loadStylistStatus userId =>
    exact sends_request (flagged_withStylist fun _ => ⟨rfl, rfl, rfl⟩) synced.stylist
      fun _ => False.elim
  | toggleAvailability value =>
    exact sends_request (flagged_withStylist fun _ => ⟨rfl, rfl, rfl⟩) synced.stylist
      fun _ => False.elim
  | loadQueue => exact sends_loadQueue synced false
  | loadWallet => exact sends_loadWallet synced
  | updateAppointmentStatus id status =>
    rw [call, updateAppointmentStatus]
    exact sends_request (.refl s) synced.stylist fun _ => False.elim
  | loadStaff =>
    exact sends_request (flagged_withManager fun _ => ⟨rfl, rfl, rfl, rfl⟩) synced.manager
      fun _ _ => rfl
  | loadMetrics => exact sends_loadMetrics synced
  | loadExpenses => exact sends_loadExpenses synced false
  | logExpense category amount description today =>
    rw [call, logExpense]
    exact sends_request (.refl s) synced.manager fun _ => False.elim

theorem synced_resume (synced : s.Synced) (call : Call) (reply : Reply) :
    (s.resume call reply).Synced :=
  (sends_resume synced call reply).synced (synced_answer synced call reply)

theorem synced_step (e : MobileEvent) (synced : s.Synced) : (s.step e).Synced := by
  cases e with
  | call m => exact (sends_call synced m).synced synced
  | logout => exact synced_setAuth _ s
  | arrive i reply =>
    show (s.arrive i reply).Synced
    unfold arrive
    split
    · exact synced
    · rename_i call _
      have less : ({ s with inFlight := s.inFlight.eraseIdx i } : MobileApp).Synced :=
        ⟨synced.stylist, synced.manager⟩
      exact synced_resume less call reply

end MobileApp

end Specs

end Saloon.Source
