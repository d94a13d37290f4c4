import Saloon.Guarantees.Bearers

/-!
# Sessions of the back office

The web client and the API together, with the answers on their way in between. The
session in localStorage, the user of the script and the screen change together, and
an answer takes a session away only where the token is no longer good, or was not the
token of the request.
-/
namespace Saloon.Guarantees

open Lib Source

section Sending

variable {s t : AdminApp} {source : Option (AdminCall × Option Val)}

/-- The requests that the app sends, with the token of that moment; `source` is the request
whose answer it goes on with. -/
inductive Dispatched (s : AdminApp) (source : Option (AdminCall × Option Val)) :
    AdminCall → Prop where
  | login (body : Val) : Dispatched s source ⟨"login", "POST", body, s.bearer, .login, none⟩
  | first (p : Page) (someone : p = .staff → s.currentUser.isSome = true) :
      Dispatched s source ⟨p.firstAction, "GET", .null, s.bearer, .render p [], none⟩
  | next {call : AdminCall} {result : Option Val} {p : Page} {pieces : List Piece}
      {action : String} (behind : source = some (call, result))
      (rendering : call.resume = .render p pieces)
      (turn : p.turn s.currentUser (pieces ++ [call.piece result]) = .fetch action) :
      Dispatched s source
        ⟨action, "GET", .null, s.bearer, .render p (pieces ++ [call.piece result]), none⟩
  | act (a : Act) (body : Val) :
      Dispatched s source ⟨a.action, "POST", body, s.bearer, .saved a.page, none⟩
  | dialogServices :
      Dispatched s source ⟨"services", "GET", .null, s.bearer, .dialogServices, none⟩
  | dialogStaff (services : Option Val) :
      Dispatched s source ⟨"staff", "GET", .null, s.bearer, .dialogStaff services, none⟩
  | booking (inputs : DialogInputs) {service stylist : String}
      (offered : stylist ∈ s.staffOptions) :
      Dispatched s source ⟨"appointments", "POST", AdminApp.dialogPayload inputs service stylist,
        s.bearer, .booked, none⟩

/-- From `s` to `t` the app sends at most one request. -/
def Sends (source : Option (AdminCall × Option Val)) (s t : AdminApp) : Prop :=
  ∀ call ∈ t.inFlight, call ∈ s.inFlight ∨ Dispatched t source call

theorem sends_of_eq (same : t.inFlight = s.inFlight) : Sends source s t := by
  intro call member
  rw [same] at member
  exact .inl member

theorem sends_send {action method : String} {body : Val} {resume : AdminResume}
    (sent : Dispatched (s.send action method body resume) source
      ⟨action, method, body, s.bearer, resume, none⟩) :
    Sends source s (s.send action method body resume) := by
  intro call member
  rcases List.mem_append.mp member with old | new
  · exact .inl old
  · rw [List.mem_singleton.mp new]
    exact .inr sent

theorem sends_load {p : Page} (someone : p = .staff → s.currentUser.isSome = true) :
    Sends source s (s.load p) := by
  intro call member
  rcases List.mem_append.mp member with old | new
  · exact .inl old
  · rw [List.mem_singleton.mp new]
    exact .inr (.first p someone)

theorem sends_render (p : Page) : Sends source s (s.render p) := by
  unfold AdminApp.render
  split
  · split
    · exact sends_of_eq rfl
    · split
      · exact sends_of_eq rfl
      · rename_i user current _
        exact sends_load fun _ => Option.isSome_iff_exists.mpr ⟨user, current⟩
  · rename_i other
    exact sends_load fun staff => absurd staff other

theorem sends_rendered {call : AdminCall} {result : Option Val} {p : Page} {pieces : List Piece}
    (rendering : call.resume = .render p pieces) :
    Sends (some (call, result)) s (s.rendered p (pieces ++ [call.piece result])) := by
  unfold AdminApp.rendered
  cases turn : p.turn s.currentUser (pieces ++ [call.piece result]) with
  | leave => exact sends_of_eq rfl
  | fetch action => exact sends_send (.next rfl rendering turn)
  | draw =>
    dsimp only
    unfold AdminApp.draw
    split
    · exact sends_of_eq rfl
    · exact sends_of_eq rfl

theorem sends_showApp : Sends source s s.showApp := by
  unfold AdminApp.showApp
  split
  · exact sends_of_eq rfl
  · split
    · exact sends_render (s := { s with visible := true }) s.currentPage
    · exact sends_of_eq rfl

theorem sends_booked : Sends source s s.booked := by
  unfold AdminApp.booked
  split
  · exact sends_render (s := s.closeDialog) .dashboard
  · exact sends_render (s := s.closeDialog) .appointments
  · exact sends_of_eq rfl

theorem sends_dialogFilled (services staff : Option Val) (bearer : Option String) :
    Sends source s (s.dialogFilled services staff bearer) := by
  unfold AdminApp.dialogFilled
  split
  · split
    · exact sends_of_eq rfl
    · dsimp only
      split
      · exact sends_of_eq rfl
      · exact sends_of_eq rfl
  · exact sends_of_eq rfl

theorem sends_loggedIn (res : Val) : Sends source s (s.loggedIn res) := by
  unfold AdminApp.loggedIn
  split
  · exact sends_showApp
  · exact sends_of_eq rfl

theorem sends_gesture (g : Gesture) : Sends none s (s.gesture g) := by
  cases g with
  | reload =>
    show Sends none s (AdminApp.checkSession _)
    have fresh : Sends none { AdminApp.start with token := s.token, storedUser := s.storedUser }
        (AdminApp.checkSession
          { AdminApp.start with token := s.token, storedUser := s.storedUser }) := by
      unfold AdminApp.checkSession
      split
      · exact sends_showApp
      · exact sends_of_eq rfl
    intro call member
    exact (fresh call member).imp_left fun none => nomatch none
  | submitLogin username password =>
    show Sends none s (s.submitLogin username password)
    unfold AdminApp.submitLogin
    split
    · exact sends_of_eq rfl
    · exact sends_send (s := { s with loginError := false }) (.login _)
  | clickLogout =>
    show Sends none s s.clickLogout
    unfold AdminApp.clickLogout
    split <;> exact sends_of_eq rfl
  | navigate p =>
    show Sends none s (s.navigate p)
    unfold AdminApp.navigate
    split
    · exact sends_render (s := { s with currentPage := p }) p
    · exact sends_of_eq rfl
  | setAptFilter filter =>
    show Sends none s (s.setAptFilter filter)
    unfold AdminApp.setAptFilter
    split
    · exact sends_render (s := { s with activeAptFilter := filter }) .appointments
    · exact sends_of_eq rfl
  | act a body =>
    show Sends none s (s.act a body)
    unfold AdminApp.act
    split
    · exact sends_send (.act a body)
    · exact sends_of_eq rfl
  | newAppointment =>
    show Sends none s s.newAppointment
    unfold AdminApp.newAppointment
    split
    · exact sends_send .dialogServices
    · exact sends_of_eq rfl
  | closeDialog => exact sends_of_eq rfl
  | submitAppointment inputs =>
    show Sends none s (s.submitAppointment inputs)
    unfold AdminApp.submitAppointment
    split
    · split
      · exact sends_send (.booking inputs (List.mem_of_getElem? ‹_›))
      · exact sends_of_eq rfl
    · exact sends_of_eq rfl

theorem sends_resume (call : AdminCall) (result : Option Val) :
    Sends (some (call, result)) s (s.resume call result) := by
  unfold AdminApp.resume
  cases resume : call.resume with
  | login =>
    dsimp only
    split
    · split
      · exact sends_loggedIn _
      · exact sends_of_eq rfl
    · exact sends_of_eq rfl
  | render p pieces => exact sends_rendered resume
  | saved p =>
    dsimp only
    split
    · exact sends_render p
    · exact sends_of_eq rfl
  | dialogServices => exact sends_send (.dialogStaff _)
  | dialogStaff services => exact sends_dialogFilled _ _ _
  | booked =>
    dsimp only
    split
    · exact sends_booked
    · exact sends_of_eq rfl

theorem sends_settle (call : AdminCall) (result : FetchResult) :
    Sends (some (call, result.value)) s (s.settle call result) := by
  cases result with
  | unauthorized => exact sends_resume (s := s.logout) call none
  | failed => exact sends_resume call none
  | data v => exact sends_resume call (some v)

end Sending

section Calls

variable {php : Platform} {s : BackOffice}

/-- The answer on its way is the API's to this request, on some database. -/
def FromApi (php : Platform) (call : AdminCall) : Prop :=
  ∀ answer, call.answer = some answer → ∃ salt db,
    answer.response = (serve php (call.event answer.clock salt) db).response

/-- What an `await` returned: null, or the data of an answer. -/
def Brought (call : AdminCall) (result : Option Val) : Prop :=
  ∀ v, result = some v → ∃ answer, call.answer = some answer ∧ fetchData answer.response = .data v

/-- The app with its position `i` settled, or as it was. -/
inductive Arrival (s : AdminApp) (i : Nat) (t : AdminApp) : Prop where
  | nothing (same : t = s)
  | settled {call : AdminCall} {result : FetchResult} (found : s.inFlight[i]? = some call)
      (brought : Brought call result.value)
      (after : t = AdminApp.settle call result { s with inFlight := s.inFlight.eraseIdx i })

theorem arrival_arrive (s : AdminApp) (i : Nat) : Arrival s i (s.arrive i) := by
  unfold AdminApp.arrive
  split
  · exact .nothing rfl
  · rename_i call found
    split
    · exact .nothing rfl
    · rename_i answer answered
      refine .settled found (fun v value => ⟨answer, answered, ?_⟩) rfl
      cases outcome : fetchData answer.response with
      | unauthorized => rw [outcome] at value; cases value
      | failed => rw [outcome] at value; cases value
      | data w =>
        rw [outcome] at value
        cases value
        rfl

theorem arrival_lose (s : AdminApp) (i : Nat) : Arrival s i (s.lose i) := by
  unfold AdminApp.lose
  split
  · exact .nothing rfl
  · exact .settled ‹_› (fun v value => by cases value) rfl

/-- What a request has when it is sent, and what an answer of the API adds, every request
in flight has. -/
theorem calls_step {P : AdminCall → Prop}
    (e : OfficeEvent)
    (fresh : ∀ source call,
      (∀ before result, source = some (before, result) → P before ∧ Brought before result) →
        Dispatched (s.step php e).app source call → P call)
    (answered : ∀ call clock salt, P call → call.answer = none →
      P { call with answer := some ⟨clock, (serve php (call.event clock salt) s.db).response⟩ })
    (all : ∀ call ∈ s.app.inFlight, P call) :
    ∀ call ∈ (s.step php e).app.inFlight, P call := by
  have arrived {i : Nat} (arrival : Arrival s.app i (s.step php e).app) :
      ∀ call ∈ (s.step php e).app.inFlight, P call := by
    cases arrival with
    | nothing same =>
      rw [same]
      exact all
    | @settled before result found brought after =>
      intro call member
      rw [after] at member
      rcases sends_settle before result call member with old | new
      · exact all call (List.mem_of_mem_eraseIdx old)
      · refine fresh _ call (fun other value same => ?_) (after ▸ new)
        cases same
        exact ⟨all before (List.mem_of_getElem? found), brought⟩
  cases e with
  | gesture g =>
    intro call member
    rcases sends_gesture g call member with old | new
    · exact all call old
    · exact fresh none call (fun _ _ none => nomatch none) new
  | serve i clock salt =>
    show ∀ call ∈ (s.serve php i clock salt).app.inFlight, P call
    unfold BackOffice.serve
    split
    · exact all
    · rename_i call found
      split
      · exact all
      · intro other member
        rcases List.mem_or_eq_of_mem_set member with old | rfl
        · exact all other old
        · exact answered call clock salt (all call (List.mem_of_getElem? found)) ‹_›
  | arrive i => exact arrived (arrival_arrive s.app i)
  | lose i => exact arrived (arrival_lose s.app i)
  | other e => exact all

end Calls

section Answers

variable {php : Platform} {e : Event} {P : Val → Prop}

theorem fetchData_eq_data {response : Response} {v : Val} :
    fetchData response = .data v ↔
      response.output = some v ∧ 200 ≤ response.status ∧ response.status < 300 := by
  obtain ⟨status, output⟩ := response
  unfold fetchData
  split
  · rename_i refused
    refine ⟨fun data => (by cases data), fun ⟨_, _, below⟩ => ?_⟩
    rw [refused] at below
    exact absurd below (by decide)
  · cases output with
    | none => simp
    | some w =>
      dsimp only
      split
      · simp [*]
      · simp [*]

/-- What `fetchData` returns of the answer, if anything, meets `P`. -/
def Brings (P : Val → Prop) (response : Response) : Prop :=
  ∀ v, fetchData response = .data v → P v

theorem brings_json {data : Val} {status : Nat} (meets : P data) : Brings P ⟨status, some data⟩ := by
  intro v brought
  obtain ⟨output, -⟩ := fetchData_eq_data.mp brought
  obtain rfl : data = v := Option.some.inj output
  exact meets

theorem brings_failed {response : Response} (bad : 300 ≤ response.status) : Brings P response := by
  intro v brought
  obtain ⟨-, -, below⟩ := fetchData_eq_data.mp brought
  omega

theorem refusal_status {clock : Clock} {headers : Headers} {roles : List Role}
    {response : Response}
    (refused : AuthMiddleware.check php clock headers roles = .error response) :
    300 ≤ response.status := by
  rw [AuthMiddleware.check, AuthMiddleware.ruling] at refused
  split at refused
  · cases refused
    decide
  · split at refused
    · split at refused
      · dsimp only at refused
        split at refused
        · cases refused
          decide
        · split at refused
          · cases refused
          · cases refused
            decide
      · cases refused
        decide
    · cases refused
      decide

theorem brings_handle {env : Env} {roles : List Role} {k : Val → Php Unit}
    (passed : ∀ payload, Responds (Brings P) (k payload)) :
    Responds (Brings P) (env.handle roles >>= k) :=
  responds_handle (fun _ refused => brings_failed (refusal_status refused)) passed

theorem brings_list {rows : Db → List Val} (each : ∀ db, P (.list (rows db))) :
    Responds (Brings P) (list rows) := responds_list fun db => brings_json (each db)

theorem serve_brings (responds : Responds (Brings P) (index php e)) (db : Db) :
    Brings P (serve php e db).response :=
  serve_responds responds (fun _ data => by cases data) (fun _ data => by cases data) db

/-- What a login's success brings: a token of the API, and a user with a role. -/
def Granted (php : Platform) (res : Val) : Prop :=
  ∃ token, res.field "token" = .str token ∧ Issued php token ∧
    ((res.field "user").field "role").isText = true

theorem login_grants (e : Event) :
    Responds (Brings (Granted php)) (AuthController.login (e.env php)) := by
  refine responds_ite (fun _ => ?_) fun _ => ?_
  · exact responds_json (brings_failed (show 300 ≤ 400 by decide))
  · refine responds_bind (responds_exec _) fun user => ?_
    cases user with
    | none => exact responds_json (brings_failed (show 300 ≤ 401 by decide))
    | some user =>
      refine Prog.yields_bind
        (P := fun token => ∃ clock payload exp,
          token = JWT.token php (JWT.message php clock payload exp))
        ⟨fun s token made => ?_, fun s e stopped => by cases stopped⟩ ?_
      · cases made
        exact ⟨_, _, _, rfl⟩
      · rintro _ ⟨clock, payload, exp, rfl⟩
        exact responds_json (brings_json ⟨_, rfl, ⟨clock, payload, exp, rfl⟩, rfl⟩)

theorem serve_grants (asked : Asks e "login" ["POST"]) (db : Db) :
    Brings (Granted php) (serve php e db).response := by
  refine serve_brings ?_ db
  rw [index_login asked]
  exact login_grants e

end Answers

section Sessions

variable {php : Platform} {s t : AdminApp}

/-- The login screen is shown and nothing is kept, or the app is shown and localStorage has
its user with a token of the API. -/
inductive SessionKept (php : Platform) (f : AdminApp.Frame) : Prop where
  | loggedOut (hidden : f.visible = false) (token : f.token = none) (stored : f.storedUser = none)
      (user : f.currentUser = none)
  | loggedIn {token : String} {user : Val} (shown : f.visible = true) (kept : f.token = some token)
      (stored : f.storedUser = some user) (current : f.currentUser = some user)
      (issued : Issued php token) (role : (user.field "role").isText = true)

theorem frame_showApp (s : AdminApp) : s.showApp.frame = { s.frame with visible := true } := by
  unfold AdminApp.showApp
  split
  · rfl
  · split
    · exact AdminApp.frame_render { s with visible := true } s.currentPage
    · rfl

theorem kept_start : SessionKept php AdminApp.start.frame := .loggedOut rfl rfl rfl rfl

theorem kept_logout : SessionKept php s.logout.frame := .loggedOut rfl rfl rfl rfl

/-- The session does not depend on the page. -/
theorem SessionKept.page {f g : AdminApp.Frame} (kept : SessionKept php f)
    (token : g.token = f.token) (stored : g.storedUser = f.storedUser)
    (current : g.currentUser = f.currentUser) (visible : g.visible = f.visible) :
    SessionKept php g := by
  cases kept with
  | loggedOut hidden none nothing nobody =>
    exact .loggedOut (visible.trans hidden) (token.trans none) (stored.trans nothing)
      (current.trans nobody)
  | loggedIn shown own user same issued role =>
    exact .loggedIn (visible.trans shown) (token.trans own) (stored.trans user)
      (current.trans same) issued role

/-- The script that starts again shows the app to the user whom localStorage has. -/
theorem reload_cases (kept : SessionKept php s.frame) :
    s.reload = .start ∨ ∃ token user, Issued php token ∧ (user.field "role").isText = true ∧
      s.token = some token ∧ s.reload = AdminApp.showApp
        { AdminApp.start with
          token := some token
          storedUser := some user
          currentUser := some user } := by
  cases kept with
  | loggedOut _ token stored _ =>
    have none : s.token = none := token
    have nothing : s.storedUser = Option.none := stored
    rw [AdminApp.reload, none, nothing]
    exact .inl rfl
  | @loggedIn token user _ own stored _ issued role =>
    have own : s.token = some token := own
    have stored : s.storedUser = some user := stored
    have bearer : ({ AdminApp.start with token := some token, storedUser := some user } :
        AdminApp).bearer = some token := by
      simp [AdminApp.bearer, issued.nonempty]
    refine .inr ⟨token, user, issued, role, own, ?_⟩
    rw [AdminApp.reload, own, stored, AdminApp.checkSession, bearer]

theorem kept_loggedIn {res : Val} (granted : Granted php res) :
    SessionKept php (s.loggedIn res).frame := by
  obtain ⟨token, text, issued, role⟩ := granted
  rw [AdminApp.loggedIn, text]
  dsimp only
  rw [frame_showApp]
  exact .loggedIn rfl rfl rfl rfl issued role

theorem kept_gesture (g : Gesture) (kept : SessionKept php s.frame) :
    SessionKept php (s.gesture g).frame := by
  cases g with
  | reload =>
    show SessionKept php s.reload.frame
    obtain same | ⟨token, user, issued, role, -, same⟩ := reload_cases kept
    · rw [same]
      exact kept_start
    · rw [same, frame_showApp]
      exact .loggedIn rfl rfl rfl rfl issued role
  | submitLogin username password =>
    show SessionKept php (s.submitLogin username password).frame
    unfold AdminApp.submitLogin
    split <;> exact kept
  | clickLogout =>
    show SessionKept php s.clickLogout.frame
    unfold AdminApp.clickLogout
    split
    · exact kept_logout
    · exact kept
  | navigate p =>
    show SessionKept php (s.navigate p).frame
    unfold AdminApp.navigate
    split
    · rw [AdminApp.frame_render]
      exact kept.page rfl rfl rfl rfl
    · exact kept
  | setAptFilter filter =>
    show SessionKept php (s.setAptFilter filter).frame
    unfold AdminApp.setAptFilter
    split
    · rw [AdminApp.frame_render]
      exact kept.page rfl rfl rfl rfl
    · exact kept
  | act a body =>
    show SessionKept php (s.act a body).frame
    unfold AdminApp.act
    split <;> exact kept
  | newAppointment =>
    show SessionKept php s.newAppointment.frame
    unfold AdminApp.newAppointment
    split <;> exact kept
  | closeDialog => exact kept
  | submitAppointment inputs =>
    show SessionKept php (s.submitAppointment inputs).frame
    unfold AdminApp.submitAppointment
    split
    · split <;> exact kept
    · exact kept

/-- Behind an `await`, only a login changes the session. -/
theorem frame_resume {call : AdminCall} (other : call.resume ≠ .login) (result : Option Val) :
    (s.resume call result).frame = s.frame := by
  unfold AdminApp.resume
  cases resume : call.resume with
  | login => exact absurd resume other
  | render p pieces => exact AdminApp.frame_rendered ..
  | saved p =>
    dsimp only
    split
    · exact AdminApp.frame_render ..
    · rfl
  | dialogServices => rfl
  | dialogStaff services => exact AdminApp.frame_dialogFilled ..
  | booked =>
    dsimp only
    split
    · exact AdminApp.frame_booked s
    · rfl

theorem kept_resume {call : AdminCall} {result : Option Val}
    (granted : call.resume = .login → ∀ v, result = some v → Granted php v)
    (kept : SessionKept php s.frame) : SessionKept php (s.resume call result).frame := by
  by_cases login : call.resume = .login
  · unfold AdminApp.resume
    rw [login]
    dsimp only
    split
    · split
      · exact kept_loggedIn (granted login _ rfl)
      · exact kept
    · exact kept
  · rw [frame_resume login]
    exact kept

theorem kept_settle {call : AdminCall} {result : FetchResult}
    (granted : call.resume = .login → ∀ v, result.value = some v → Granted php v)
    (kept : SessionKept php s.frame) : SessionKept php (s.settle call result).frame := by
  cases result with
  | unauthorized => exact kept_resume (fun _ _ none => by cases none) kept_logout
  | failed => exact kept_resume (fun _ _ none => by cases none) kept
  | data v => exact kept_resume granted kept

end Sessions

section Runs

variable {php : Platform} {s : BackOffice}

/-- A login asks for a login, nothing else does, a token is one of the API's, and so is every
answer. -/
structure CallKept (php : Platform) (call : AdminCall) : Prop where
  fromApi : FromApi php call
  login : call.resume = .login → call.action = "login" ∧ call.method = "POST"
  other : call.resume ≠ .login → call.action ≠ "login"
  issued : ∀ token, call.bearer = some token → Issued php token

/-- The requests of a page's rendering, in their order. -/
def fetches (p : Page) : List String :=
  p.firstAction :: if p = .dashboard then ["commission_report"] else p.laterActions

theorem fetches_of_turn {p : Page} {user : Option Val} {pieces : List Piece} {action : String}
    (some : pieces ≠ []) (turn : p.turn user pieces = .fetch action) :
    (fetches p)[pieces.length]? = .some action := by
  unfold Page.turn at turn
  split at turn
  · split at turn
    · split at turn
      · cases turn
      · split at turn
        · obtain rfl := Turn.fetch.inj turn
          rfl
        · cases turn
    · cases turn
  · cases turn
  · rename_i other _
    split at turn
    · rename_i later
      obtain rfl := Turn.fetch.inj turn
      have length : pieces.length = pieces.length - 1 + 1 := by
        have := List.length_pos_iff.mpr some
        omega
      rw [fetches, if_neg fun dashboard => other dashboard, length, List.getElem?_cons_succ]
      exact later
    · split at turn <;> cases turn

theorem login_notMem_fetches (p : Page) : "login" ∉ fetches p := by
  cases p <;> decide

theorem action_ne_login (a : Act) : a.action ≠ "login" := by
  cases a <;> decide

/-- The token that a request would bear is one of the API's. -/
theorem SessionKept.issued {t : AdminApp} {token : String} (kept : SessionKept php t.frame)
    (bears : t.bearer = some token) : Issued php token := by
  obtain ⟨held, -⟩ := Option.filter_eq_some_iff.mp bears
  cases kept with
  | loggedOut _ none => cases held.symm.trans none
  | loggedIn _ own _ _ issued =>
    cases held.symm.trans own
    exact issued

theorem callKept_sent {t : AdminApp} {source : Option (AdminCall × Option Val)} {call : AdminCall}
    (session : SessionKept php t.frame) (sent : Dispatched t source call) : CallKept php call := by
  have unanswered : call.answer = none := by cases sent <;> rfl
  have bearer : call.bearer = t.bearer := by cases sent <;> rfl
  refine ⟨fun answer answered => ?_, fun login => ?_, fun other => ?_,
    fun token bears => session.issued (bearer.symm.trans bears)⟩
  · rw [unanswered] at answered
    cases answered
  · cases sent with
    | login => exact ⟨rfl, rfl⟩
    | _ => cases login
  · cases sent with
    | login => exact absurd rfl other
    | first p =>
      rintro (asked : p.firstAction = "login")
      exact login_notMem_fetches p (by simp [fetches, asked])
    | @next _ _ p _ action _ _ turn =>
      rintro (rfl : action = "login")
      exact login_notMem_fetches p (List.mem_of_getElem? (fetches_of_turn (by simp) turn))
    | act a => exact action_ne_login a
    | dialogServices => exact of_decide_eq_true rfl
    | dialogStaff => exact of_decide_eq_true rfl
    | booking => exact of_decide_eq_true rfl

/-- What every state of a run has. -/
structure OfficeKept (php : Platform) (s : BackOffice) : Prop where
  session : SessionKept php s.app.frame
  calls : ∀ call ∈ s.app.inFlight, CallKept php call

theorem granted_of_brought {call : AdminCall} {result : Option Val} (kept : CallKept php call)
    (brought : Brought call result) (login : call.resume = .login) {v : Val}
    (value : result = some v) : Granted php v := by
  obtain ⟨answer, answered, data⟩ := brought v value
  obtain ⟨salt, db, response⟩ := kept.fromApi answer answered
  obtain ⟨action, method⟩ := kept.login login
  have asked : Asks (call.event answer.clock salt) "login" ["POST"] :=
    ⟨action, by simp [AdminCall.event, method]⟩
  rw [response] at data
  exact serve_grants asked db v data

theorem officeKept_arrival {i : Nat} {t : AdminApp} (kept : OfficeKept php s)
    (arrival : Arrival s.app i t) : SessionKept php t.frame := by
  cases arrival with
  | nothing same =>
    rw [same]
    exact kept.session
  | @settled call result found brought after =>
    rw [after]
    refine kept_settle (s := { s.app with inFlight := s.app.inFlight.eraseIdx i })
      (fun login v value => ?_) kept.session
    exact granted_of_brought (kept.calls call (List.mem_of_getElem? found)) brought login value

theorem sessionKept_step (e : OfficeEvent) (kept : OfficeKept php s) :
    SessionKept php (s.step php e).app.frame := by
  cases e with
  | gesture g => exact kept_gesture g kept.session
  | serve i clock salt =>
    show SessionKept php (s.serve php i clock salt).app.frame
    unfold BackOffice.serve
    split
    · exact kept.session
    · split <;> exact kept.session
  | arrive i => exact officeKept_arrival kept (arrival_arrive s.app i)
  | lose i => exact officeKept_arrival kept (arrival_lose s.app i)
  | other e => exact kept.session

theorem officeKept_step (e : OfficeEvent) (kept : OfficeKept php s) :
    OfficeKept php (s.step php e) where
  session := sessionKept_step e kept
  calls := by
    refine calls_step e (fun source call _ sent => callKept_sent (sessionKept_step e kept) sent)
      (fun call clock salt before unanswered => ⟨?_, before.login, before.other, before.issued⟩)
      kept.calls
    intro answer answered
    cases answered
    exact ⟨salt, s.db, rfl⟩

/-- The back office after a run that begins with nothing in localStorage. -/
def officeAfter (php : Platform) (db : Db) (events : List OfficeEvent) : BackOffice :=
  run (BackOffice.step php) ⟨.start, db⟩ events

theorem officeKept (php : Platform) (db : Db) (events : List OfficeEvent) :
    OfficeKept php (officeAfter php db events) :=
  run_keeps (fun e _ => officeKept_step e)
    (⟨kept_start, fun _ none => nomatch none⟩ : OfficeKept php ⟨.start, db⟩) events

end Runs

section Ends

variable {php : Platform} {s : AdminApp} {token : String}

/-- What takes a token away: the user's click, another login's answer, or an answer to a
request that was sent with something else, or served when the token was no longer good. -/
inductive EndsSession (php : Platform) (s : AdminApp) (token : String) : OfficeEvent → Prop where
  | logout : EndsSession php s token (.gesture .clickLogout)
  | answer {i : Nat} {call : AdminCall} {answer : Answer} (found : s.inFlight[i]? = some call)
      (answered : call.answer = some answer)
      (cause : call.resume = .login ∨ call.bearer ≠ some token ∨
        (JWT.decode php answer.clock (utf8 token)).empty = true) :
      EndsSession php s token (.arrive i)

theorem token_of_frame {t : AdminApp} (same : t.frame = s.frame) : t.token = s.token :=
  congrArg AdminApp.Frame.token same

theorem token_gesture (g : Gesture) (other : g ≠ .clickLogout) : (s.gesture g).token = s.token := by
  cases g with
  | reload =>
    show (AdminApp.checkSession _).token = s.token
    unfold AdminApp.checkSession
    split
    · exact congrArg AdminApp.Frame.token (frame_showApp _)
    · rfl
  | submitLogin username password =>
    show (s.submitLogin username password).token = s.token
    unfold AdminApp.submitLogin
    split <;> rfl
  | clickLogout => exact absurd rfl other
  | navigate p =>
    show (s.navigate p).token = s.token
    unfold AdminApp.navigate
    split
    · exact token_of_frame (s := { s with currentPage := p }) (AdminApp.frame_render _ _)
    · rfl
  | setAptFilter filter =>
    show (s.setAptFilter filter).token = s.token
    unfold AdminApp.setAptFilter
    split
    · exact token_of_frame (s := { s with activeAptFilter := filter }) (AdminApp.frame_render _ _)
    · rfl
  | act a body =>
    show (s.act a body).token = s.token
    unfold AdminApp.act
    split <;> rfl
  | newAppointment =>
    show s.newAppointment.token = s.token
    unfold AdminApp.newAppointment
    split <;> rfl
  | closeDialog => rfl
  | submitAppointment inputs =>
    show (s.submitAppointment inputs).token = s.token
    unfold AdminApp.submitAppointment
    split
    · split <;> rfl
    · rfl

/-- No request with a good token is answered 401. -/
theorem not_unauthorized {call : AdminCall} {answer : Answer} (kept : CallKept php call)
    (answered : call.answer = some answer) (other : call.resume ≠ .login)
    (bears : call.bearer = some token)
    (good : (JWT.decode php answer.clock (utf8 token)).empty = false) :
    answer.response.status ≠ 401 := by
  obtain ⟨salt, db, response⟩ := kept.fromApi answer answered
  rw [response]
  exact serve_keepsSession (authHeader_event bears _ _) (kept.issued token bears).whole good db
    (kept.other other)

/-- A request that failed changes no session. -/
theorem token_resume (call : AdminCall) : (s.resume call none).token = s.token := by
  by_cases login : call.resume = .login
  · unfold AdminApp.resume
    rw [login]
  · exact token_of_frame (frame_resume login none)

theorem token_settle {call : AdminCall} {response : Response} (other : call.resume ≠ .login)
    (accepted : response.status ≠ 401) :
    (s.settle call (fetchData response)).token = s.token := by
  have outcome : s.settle call (fetchData response) = s.resume call (fetchData response).value := by
    unfold AdminApp.settle
    split
    · rename_i refused
      unfold fetchData at refused
      rw [if_neg accepted] at refused
      split at refused
      · cases refused
      · split at refused <;> cases refused
    · rfl
  rw [outcome]
  exact token_of_frame (frame_resume other _)

/-- In every state of a run the session is there as a whole or not at all, and a token goes
only with the user's click, another login, an answer to a request that bore another token
or none, or an answer that was given when the token was no longer good; but for a login, no
request whose token was good when it was answered has got a 401. -/
theorem session_ends (php : Platform) (db : Db) (events : List OfficeEvent) (e : OfficeEvent) :
    let s := officeAfter php db events
    SessionKept php s.app.frame ∧
      (∀ token, s.app.token = some token → (s.step php e).app.token ≠ some token →
        EndsSession php s.app token e) ∧
      ∀ call ∈ s.app.inFlight, ∀ answer token, call.answer = some answer →
        call.resume ≠ .login → call.bearer = some token →
        (JWT.decode php answer.clock (utf8 token)).empty = false →
        answer.response.status ≠ 401 := by
  intro s
  have office : OfficeKept php s := officeKept php db events
  refine ⟨office.session, fun token before after => ?_,
    fun call member answer token answered other bears good =>
      not_unauthorized (office.calls call member) answered other bears good⟩
  cases e with
  | gesture g =>
    by_cases click : g = .clickLogout
    · rw [click]
      exact .logout
    · exact absurd ((token_gesture g click).trans before) after
  | serve i clock salt =>
    have same : (s.serve php i clock salt).app.token = s.app.token := by
      unfold BackOffice.serve
      split
      · rfl
      · split <;> rfl
    exact absurd (same.trans before) after
  | lose i =>
    have same : (s.app.lose i).token = s.app.token := by
      unfold AdminApp.lose
      split
      · rfl
      · exact token_resume (s := { s.app with inFlight := s.app.inFlight.eraseIdx i }) _
    exact absurd (same.trans before) after
  | other e => exact absurd before after
  | arrive i =>
    have changed : (s.app.arrive i).token ≠ some token := after
    unfold AdminApp.arrive at changed
    split at changed
    · exact absurd before changed
    · rename_i call found
      split at changed
      · exact absurd before changed
      · rename_i answer answered
        refine .answer found answered ?_
        by_contra none
        obtain ⟨other, bears, good⟩ := not_or.mp none |>.imp_right not_or.mp
        have kept := office.calls call (List.mem_of_getElem? found)
        have accepted : answer.response.status ≠ 401 :=
          not_unauthorized kept answered other (not_not.mp bears) (Bool.eq_false_iff.mpr good)
        refine changed (Eq.trans (token_settle other accepted) before)

end Ends

end Saloon.Guarantees
