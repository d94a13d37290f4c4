import Saloon.Guarantees.Privileges

/-!
# Authentication soundness

A payload that the middleware passes on goes back to a login. The MAC is ideal:
of the pairs of a message and a tag that a request brings, only those that the
server made verify. The roles in the users table stand for good, so the role in a
token is still its user's when the token is used.
-/
namespace Saloon.Guarantees

open Lib Source

/-- The payload of the token for `u`, up to its expiry. -/
def tokenPayload (u : Row User) (exp : Int) : Val :=
  .arr [("id", .int u.id), ("username", .str u.cols.username), ("role", .str u.cols.role),
    ("name", .str u.cols.name), ("exp", .int exp)]

def lifetime : Int := 86400

/-- The message that a login of `u` at `time` signs. -/
def issuedMessage (php : Platform) (u : Row User) (time : Int) : Bytes :=
  JWT.signingInput (JWT.base64UrlEncode (php.jsonEncode JWT.header))
    (JWT.base64UrlEncode (php.jsonEncode (tokenPayload u (time + lifetime))))

/-- The user a login authenticates, as the model finds it. -/
def authenticated (php : Platform) (e : Event) (db : Db) : Except Thrown (Option (Row User)) :=
  (User.authenticate php (argOr e "username" (.str "")) (argOr e "password" (.str "")) db).1

/-- A login that succeeds, of the user `u` of the table. -/
structure LogsIn (php : Platform) (e : Event) (db : Db) (u : Row User) : Prop where
  asked : Asks e "login" ["POST"]
  known : u ∈ db.users.rows
  password : authenticated php e db = .ok (some u)
  success : ∃ output, (serve php e db).response = ⟨200, some output⟩ ∧
    output.field "success" = .bool true

/-- The request brings this message with this tag, in a token behind the bearer scheme. -/
def Presents (headers : Headers) (message tag : Bytes) : Prop :=
  ∃ token header payload signature, AuthMiddleware.Bears headers token ∧
    token.splitOn dot = [header, payload, signature] ∧
    message = JWT.signingInput header payload ∧ tag = JWT.base64UrlDecode signature

/-- What the requests of a run have signed. -/
def signedDuring (php : Platform) (db : Db) (events : List Event) : List Bytes :=
  emitted (request php) (fun e db => (serve php e db).signed) db events

/-- The ideal MAC: a pair that verifies is one that the server computed. -/
def Unforged (php : Platform) (signed : List Bytes) (headers : Headers) : Prop :=
  ∀ message tag, Presents headers message tag → tag = php.hmac message → message ∈ signed

/-- JSON reads back the payloads of the tokens that a run issues. -/
def ReadsBack (php : Platform) (db : Db) (events : List Event) : Prop :=
  ∀ before login rest u, events = before ++ login :: rest →
    LogsIn php login (run (request php) db before) u →
    php.jsonDecode (php.jsonEncode (tokenPayload u (login.clock.time + lifetime))) =
      tokenPayload u (login.clock.time + lifetime)

variable {php : Platform} {e : Event} {db : Db}

/-- The expiry of a login is an integer, as the server's clock has four-digit years. -/
theorem intSum_lifetime (clock : Clock) :
    intSum clock.time lifetime = .int (clock.time + lifetime) := by
  have epoch := clock.epoch
  have fourDigit := clock.fourDigit
  refine if_pos ?_
  unfold clamp64 lifetime
  omega

theorem message_login (php : Platform) (u : Row User) (clock : Clock) :
    JWT.message php clock (.arr [("id", .int u.id), ("username", .str u.cols.username),
      ("role", .str u.cols.role), ("name", .str u.cols.name)]) lifetime =
        issuedMessage php u clock.time := by
  rw [JWT.message, JWT.stamped, intSum_lifetime]
  rfl

/-- A login that signs answers with success to the user it authenticated. -/
theorem login_signs {message : Bytes}
    (signed : message ∈ (AuthController.login (e.env php) (.start db)).2.signed) :
    ∃ u, authenticated php e db = .ok (some u) ∧
      message = issuedMessage php u e.clock.time ∧
      ∃ output, responseOf (AuthController.login (e.env php) (.start db)).1 = ⟨200, some output⟩ ∧
        output.field "success" = .bool true := by
  rw [AuthController.login, Prog.ite_run] at signed ⊢
  split at signed
  · cases signed
  · rename_i given
    rw [if_neg given]
    rw [Prog.bind_run, exec_run] at signed ⊢
    rcases outcome : User.authenticate (e.env php).php
      ((e.env php).getBody.fieldOr "username" (.str ""))
      ((e.env php).getBody.fieldOr "password" (.str "")) (Session.start db).db with
      ⟨why | (_ | u), after⟩
    · rw [outcome] at signed
      cases signed
    · rw [outcome] at signed
      cases signed
    · rw [outcome] at signed
      refine ⟨u, congrArg Prod.fst outcome, ?_, _, rfl, rfl⟩
      rw [← message_login php u e.clock]
      exact List.mem_singleton.mp signed

/-- Only a login signs, and it signs the payload of the user it found. -/
theorem signs_of_login {message : Bytes} (signed : message ∈ (serve php e db).signed) :
    ∃ u, LogsIn php e db u ∧ message = issuedMessage php u e.clock.time := by
  have served : (serve php e db).signed = (index php e (.start db)).2.signed := rfl
  have answered := serve_response php e db
  rw [served] at signed
  by_cases asked : Asks e "login" ["POST"]
  · rw [index_login asked] at signed answered
    obtain ⟨u, password, issued, output, response, success⟩ := login_signs signed
    have known := (User.authenticate_run php (argOr e "username" (.str ""))
      (argOr e "password" (.str "")) db).2 u password
    exact ⟨u, ⟨asked, known, password, output, answered.trans response, success⟩, issued⟩
  · rw [(index_kept php e db asked).2] at signed
    cases signed

/-- The message behind a token that decodes is one that the request brings with its MAC. -/
theorem presents_of_passes {roles : List Role} {payload : Val}
    (passed : Passes php e roles payload) :
    ∃ header body, Presents e.request.headers (JWT.signingInput header body)
        (php.hmac (JWT.signingInput header body)) ∧
      php.jsonDecode (JWT.base64UrlDecode body) = payload ∧
      JWT.expired e.clock payload = false := by
  obtain ⟨⟨token, bears, decoded⟩, present, -⟩ := AuthMiddleware.check_eq_ok passed
  obtain ⟨header, body, signature, parts, verified, read, fresh⟩ := JWT.decode_eq decoded present
  exact ⟨header, body, ⟨token, header, body, signature, bears, parts, rfl, verified.symm⟩, read,
    fresh⟩

/-- No request changes a user's role. -/
theorem roles_kept (events : List Event) (db : Db) :
    db.users.KeepsColumn User.role (run (request php) db events).users :=
  run_keeps (P := fun after => db.users.KeepsColumn User.role after.users)
    (fun e mid kept => kept.trans (serve_served php e mid).writes.roles) (.refl _) events

/-- The payload is that of an earlier login of the run, at most a day ago, and the user who
logged in has its role now, one of `roles`. -/
def Authentic (php : Platform) (hash : String → String) (clock : Clock) (events : List Event)
    (time : Int) (roles : List Role) (payload : Val) : Prop :=
  ∃ before login rest u, events = before ++ login :: rest ∧
    LogsIn php login (afterRun php hash clock before) u ∧
    payload.field "id" = .int u.id ∧ time ≤ login.clock.time + 86400 ∧
    ∃ v ∈ (afterRun php hash clock events).users.rows, v.id = u.id ∧
      payload.field "role" = .str v.cols.role ∧ ∃ r ∈ roles, v.cols.role = r.name

/-- After every run of requests, whatever headers they bring, a request that the middleware
passes for one of `roles` brings the token of a login of that run. -/
theorem authentication_sound {hash : String → String} {clock : Clock} {events : List Event}
    {roles : List Role} {payload : Val} (restricted : roles ≠ [])
    (unforged : Unforged php (signedDuring php (seed hash clock) events) e.request.headers)
    (json : ReadsBack php (seed hash clock) events) (passed : Passes php e roles payload) :
    Authentic php hash clock events e.clock.time roles payload := by
  obtain ⟨header, body, presents, read, fresh⟩ := presents_of_passes passed
  obtain ⟨before, login, rest, split, signed⟩ :=
    exists_of_mem_emitted (unforged _ _ presents rfl)
  obtain ⟨u, logsIn, issued⟩ := signs_of_login signed
  obtain ⟨-, rfl⟩ := JWT.signingInput_inj issued
  -- the payload is the one that this login encoded
  have same : payload = tokenPayload u (login.clock.time + lifetime) := by
    rw [← read, JWT.base64UrlDecode_base64UrlEncode]
    exact json before login rest u split logsIn
  subst same
  have valid : ¬ login.clock.time + lifetime < e.clock.time := of_decide_eq_false fresh
  -- the role of the user has stood since
  obtain ⟨v, member, id, role⟩ : ∃ v ∈ (afterRun php hash clock events).users.rows,
      v.id = u.id ∧ v.cols.role = u.cols.role := by
    rw [afterRun, split, run_append]
    exact roles_kept (login :: rest) _ u logsIn.known
  obtain ⟨-, -, granted⟩ := AuthMiddleware.check_eq_ok passed
  obtain ⟨r, listed, grant⟩ := granted restricted
  have named : u.cols.role = r.name := (grants_text rfl r).mp grant
  exact ⟨before, login, rest, u, split, logsIn, rfl, not_lt.mp valid, v, member, id,
    congrArg Val.str role.symm, r, listed, role.trans named⟩

section Honest

/-- A token that a login issued is no forgery. -/
theorem unforged_of_issued {u : Row User} {time : Int} {signed : List Bytes} {headers : Headers}
    (bears : AuthMiddleware.Bears headers (JWT.token php (issuedMessage php u time)))
    (logged : issuedMessage php u time ∈ signed) : Unforged php signed headers := by
  obtain ⟨scheme, parts, -⟩ := bears
  rintro message tag ⟨token, header, body, signature, ⟨other, same, -⟩, split, rfl, -⟩ -
  rw [parts] at same
  obtain ⟨-, rfl⟩ : scheme = other ∧ JWT.token php (issuedMessage php u time) = token := by
    simpa using same
  rw [issuedMessage, JWT.splitOn_token] at split
  obtain ⟨rfl, rfl, -⟩ : _ = header ∧ _ = body ∧ _ = signature := by simpa using split
  exact logged

/-- The login of the seeded administrator. -/
def adminLogin : Event where
  clock := morning
  salt := 0
  request :=
    { action := "login"
      method := "POST"
      headers := ⟨none, none, none, none⟩
      body := .arr [("username", .str "admin"), ("password", .str "adminpass")] }

def adminRow : Row User :=
  ⟨1, ⟨"System Administrator", "admin", adminHash, "admin", 0, "percentage", morning.now⟩⟩

theorem authenticated_admin :
    (authenticated recorded adminLogin morningDb).toOption = some (some adminRow) := by
  decide +kernel

theorem authenticated_dashboard :
    ∃ payload, Passes recorded (adminRequest "dashboard" "GET" []) [.admin, .receptionist] payload ∧
      Authentic recorded (fun _ => adminHash) morning [adminLogin] morning.time
        [.admin, .receptionist] payload := by
  have signed : adminMessage = issuedMessage recorded adminRow morning.time := by decide +kernel
  have logged : issuedMessage recorded adminRow morning.time ∈
      signedDuring recorded morningDb [adminLogin] := by decide +kernel
  have scheme : (adminRequest "dashboard" "GET" []).request.headers.authHeader.splitOn space =
      [utf8 "Bearer", JWT.token recorded adminMessage] := by decide +kernel
  have bears : AuthMiddleware.Bears (adminRequest "dashboard" "GET" []).request.headers
      (JWT.token recorded (issuedMessage recorded adminRow morning.time)) :=
    ⟨_, signed ▸ scheme, by decide +kernel⟩
  have json : ReadsBack recorded morningDb [adminLogin] := by
    intro before login rest u split logsIn
    obtain ⟨rfl, rfl, rfl⟩ : before = [] ∧ login = adminLogin ∧ rest = [] := by
      cases before with
      | nil => simpa [eq_comm] using split
      | cons first before => simp at split
    have same : some (some u) = some (some adminRow) :=
      (congrArg Except.toOption logsIn.password).symm.trans authenticated_admin
    cases same
    rfl
  obtain ⟨payload, passed⟩ : ∃ payload, Passes recorded (adminRequest "dashboard" "GET" [])
      [.admin, .receptionist] payload := exists_passes (by decide +kernel)
  exact ⟨payload, passed, authentication_sound (by simp) (unforged_of_issued bears logged) json
    passed⟩

end Honest

end Saloon.Guarantees
