import Saloon.Guarantees.Responses
import Saloon.Source.AdminApp

/-!
# Requests with a token

A token that the API has issued is read back from the header of any request that
bears it. While it is good, no answer tells its bearer to log in: a role that does
not suffice is refused with another status.
-/
namespace Saloon.Guarantees

open Lib Source

theorem utf8_append (s t : String) : utf8 (s ++ t) = utf8 s ++ utf8 t := by
  simp [utf8, String.toByteArray_append]

theorem utf8_ofAscii {b : Bytes} (ascii : ∀ u ∈ b, u.toNat < 128) : utf8 (ofAscii b) = b := by
  have one : ∀ n < 128, String.utf8EncodeChar (Char.ofNat n) = [UInt8.ofNat n] := by decide
  have each : b.flatMap (fun u => String.utf8EncodeChar (Char.ofNat u.toNat)) = b.flatMap ([·]) :=
    List.flatMap_congr fun u member => by rw [one u.toNat (ascii u member), UInt8.ofNat_toNat]
  rw [utf8, ofAscii, String.toUTF8_eq_toByteArray, String.toByteArray_ofList, List.utf8Encode,
    List.toList_data_toByteArray, List.flatMap_map, each, List.flatMap_singleton']

/-- A token that the API has issued. -/
def Issued (php : Platform) (token : String) : Prop :=
  ∃ clock payload exp, token = ofAscii (JWT.token php (JWT.message php clock payload exp))

section Issuing

variable {php : Platform}

theorem ascii_token (clock : Clock) (payload : Val) (exp : Int) :
    ∀ u ∈ JWT.token php (JWT.message php clock payload exp), u.toNat < 128 := by
  have letter : ∀ n < 64, (JWT.urlDigit n).toNat < 128 := by decide
  have segment (data : Bytes) : ∀ u ∈ JWT.base64UrlEncode data, u.toNat < 128 := by
    intro u member
    rw [JWT.base64UrlEncode_eq] at member
    obtain ⟨n, sextet, rfl⟩ := List.mem_map.mp member
    exact letter n (Base64.toSextets_lt data n sextet)
  intro u member
  simp only [JWT.token, JWT.message, JWT.signingInput, List.mem_append, List.mem_cons] at member
  obtain ((first | rfl | second) | rfl | third) := member
  · exact segment _ u first
  · decide
  · exact segment _ u second
  · decide
  · exact segment _ u third

theorem Issued.bytes {token : String} (issued : Issued php token) :
    ∃ clock payload exp, utf8 token = JWT.token php (JWT.message php clock payload exp) := by
  obtain ⟨clock, payload, exp, rfl⟩ := issued
  exact ⟨clock, payload, exp, utf8_ofAscii (ascii_token clock payload exp)⟩

theorem Issued.whole {token : String} (issued : Issued php token) : space ∉ utf8 token := by
  obtain ⟨clock, payload, exp, bytes⟩ := issued.bytes
  rw [bytes]
  exact space_notMem_token payload

theorem Issued.nonempty {token : String} (issued : Issued php token) : token ≠ "" := by
  rintro rfl
  obtain ⟨clock, payload, exp, bytes⟩ := issued.bytes
  have dotted : dot ∈ utf8 "" := by
    rw [bytes]
    simp [JWT.token]
  exact absurd dotted (by decide)

/-- The header of a request with a token. -/
theorem authHeader_event {call : AdminCall} {token : String} (bears : call.bearer = some token)
    (clock : Clock) (salt : Nat) :
    (call.event clock salt).request.headers.authHeader = utf8 "Bearer " ++ utf8 token := by
  have given : emptyBytes (utf8 "Bearer " ++ utf8 token) = false := by
    rw [show utf8 "Bearer " = utf8 "B" ++ utf8 "earer " from by decide]
    rfl
  simp [AdminCall.event, bears, Headers.authHeader, utf8_append, given]

/-- Without a token there is no header. -/
theorem anonymous_event {call : AdminCall} (bears : call.bearer = none) (clock : Clock)
    (salt : Nat) : emptyBytes (call.event clock salt).request.headers.authHeader = true := by
  simp [AdminCall.event, bears, Headers.authHeader, emptyBytes]

/-- A token that is still good is refused for its role only. -/
theorem forbidden_of_refused {clock : Clock} {headers : Headers} {roles : List Role}
    {token : Bytes} {response : Response} (bears : headers.authHeader = utf8 "Bearer " ++ token)
    (whole : space ∉ token) (good : (JWT.decode php clock token).empty = false)
    (refused : AuthMiddleware.check php clock headers roles = .error response) :
    response.status = 403 := by
  rw [AuthMiddleware.check, ruling_bearer php clock _ bears whole, good,
    if_neg Bool.false_ne_true] at refused
  split at refused
  · cases refused
  · cases refused
    rfl

end Issuing

section Unauthorized

/-! Who brings a good token is never told to log in. -/

variable {php : Platform} {e : Event} {token : Bytes}

/-- The answer does not end the session of the client. -/
def KeepsSession (response : Response) : Prop := response.status ≠ 401

theorem keeps_json {data : Val} {status : Nat} (meets : status ≠ 401) :
    Responds KeepsSession (json data status : Php Unit) := responds_json meets

/-- A request that the controller refuses for what it brings. -/
theorem keeps_checked {c : Prop} [Decidable c] {message : String} {x : Php Unit}
    (rest : Responds KeepsSession x) :
    Responds KeepsSession (if c then json (errorBody message) 400 else x) :=
  responds_ite (fun _ => keeps_json (by decide)) fun _ => rest

theorem keeps_attempt {α : Type} {x : Php α} {answer : α → Val} (model : Responds KeepsSession x) :
    Responds KeepsSession (attempt x answer) :=
  responds_attempt model (fun _ => by simp [KeepsSession]) fun _ => by simp [KeepsSession]

theorem keeps_attempt_exec {α : Type} {x : Sql α} {answer : α → Val} :
    Responds KeepsSession (attempt (exec x) answer) := keeps_attempt (responds_exec x)

theorem keeps_attempt_transaction {α : Type} {x : Sql α} {answer : α → Val} :
    Responds KeepsSession (attempt (transaction x) answer) := keeps_attempt (responds_transaction x)

theorem keeps_list (rows : Db → List Val) : Responds KeepsSession (list rows) :=
  responds_list fun _ => by simp [KeepsSession]

theorem keeps_updateStatus (clock : Clock) (id status loggedById : Val) :
    Responds KeepsSession (Appointment.updateStatus clock id status loggedById) := by
  refine responds_bind responds_begin fun _ => responds_catch ?_ fun message => ?_
  · refine responds_bind (responds_exec _) fun _ => responds_bind responds_commit fun _ => ?_
    refine responds_ite (fun _ => ?_) fun _ => responds_pure ()
    refine responds_bind (responds_exec _) fun already => ?_
    refine responds_ite (fun _ => responds_pure ()) fun _ => responds_bind (responds_exec _) fun apt => ?_
    cases apt with
    | none => exact responds_pure ()
    | some apt => exact responds_bind (responds_transaction _) fun _ => responds_pure ()
  · exact responds_bind responds_rollBack fun _ => responds_throwing message

variable (bears : e.request.headers.authHeader = utf8 "Bearer " ++ token) (whole : space ∉ token)
  (good : (JWT.decode php e.clock token).empty = false)

include bears whole good

theorem keeps_handle {roles : List Role} {k : Val → Php Unit}
    (passed : ∀ payload, Responds KeepsSession (k payload)) :
    Responds KeepsSession ((e.env php).handle roles >>= k) := by
  refine responds_handle (fun response refused => ?_) passed
  rw [KeepsSession, forbidden_of_refused bears whole good refused]
  decide

theorem keeps_handle_list {roles : List Role} (rows : Db → List Val) :
    Responds KeepsSession (do
      let _ ← (e.env php).handle roles
      list rows) := keeps_handle bears whole good fun _ => keeps_list rows

theorem keeps_staffList : Responds KeepsSession (AuthController.getStaffList (e.env php)) :=
  responds_ite (fun _ => keeps_handle_list bears whole good _) fun _ => keeps_list _

theorem keeps_register : Responds KeepsSession (AuthController.register (e.env php)) :=
  keeps_handle bears whole good fun _ =>
    keeps_checked (keeps_checked keeps_attempt_transaction)

theorem keeps_appointments :
    Responds KeepsSession (AppointmentController.getAppointments (e.env php)) := by
  refine keeps_handle bears whole good fun _ => responds_ite (fun _ => ?_) fun _ => keeps_list _
  refine responds_bind (responds_exec _) fun staffId => ?_
  cases staffId with
  | none => exact keeps_json (by decide)
  | some staffId => exact keeps_list _

theorem keeps_todayAppointments :
    Responds KeepsSession (AppointmentController.getTodayAppointments (e.env php)) := by
  refine keeps_handle bears whole good fun _ => responds_ite (fun _ => ?_) fun _ => keeps_list _
  refine responds_bind (responds_exec _) fun staffId => ?_
  cases staffId with
  | none => exact keeps_list _
  | some staffId => exact keeps_list _

omit bears whole good in
theorem keeps_createAppointment :
    Responds KeepsSession (AppointmentController.createAppointment (e.env php)) :=
  keeps_checked (keeps_attempt (responds_bind (responds_exec _) fun _ => responds_transaction _))

theorem keeps_todayStatus :
    Responds KeepsSession (ReconciliationController.getTodayStatus (e.env php)) := by
  refine keeps_handle bears whole good fun _ => responds_bind (responds_exec _) fun today => ?_
  cases today with
  | none => exact keeps_json (by decide)
  | some r => exact keeps_json (by decide)

theorem keeps_closeDrawer :
    Responds KeepsSession (ReconciliationController.closeDrawer (e.env php)) := by
  refine keeps_handle bears whole good fun _ =>
    responds_catch (responds_bind (responds_exec _) fun success => ?_) fun _ =>
      keeps_json (by decide)
  exact responds_ite (fun _ => keeps_json (by decide)) fun _ => keeps_json (by decide)

theorem keeps_route (action method : String) (other : action ≠ "login") :
    Responds KeepsSession (route action method (e.env php)) := by
  have guarded {roles : List Role} {k : Val → Php Unit}
      (passed : ∀ payload, Responds KeepsSession (k payload)) :
      Responds KeepsSession ((e.env php).handle roles >>= k) := keeps_handle bears whole good passed
  fun_cases route action method (e.env php)
  any_goals first
    | exact absurd rfl other
    | exact responds_pure ()
    | exact keeps_handle_list bears whole good _
    | exact keeps_register bears whole good
    | exact keeps_createAppointment
  · exact keeps_staffList bears whole good
  · exact guarded fun _ => keeps_checked keeps_attempt_transaction
  · exact guarded fun _ => keeps_checked keeps_attempt_exec
  · exact guarded fun _ => responds_bind (responds_exec _) fun _ => keeps_json (by decide)
  · exact keeps_appointments bears whole good
  · exact keeps_todayAppointments bears whole good
  · exact guarded fun _ => keeps_checked (keeps_checked (keeps_attempt (keeps_updateStatus _ _ _ _)))
  · exact guarded fun _ => keeps_checked keeps_attempt_exec
  · exact keeps_list _
  · exact guarded fun _ => keeps_checked keeps_attempt_exec
  · exact guarded fun _ => keeps_checked keeps_attempt_exec
  · exact guarded fun _ => keeps_checked keeps_attempt_transaction
  · exact guarded fun _ => responds_bind (responds_exec _) fun _ => keeps_json (by decide)
  · exact guarded fun _ => keeps_checked (keeps_checked keeps_attempt_exec)
  · exact guarded fun _ => keeps_checked keeps_attempt_exec
  · exact guarded fun _ => keeps_checked keeps_attempt_transaction
  · exact keeps_todayStatus bears whole good
  · exact keeps_closeDrawer bears whole good
  · exact keeps_json (by decide)

theorem serve_keepsSession (db : Db) (other : e.request.action ≠ "login") :
    (serve php e db).response.status ≠ 401 := by
  refine serve_responds (Q := KeepsSession) ?_ (by simp [KeepsSession]) (by simp [KeepsSession]) db
  exact responds_ite (fun _ => Prog.yields_stop (by simp [AnswersMeet, KeepsSession]))
    fun _ => keeps_route bears whole good _ _ other

end Unauthorized

end Saloon.Guarantees
