import Saloon.Guarantees.BackOffice
import Saloon.Guarantees.BookingRequests
import Saloon.Guarantees.Privileges
import Saloon.Guarantees.StylistIdentity

/-!
# The dialog for a new appointment

The dialog takes the stylists' ids from the staff list. The list that a logged-in
administrator or receptionist receives has none, and so the desk cannot book through
it; only a list that was asked for without a token has them.
-/
namespace Saloon.Guarantees

open Lib Source

section Answers

variable {php : Platform} {e : Event}

/-- With a token the staff list is the desk's. -/
theorem deskList (asked : Asks e "staff" ["GET"])
    (bears : emptyBytes e.request.headers.authHeader = false) (db : Db) :
    Brings (fun v => ∃ listed, v = .list (User.getAllStaff listed)) (serve php e db).response := by
  refine serve_brings ?_ db
  rw [show index php e = AuthController.getStaffList (e.env php) from (index_get asked).trans rfl]
  refine responds_ite (fun _ => ?_) fun none => ?_
  · exact brings_handle fun _ => brings_list fun listed => ⟨listed, rfl⟩
  · exact absurd (by simpa [Event.env] using bears) none

/-- Without one it is the public list. -/
theorem publicList (asked : Asks e "staff" ["GET"])
    (anonymous : emptyBytes e.request.headers.authHeader = true) {db : Db} {v : Val}
    (data : fetchData (serve php e db).response = .data v) : v = .list (Staff.getAll db) := by
  rw [(serve_publicStaff asked anonymous).1] at data
  obtain ⟨output, -⟩ := fetchData_eq_data.mp data
  exact (Option.some.inj output).symm

end Answers

section Options

variable {php : Platform} {db after : Db} {s : AdminApp}

/-- The options of the desk's list have no ids, and those of the public list the ids of
staff rows. -/
def OptionsFrom (db : Db) (bearer : Option String) (options : List String) : Prop :=
  ∀ value ∈ options,
    match bearer with
    | some _ => value = "undefined"
    | none => ∃ r ∈ db.staff.rows, value = toString r.id

/-- No staff row is ever deleted. -/
theorem OptionsFrom.mono {bearer : Option String} {options : List String}
    (more : db.staff.Keeps after.staff) (listed : OptionsFrom db bearer options) :
    OptionsFrom after bearer options := by
  intro value member
  have offered := listed value member
  cases bearer with
  | some token => exact offered
  | none =>
    obtain ⟨r, present, named⟩ := offered
    obtain ⟨later, there, same⟩ := more.exists_id present
    exact ⟨later, there, by rw [named, same]⟩

theorem options_desk (token : String) (listed : Db) :
    OptionsFrom db (some token) (AdminApp.optionValues (User.getAllStaff listed)) := by
  intro value member
  obtain ⟨st, present, rfl⟩ := List.mem_map.mp member
  obtain ⟨u, -, staffRow, rfl⟩ := exists_user_of_mem present
  show JsId.text _ = "undefined"
  rw [stylistId_staffEntry]
  rfl

theorem options_public (db : Db) :
    OptionsFrom db none (AdminApp.optionValues (Staff.getAll db)) := by
  intro value member
  obtain ⟨st, listed, rfl⟩ := List.mem_map.mp member
  obtain ⟨r, present, rfl⟩ := List.mem_map.mp listed
  exact ⟨r, mem_orderBy.mp present, rfl⟩

/-- What the answer to a staff request has for the dialog. -/
theorem options_served {call : AdminCall} {clock : Clock} {salt : Nat} {v : Val}
    {items : List Val} (action : call.action = "staff") (method : call.method = "GET")
    (data : fetchData (serve php (call.event clock salt) db).response = .data v)
    (listed : v.elements = some items) :
    OptionsFrom db call.bearer (AdminApp.optionValues items) := by
  have asked : Asks (call.event clock salt) "staff" ["GET"] :=
    ⟨action, by simp [AdminCall.event, method]⟩
  cases bears : call.bearer with
  | some token =>
    have given : emptyBytes (call.event clock salt).request.headers.authHeader = false := by
      rw [authHeader_event bears]
      rfl
    obtain ⟨listing, same⟩ := deskList asked given db v data
    rw [same, Val.elements_list] at listed
    cases listed
    exact options_desk token listing
  | none =>
    rw [publicList asked (anonymous_event bears _ _) data, Val.elements_list] at listed
    cases listed
    exact options_public db

/-- The dialog's second request is for the staff, and its answer has such options. -/
structure DialogCall (db : Db) (call : AdminCall) : Prop where
  staff : ∀ services, call.resume = .dialogStaff services →
    call.action = "staff" ∧ call.method = "GET"
  options : ∀ services, call.resume = .dialogStaff services → ∀ answer,
    call.answer = some answer → ∀ v items, fetchData answer.response = .data v →
      v.elements = some items → OptionsFrom db call.bearer (AdminApp.optionValues items)

theorem DialogCall.mono {call : AdminCall} (more : db.staff.Keeps after.staff)
    (kept : DialogCall db call) : DialogCall after call where
  staff := kept.staff
  options services dialog answer answered v items data listed :=
    (kept.options services dialog answer answered v items data listed).mono more

theorem dialogCall_sent {t : AdminApp} {source : Option (AdminCall × Option Val)}
    {call : AdminCall} (sent : Dispatched t source call) : DialogCall db call := by
  have unanswered : call.answer = none := by cases sent <;> rfl
  refine ⟨fun services dialog => ?_, fun _ _ answer answered => ?_⟩
  · cases sent with
    | dialogStaff => exact ⟨rfl, rfl⟩
    | _ => cases dialog
  · rw [unanswered] at answered
    cases answered

theorem dialogCall_served {call : AdminCall} {clock : Clock} {salt : Nat}
    (before : DialogCall db call) : DialogCall db
      { call with answer := some ⟨clock, (serve php (call.event clock salt) db).response⟩ } := by
  refine ⟨before.staff, fun services dialog answer answered v items data listed => ?_⟩
  cases answered
  obtain ⟨action, method⟩ := before.staff services dialog
  exact options_served action method data listed

def OptionsKept (db : Db) (s : AdminApp) : Prop :=
  OptionsFrom db s.staffBearer s.staffOptions

/-- Only the dialog's second answer changes the options. -/
structure SameOptions (s t : AdminApp) : Prop where
  options : t.staffOptions = s.staffOptions
  bearer : t.staffBearer = s.staffBearer

theorem OptionsKept.of_same {t : AdminApp} (kept : OptionsKept db s) (same : SameOptions s t) :
    OptionsKept db t := by
  unfold OptionsKept
  rw [same.options, same.bearer]
  exact kept

theorem sameOptions_render (p : Page) : SameOptions s (s.render p) := by
  unfold AdminApp.render
  split
  · split
    · exact ⟨rfl, rfl⟩
    · split <;> exact ⟨rfl, rfl⟩
  · exact ⟨rfl, rfl⟩

theorem sameOptions_rendered (p : Page) (pieces : List Piece) :
    SameOptions s (s.rendered p pieces) := by
  unfold AdminApp.rendered
  split
  · exact ⟨rfl, rfl⟩
  · exact ⟨rfl, rfl⟩
  · unfold AdminApp.draw
    split <;> exact ⟨rfl, rfl⟩

theorem sameOptions_showApp : SameOptions s s.showApp := by
  unfold AdminApp.showApp
  split
  · exact ⟨rfl, rfl⟩
  · split
    · have same := sameOptions_render (s := { s with visible := true }) s.currentPage
      exact ⟨same.options, same.bearer⟩
    · exact ⟨rfl, rfl⟩

theorem options_gesture (g : Gesture) (kept : OptionsKept db s) : OptionsKept db (s.gesture g) := by
  cases g with
  | reload =>
    have nothing : OptionsKept db .start := fun _ none => nomatch none
    show OptionsKept db (AdminApp.checkSession _)
    unfold AdminApp.checkSession
    split
    · exact nothing.of_same ⟨sameOptions_showApp.options, sameOptions_showApp.bearer⟩
    · exact nothing
  | submitLogin username password =>
    show OptionsKept db (s.submitLogin username password)
    unfold AdminApp.submitLogin
    split <;> exact kept
  | clickLogout =>
    show OptionsKept db s.clickLogout
    unfold AdminApp.clickLogout
    split <;> exact kept
  | navigate p =>
    show OptionsKept db (s.navigate p)
    unfold AdminApp.navigate
    split
    · exact OptionsKept.of_same (s := { s with currentPage := p }) kept (sameOptions_render p)
    · exact kept
  | setAptFilter filter =>
    show OptionsKept db (s.setAptFilter filter)
    unfold AdminApp.setAptFilter
    split
    · exact OptionsKept.of_same (s := { s with activeAptFilter := filter }) kept
        (sameOptions_render _)
    · exact kept
  | act a body =>
    show OptionsKept db (s.act a body)
    unfold AdminApp.act
    split <;> exact kept
  | newAppointment =>
    show OptionsKept db s.newAppointment
    unfold AdminApp.newAppointment
    split <;> exact kept
  | closeDialog => exact kept
  | submitAppointment inputs =>
    show OptionsKept db (s.submitAppointment inputs)
    unfold AdminApp.submitAppointment
    split
    · split <;> exact kept
    · exact kept

theorem options_dialogFilled {call : AdminCall} {services result : Option Val}
    (sent : DialogCall db call) (dialog : call.resume = .dialogStaff services)
    (brought : Brought call result) (kept : OptionsKept db s) :
    OptionsKept db (s.dialogFilled services (result.filter Val.jsTruthy) call.bearer) := by
  unfold AdminApp.dialogFilled
  split
  · rename_i offeredBefore staff given
    split
    · exact kept
    · dsimp only
      split
      · exact kept
      · rename_i items listed
        obtain ⟨same, -⟩ := Option.filter_eq_some_iff.mp given
        obtain ⟨answer, answered, data⟩ := brought staff same
        exact sent.options offeredBefore dialog answer answered staff items data listed
  · exact kept

theorem options_resume {call : AdminCall} {result : Option Val} (sent : DialogCall db call)
    (brought : Brought call result) (kept : OptionsKept db s) :
    OptionsKept db (s.resume call result) := by
  unfold AdminApp.resume
  cases resume : call.resume with
  | login =>
    dsimp only
    split
    · split
      · unfold AdminApp.loggedIn
        split
        · exact kept.of_same ⟨sameOptions_showApp.options, sameOptions_showApp.bearer⟩
        · exact kept
      · exact kept
    · exact kept
  | render p pieces => exact kept.of_same (sameOptions_rendered p _)
  | saved p =>
    dsimp only
    split
    · exact kept.of_same (sameOptions_render p)
    · exact kept
  | dialogServices => exact kept
  | dialogStaff services => exact options_dialogFilled sent resume brought kept
  | booked =>
    dsimp only
    split
    · unfold AdminApp.booked
      split
      · exact OptionsKept.of_same (s := s.closeDialog) kept (sameOptions_render _)
      · exact OptionsKept.of_same (s := s.closeDialog) kept (sameOptions_render _)
      · exact kept
    · exact kept

theorem options_settle {call : AdminCall} {result : FetchResult} (sent : DialogCall db call)
    (brought : Brought call result.value) (kept : OptionsKept db s) :
    OptionsKept db (s.settle call result) := by
  cases result with
  | unauthorized => exact options_resume (s := s.logout) sent (fun _ none => by cases none) kept
  | failed => exact options_resume sent brought kept
  | data v => exact options_resume sent brought kept

end Options

section Runs

variable {php : Platform} {s : BackOffice}

/-- Every office event leaves the staff rows with their ids. -/
theorem staff_step (php : Platform) (e : OfficeEvent) (s : BackOffice) :
    s.db.staff.Keeps (s.step php e).db.staff := by
  cases e with
  | serve i clock salt =>
    show s.db.staff.Keeps (s.serve php i clock salt).db.staff
    unfold BackOffice.serve
    split
    · exact .refl _
    · split
      · exact .refl _
      · exact (serve_served php _ s.db).writes.rows.staff
  | other e => exact (serve_served php e s.db).writes.rows.staff
  | gesture g => exact .refl _
  | arrive i => exact .refl _
  | lose i => exact .refl _

structure DialogKept (s : BackOffice) : Prop where
  options : OptionsKept s.db s.app
  calls : ∀ call ∈ s.app.inFlight, DialogCall s.db call

theorem options_arrival {i : Nat} {t : AdminApp} (kept : DialogKept s)
    (arrival : Arrival s.app i t) : OptionsKept s.db t := by
  cases arrival with
  | nothing same =>
    rw [same]
    exact kept.options
  | @settled call result found brought after =>
    rw [after]
    exact options_settle (s := { s.app with inFlight := s.app.inFlight.eraseIdx i })
      (kept.calls call (List.mem_of_getElem? found)) brought kept.options

theorem options_step (php : Platform) (e : OfficeEvent) (kept : DialogKept s) :
    OptionsKept s.db (s.step php e).app := by
  cases e with
  | gesture g => exact options_gesture g kept.options
  | serve i clock salt =>
    show OptionsKept s.db (s.serve php i clock salt).app
    unfold BackOffice.serve
    split
    · exact kept.options
    · split <;> exact kept.options
  | arrive i => exact options_arrival kept (arrival_arrive s.app i)
  | lose i => exact options_arrival kept (arrival_lose s.app i)
  | other e => exact kept.options

theorem dialogKept_step (php : Platform) (e : OfficeEvent) (kept : DialogKept s) :
    DialogKept (s.step php e) where
  options := (options_step php e kept).mono (staff_step php e s)
  calls call member := by
    have served : ∀ call ∈ (s.step php e).app.inFlight, DialogCall s.db call :=
      calls_step e (fun source call _ sent => dialogCall_sent sent)
        (fun call clock salt before _ => dialogCall_served before) kept.calls
    exact (served call member).mono (staff_step php e s)

theorem dialogKept_run (php : Platform) (db : Db) (events : List OfficeEvent) :
    DialogKept (officeAfter php db events) := by
  refine run_keeps (fun e _ kept => dialogKept_step php e kept) ?_ events
  exact ⟨(fun _ none => nomatch none), (fun _ none => nomatch none)⟩

end Runs

section Bookings

variable {php : Platform}

/-- Whenever it is served, the request is refused for what it lacks, and changes nothing. -/
def LacksFields (php : Platform) (call : AdminCall) : Prop :=
  ∀ clock salt db, (serve php (call.event clock salt) db).response =
      ⟨400, some (errorBody "Missing required appointment fields")⟩ ∧
    (serve php (call.event clock salt) db).db = db

theorem lacksFields_of_null {entries : List (String × Val)} {bearer : Option String}
    {resume : AdminResume} {answer : Option Answer}
    (null : (Val.arr entries).field "staff_id" = .null) :
    LacksFields php ⟨"appointments", "POST", .arr entries, bearer, resume, answer⟩ := by
  intro clock salt db
  generalize asks : AdminCall.event ⟨"appointments", "POST", .arr entries, bearer, resume, answer⟩
    clock salt = e
  have asked : AsksBooking e := by
    rw [← asks]
    exact .inl ⟨rfl, List.mem_singleton.mpr rfl⟩
  have stylist : arg e "staff_id" = .null := by
    rw [← asks]
    exact null
  have lacks : lacksFields e = true := by simp [lacksFields, stylist, Val.empty, Val.truthy]
  rw [serve_response, serve_db, index_booking asked, createAppointment_eq, Prog.ite_run,
    if_pos lacks]
  exact ⟨rfl, rfl⟩

theorem lookup_property {k key : String} (other : k ≠ key) (id : JsId)
    (rest : List (String × Val)) :
    (id.property key ++ rest).lookup k = rest.lookup k := by
  have unlike : (k == key) = false := beq_eq_false_iff_ne.mpr other
  have passed (v : Val) : ((key, v) :: rest).lookup k = rest.lookup k := by
    rw [List.lookup_cons, unlike]
  cases id with
  | undefined => rfl
  | null => exact passed _
  | num n => exact passed _
  | nan => exact passed _

theorem field_dialogPayload (inputs : DialogInputs) (service stylist : String) :
    (AdminApp.dialogPayload inputs service stylist).field "staff_id" =
      (Val.arr ((JsId.parseInt stylist).property "staff_id")).field "staff_id" := by
  show (List.lookup _ _).getD _ = _
  rw [List.append_assoc, List.append_assoc]
  show (List.lookup "staff_id" (JsId.property "service_id" (JsId.parseInt service) ++ _)).getD _ = _
  rw [lookup_property (by decide)]
  cases JsId.parseInt stylist <;> rfl

theorem payload_undefined (inputs : DialogInputs) (service : String) :
    (AdminApp.dialogPayload inputs service "undefined").field "staff_id" = .null := by
  have none : JsId.parseInt "undefined" = .nan := by decide +kernel
  rw [field_dialogPayload, none]
  rfl

theorem payload_id (inputs : DialogInputs) (service : String) (n : Nat) :
    (AdminApp.dialogPayload inputs service (toString n)).field "staff_id" = .int n := by
  rw [field_dialogPayload, JsId.parseInt_toString]
  rfl

/-- Through the dialog nobody books with the list of the desk, whatever is chosen: the
request lacks the stylist. With a list that was asked for without a token it names a
stylist of the salon. -/
theorem dialog_bookings (php : Platform) (db : Db) (events : List OfficeEvent)
    (inputs : DialogInputs) :
    let s := officeAfter php db events
    s.app.submitAppointment inputs = s.app ∨
      ∃ call : AdminCall,
        s.app.submitAppointment inputs = { s.app with inFlight := s.app.inFlight ++ [call] } ∧
        match s.app.staffBearer with
        | some _ => LacksFields php call
        | none => ∃ r ∈ s.db.staff.rows, call.body.field "staff_id" = .int r.id := by
  intro s
  have kept : OptionsFrom s.db s.app.staffBearer s.app.staffOptions :=
    (dialogKept_run php db events).options
  unfold AdminApp.submitAppointment
  split
  · rename_i service stylist _ chosen
    split
    · refine .inr ⟨_, rfl, ?_⟩
      have offered := kept stylist (List.mem_of_getElem? chosen)
      split
      · rename_i bearer
        simp only [bearer] at offered
        rw [offered]
        exact lacksFields_of_null (payload_undefined inputs service)
      · rename_i anonymous
        simp only [anonymous] at offered
        obtain ⟨r, present, named⟩ := offered
        refine ⟨r, present, ?_⟩
        rw [named]
        exact payload_id inputs service r.id
    · exact .inl rfl
  · exact .inl rfl

end Bookings

end Saloon.Guarantees
