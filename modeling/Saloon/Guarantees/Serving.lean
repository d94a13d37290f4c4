import Saloon.Lib.Run
import Saloon.Source.Router

/-!
# What one request can do

`Served` lists every way in which a request changes the database, with the
checks that stood before it and the outcome of the model's statements.
`serve_served` is the inversion of the whole router; the invariants that
follow are case analyses over `Served`.
-/
namespace Saloon.Guarantees

open Lib Source

/-- The body as the controllers read it. -/
def body (e : Event) : Val :=
  match e.request.body with
  | .null => .arr []
  | body => body

def arg (e : Event) (k : String) : Val := (body e).field k

def argOr (e : Event) (k : String) (d : Val) : Val := (body e).fieldOr k d

/-- The middleware let the request pass for one of these roles. -/
def Allowed (user : Option Val) (roles : List Role) : Prop :=
  ∃ payload, user = some payload ∧ ∃ r ∈ roles, grants payload r = true

/-- The middleware lets the request pass with this payload. -/
def Passes (php : Platform) (e : Event) (roles : List Role) (payload : Val) : Prop :=
  AuthMiddleware.check php e.clock e.request.headers roles = .ok payload

/-- The request is for this action, by a method that runs it. -/
def Asks (e : Event) (action : String) (methods : List String) : Prop :=
  e.request.action = action ∧ e.request.method ∈ methods

instance (e : Event) (action : String) (methods : List String) : Decidable (Asks e action methods) :=
  inferInstanceAs (Decidable (_ ∧ _))

/-- A request is for one action. -/
theorem Asks.ne {e : Event} {action other : String} {methods methods' : List String}
    (asked : Asks e action methods) (different : action ≠ other) : ¬ Asks e other methods' :=
  fun asks => different (asked.1.symm.trans asks.1)

def AsksBooking (e : Event) : Prop := Asks e "appointments" ["POST"] ∨ Asks e "book_online" ["POST"]

def AsksRegister (e : Event) : Prop := Asks e "register" ["POST"] ∨ Asks e "staff" ["POST"]

/-- The statuses that the API accepts, by PHP's loose comparison. -/
def isStatus (status : Val) : Bool :=
  status.inArray ["upcoming", "active", "completed", "cancelled"]

theorem not_empty_of_isStatus {status : Val} (known : isStatus status = true) :
    status.empty = false := by
  cases status with
  | null => revert known; decide
  | bool b => cases b <;> revert known <;> decide +kernel
  | int n =>
    by_cases zero : n = 0
    · subst zero; revert known; decide +kernel
    · simp [Val.empty, Val.truthy, zero]
  | float q =>
    by_cases zero : q = 0
    · subst zero; revert known; decide +kernel
    · simp [Val.empty, Val.truthy, zero]
  | str s =>
    by_cases none : s = ""
    · subst none; revert known; decide +kernel
    · by_cases zero : s = "0"
      · subst zero; revert known; decide +kernel
      · simp [Val.empty, Val.truthy, none, zero]
  | arr entries => simp [isStatus, Val.inArray, Val.looseEq] at known

section Arguments

/-! The arguments of a request's model call, as its controller reads them. -/

def clientOf (e : Event) : Sql Nat :=
  Client.findOrCreate e.clock (argOr e "client_name" (.str "")) (argOr e "client_email" (.str ""))
    (argOr e "client_phone" (.str ""))

def bookingOf (php : Platform) (e : Event) (clientId : Nat) : Sql Nat :=
  Appointment.createStatements php e.clock (.int clientId) (arg e "staff_id") (arg e "service_id")
    (argOr e "date" (.str "")) (argOr e "time" (.str "")) (argOr e "client_type" (.str "pre-booked"))

def checkoutOf (e : Event) (payload : Val) : Sql Nat :=
  Invoice.checkoutStatements e.clock (arg e "client_id") (payload.field "id")
    (argOr e "payment_method" (.str "")) (argOr e "items" (.arr [])) .null

def amountOf (e : Event) : Rat := (argOr e "amount" (.float 0)).floatval

def expenseDateOf (e : Event) : Val := argOr e "expense_date" (.str e.clock.today)

def expenseOf (e : Event) (payload : Val) : Sql Nat :=
  Expense.createStatements e.clock (argOr e "category" (.str "")) (amountOf e)
    (argOr e "description" (.str "")) (expenseDateOf e) (payload.field "id")

def closeOf (e : Event) (payload : Val) : Sql Bool :=
  Reconciliation.closeDrawer e.clock (argOr e "date" (.str e.clock.today))
    (argOr e "closing_balance" (.float 0)).floatval (payload.field "id")

def statusOf (e : Event) : Val := argOr e "status" (.str "")

def billOf (e : Event) (payload : Val) (apt : Invoice.Billable) : Sql Nat :=
  Invoice.billStatements e.clock (arg e "id") (Appointment.billedBy (payload.field "id")) apt

def availabilityOf (e : Event) : Val := argOr e "status" (.str "available")

def productOf (e : Event) : Sql Nat :=
  Product.create (argOr e "name" (.str "")) (argOr e "description" (.str ""))
    (argOr e "price" (.float 0)).floatval (argOr e "stock_quantity" (.float 0)).floatval
    (argOr e "category" (.str "")) (argOr e "min_stock_alert" (.float 0)).floatval

def quantityOf (e : Event) : Rat := (argOr e "quantity" (.float 0)).floatval

def stockOf (e : Event) : Sql Unit := Product.updateStock (arg e "id") (quantityOf e)

end Arguments

/-- A checkout that meets no refusal. -/
def Accepted (php : Platform) (e : Event) (db : Db) : Prop :=
  Asks e "checkout" ["POST"] ∧ (argOr e "payment_method" (.str "")).empty = false ∧
    (argOr e "items" (.arr [])).empty = false ∧
    ∃ payload, Passes php e [.admin, .receptionist] payload ∧
      Invoice.Payable db (arg e "client_id") (payload.field "id") (argOr e "items" (.arr [])) .null ∧
      Accepting (dateKey e.clock.today) db.cashReconciliation

/-- The ways in which a request that passed as `user`, or without any check, takes
one database to another. -/
inductive Served (php : Platform) (e : Event) (user : Option Val) (db : Db) : Db → Prop
  | nothing : Served php e user db db
  | register {name username password role commissionType specializations : Val}
      {commissionRate : Rat} {userId : Nat} {after : Db} (allowed : Allowed user [.admin])
      (known : role.inArray ["admin", "receptionist", "stylist"] = true)
      (done : User.registerStatements php e.salt e.clock name username password role commissionRate
        commissionType specializations db = (.ok userId, after)) (asked : AsksRegister e) :
      Served php e user db after
  | updateStaff {userId : Int} {name username password commissionType specializations : Val}
      {commissionRate : Rat} {after : Db} (allowed : Allowed user [.admin])
      (done : User.updateStatements php e.salt userId name username password commissionRate
        commissionType specializations db = (.ok (), after))
      (asked : Asks e "staff_update" ["POST"]) : Served php e user db after
  | availability {payload : Val} (passed : user = some payload)
      (allowed : Allowed user [.stylist])
      (known : (availabilityOf e).inArray ["available", "off"] = true)
      (asked : Asks e "staff_update_status" ["POST"]) (checked : Passes php e [.stylist] payload) :
      Served php e user db (Staff.updateStatus (availabilityOf e) (payload.field "id") db).2
  | addClient {name email phone : Val} (allowed : Allowed user [.admin, .receptionist])
      (asked : Asks e "clients" ["POST"]) :
      Served php e user db (Client.create e.clock name email phone db).2
  | clientOnly {clientId : Nat} {after : Db} (asked : AsksBooking e)
      (client : clientOf e db = (.ok clientId, after)) : Served php e user db after
  | book {clientId appointmentId : Nat} {mid after : Db} (asked : AsksBooking e)
      (named : (arg e "staff_id").empty = false)
      (client : clientOf e db = (.ok clientId, mid))
      (done : bookingOf php e clientId mid = (.ok appointmentId, after)) :
      Served php e user db after
  | mark {payload : Val} {staffId : Nat} (asked : Asks e "appointments_update" ["POST", "PUT"])
      (checked : Passes php e [.admin, .receptionist, .stylist] payload)
      (passed : user = some payload) (allowed : Allowed user [.admin, .receptionist, .stylist])
      (known : isStatus (statusOf e) = true)
      (found : Appointment.assigned (arg e "id").key db = some staffId)
      (unbilled : (statusOf e).is "completed" = true → ∀ apt,
        Appointment.toBill (arg e "id").key
          (Appointment.mark (arg e "id") (statusOf e) staffId db) = some apt →
        ∀ invoiceId after, billOf e payload apt
          (Appointment.mark (arg e "id") (statusOf e) staffId db) ≠ (.ok invoiceId, after)) :
      Served php e user db (Appointment.mark (arg e "id") (statusOf e) staffId db)
  | complete {payload : Val} {staffId invoiceId : Nat} {apt : Invoice.Billable} {after : Db}
      (asked : Asks e "appointments_update" ["POST", "PUT"])
      (checked : Passes php e [.admin, .receptionist, .stylist] payload)
      (passed : user = some payload) (allowed : Allowed user [.admin, .receptionist, .stylist])
      (completed : (statusOf e).is "completed" = true)
      (found : Appointment.assigned (arg e "id").key db = some staffId)
      (pending : Appointment.toBill (arg e "id").key
        (Appointment.mark (arg e "id") (statusOf e) staffId db) = some apt)
      (billed : billOf e payload apt (Appointment.mark (arg e "id") (statusOf e) staffId db) =
        (.ok invoiceId, after)) :
      Served php e user db after
  | addService {name description category : Val} {durationMins : Int} {price : Rat}
      (allowed : Allowed user [.admin, .receptionist]) (duration : 0 < durationMins)
      (nonneg : 0 ≤ price) :
      Served php e user db (Service.create name description durationMins price category db).2
  | updateService {id : Int} {name description category : Val} {durationMins : Int} {price : Rat}
      (allowed : Allowed user [.admin, .receptionist]) (duration : 0 < durationMins)
      (nonneg : 0 ≤ price) :
      Served php e user db (Service.update id name description durationMins price category db).2
  | addProduct (allowed : Allowed user [.admin, .receptionist])
      (asked : Asks e "inventory" ["POST"]) : Served php e user db (productOf e db).2
  | updateStock {payload : Val} (allowed : Allowed user [.admin, .receptionist])
      (asked : Asks e "inventory_stock" ["POST"])
      (checked : Passes php e [.admin, .receptionist] payload)
      (named : (arg e "id").empty = false) : Served php e user db (stockOf e db).2
  | checkout {payload : Val} {invoiceId : Nat} {after : Db} (asked : Asks e "checkout" ["POST"])
      (checked : Passes php e [.admin, .receptionist] payload)
      (passed : user = some payload) (allowed : Allowed user [.admin, .receptionist])
      (method : (argOr e "payment_method" (.str "")).empty = false)
      (items : (argOr e "items" (.arr [])).empty = false)
      (done : checkoutOf e payload db = (.ok invoiceId, after)) : Served php e user db after
  | expense {payload : Val} {expenseId : Nat} {after : Db} (asked : Asks e "expenses" ["POST"])
      (passed : user = some payload) (allowed : Allowed user [.admin, .receptionist, .stylist])
      (positive : 0 < amountOf e) (done : expenseOf e payload db = (.ok expenseId, after)) :
      Served php e user db after
  | viewDrawer (allowed : Allowed user [.admin, .receptionist]) :
      Served php e user db (Reconciliation.getTodayStatus e.clock db).2
  | closeDrawer {payload : Val} (passed : user = some payload)
      (allowed : Allowed user [.admin, .receptionist]) :
      Served php e user db (closeOf e payload db).2

theorem eq_true_of_unrefused {b : Bool} (unrefused : ¬ (!b) = true) : b = true := by
  simpa using unrefused

section Endings

/-! Each building block of a controller, as what is left to show of the session it ends in. -/

variable {α β : Type} {P : Session → Prop} {s : Session}

theorem ends_of_ite {c : Prop} [Decidable c] {x y : Php α} (yes : c → P (x s).2)
    (no : ¬ c → P (y s).2) : P ((if c then x else y) s).2 := by
  split
  · exact yes ‹_›
  · exact no ‹_›

theorem ends_of_catch {x : Php α} {handler : String → Php α} (ends : P (x s).2)
    (handled : ∀ message t, P t → P (handler message t).2) : P (catchException x handler s).2 := by
  rw [catchException]
  generalize x s = outcome at ends ⊢
  rcases outcome with ⟨((m | m) | r) | a, t⟩
  · exact handled m t ends
  · exact ends
  · exact ends
  · exact ends

theorem ends_of_transaction {statements : Sql α} (idle : s.saved = none)
    (returned : ∀ a db, statements s.db = (.ok a, db) → P { s with db })
    (failed : ∀ t, t.close = s.db → t.user = s.user → t.signed = s.signed → P t) :
    P (transaction statements s).2 := by
  rw [transaction_run _ _ idle]
  rcases outcome : statements s.db with ⟨(m | m) | a, db⟩
  · exact failed s (Session.close_of_idle idle) rfl rfl
  · exact failed _ rfl rfl rfl
  · exact returned a db outcome

/-- A refusal leaves the session as it is; a payload that passes is recorded. -/
theorem ends_of_handle {env : Env} {roles : List Role} {k : Val → Php α} (refused : P s)
    (passed : ∀ payload, AuthMiddleware.check env.php env.clock env.headers roles = .ok payload →
      P (k payload { s with user := some payload }).2) :
    P ((env.handle roles >>= k) s).2 := by
  rw [Prog.bind_run, Env.handle_eq]
  split
  · rename_i outcome
    split at outcome <;> cases outcome
    exact passed _ ‹_›
  · rename_i outcome
    split at outcome <;> cases outcome
    exact refused

theorem ends_of_exec_bind {statements : Sql α} {f : α → Php β}
    (returned : ∀ a db, statements s.db = (.ok a, db) → P (f a { s with db }).2)
    (failed : ∀ why db, statements s.db = (.error why, db) → P { s with db }) :
    P ((exec statements >>= f) s).2 := by
  rw [Prog.bind_run, exec_run]
  rcases outcome : statements s.db with ⟨why | a, db⟩
  · exact failed why db outcome
  · exact returned a db outcome

theorem ends_of_attempt {x : Php α} {answer : α → Val} (ends : P (x s).2) :
    P (attempt x answer s).2 := by
  rwa [attempt_state]

end Endings

/-- The session ends with the database one of the ways of `Served` away, and has signed
nothing. -/
def Kept (php : Platform) (e : Event) (db : Db) (t : Session) : Prop :=
  Served php e t.user db t.close ∧ t.signed = []

section Actions

variable {php : Platform} {e : Event} {db : Db}

theorem kept_of_close {t : Session} (same : t.close = db) (silent : t.signed = []) :
    Kept php e db t := by
  rw [Kept, same]
  exact ⟨.nothing, silent⟩

theorem allowed_of_check {roles : List Role} {payload : Val}
    (passed : Passes php e roles payload) (nonempty : roles ≠ []) : Allowed (some payload) roles := by
  obtain ⟨-, -, granted⟩ := AuthMiddleware.check_eq_ok passed
  exact ⟨payload, rfl, granted nonempty⟩

/-- The session of a request whose payload passed. -/
def entered (db : Db) (payload : Val) : Session := ⟨db, none, some payload, []⟩

/-- The common opening of the guarded actions. -/
theorem kept_of_handle {α : Type} {roles : List Role} {k : Val → Php α} (nonempty : roles ≠ [])
    (passed : ∀ payload, Passes php e roles payload → Allowed (some payload) roles →
      Kept php e db (k payload (entered db payload)).2) :
    Kept php e db (((e.env php).handle roles >>= k) (.start db)).2 :=
  ends_of_handle (kept_of_close rfl rfl) fun payload outcome =>
    passed payload outcome (allowed_of_check outcome nonempty)

/-- A transaction that commits is one way of `Served`, and otherwise nothing happens. -/
theorem kept_of_transaction {α : Type} {statements : Sql α} {payload : Val}
    (returned : ∀ a after, statements db = (.ok a, after) →
      Served php e (some payload) db after) :
    Kept php e db (transaction statements (entered db payload)).2 :=
  ends_of_transaction rfl (fun a after done => ⟨returned a after done, rfl⟩)
    fun _ same _ silent => kept_of_close same silent

/-- A login writes nothing. -/
theorem login_served :
    Served php e (AuthController.login (e.env php) (.start db)).2.user db
      (AuthController.login (e.env php) (.start db)).2.close := by
  refine ends_of_ite (P := fun t => Served php e t.user db t.close) (fun _ => .nothing) fun _ => ?_
  have unchanged := (User.authenticate_run php (argOr e "username" (.str ""))
    (argOr e "password" (.str "")) db).1
  refine ends_of_exec_bind (P := fun t => Served php e t.user db t.close)
    (fun user after outcome => ?_) fun why after outcome => ?_
  · obtain rfl : after = db := (congrArg Prod.snd outcome).symm.trans unchanged
    cases user <;> exact .nothing
  · rw [show after = db from (congrArg Prod.snd outcome).symm.trans unchanged]
    exact .nothing

theorem register_kept (asked : AsksRegister e) :
    Kept php e db (AuthController.register (e.env php) (.start db)).2 := by
  refine kept_of_handle (by simp) fun payload _ allowed => ?_
  refine ends_of_ite (fun _ => kept_of_close rfl rfl) fun _ => ?_
  refine ends_of_ite (fun _ => kept_of_close rfl rfl) fun known => ?_
  refine ends_of_attempt (kept_of_transaction fun userId after done => ?_)
  exact .register allowed (by simpa using known) done asked

theorem updateStaff_kept (asked : Asks e "staff_update" ["POST"]) :
    Kept php e db (AuthController.updateStaff (e.env php) (.start db)).2 := by
  refine kept_of_handle (by simp) fun payload _ allowed => ?_
  refine ends_of_ite (fun _ => kept_of_close rfl rfl) fun _ => ?_
  refine ends_of_attempt (kept_of_transaction fun _ after done => ?_)
  exact .updateStaff allowed done asked

theorem staffList_kept : Kept php e db (AuthController.getStaffList (e.env php) (.start db)).2 :=
  ends_of_ite (fun _ => kept_of_handle (by simp) fun _ _ _ => kept_of_close rfl rfl)
    fun _ => kept_of_close rfl rfl

theorem availability_kept (asked : Asks e "staff_update_status" ["POST"]) :
    Kept php e db (AuthController.updateStatus (e.env php) (.start db)).2 := by
  refine kept_of_handle (by simp) fun payload checked allowed => ?_
  refine ends_of_ite (fun _ => kept_of_close rfl rfl) fun known => ?_
  refine ends_of_attempt ⟨.availability rfl allowed ?_ asked checked, rfl⟩
  exact eq_true_of_unrefused known

theorem dashboard_kept :
    Kept php e db (AppointmentController.getDashboard (e.env php) (.start db)).2 :=
  kept_of_handle (by simp) fun _ _ _ => kept_of_close rfl rfl

theorem appointments_kept :
    Kept php e db (AppointmentController.getAppointments (e.env php) (.start db)).2 := by
  refine kept_of_handle (by simp) fun payload _ _ => ?_
  refine ends_of_ite (fun _ => ?_) fun _ => kept_of_close rfl rfl
  rw [exec_read_bind_run]
  cases AppointmentController.ownStaff payload (entered db payload).db <;> exact kept_of_close rfl rfl

theorem todayAppointments_kept :
    Kept php e db (AppointmentController.getTodayAppointments (e.env php) (.start db)).2 := by
  refine kept_of_handle (by simp) fun payload _ _ => ?_
  refine ends_of_ite (fun _ => ?_) fun _ => kept_of_close rfl rfl
  rw [exec_read_bind_run]
  cases AppointmentController.ownStaff payload (entered db payload).db <;> exact kept_of_close rfl rfl

/-- The client is written, or found, before the booking is tried. -/
theorem booking_kept (asked : AsksBooking e) :
    Kept php e db (AppointmentController.createAppointment (e.env php) (.start db)).2 := by
  refine ends_of_ite (fun _ => kept_of_close rfl rfl) fun given => ?_
  simp only [Bool.or_eq_true, not_or, Bool.not_eq_true] at given
  refine ends_of_attempt (ends_of_exec_bind (fun clientId mid client => ?_) fun why mid failed => ?_)
  · refine ends_of_transaction rfl (fun appointmentId after done => ?_) fun t same _ silent => ?_
    · exact ⟨.book asked given.1.1.1.2 client done, rfl⟩
    · rw [Kept, same]
      exact ⟨.clientOnly asked client, silent⟩
  · rcases Client.findOrCreate_run e.clock (argOr e "client_name" (.str ""))
      (argOr e "client_email" (.str "")) (argOr e "client_phone" (.str "")) db with
      ⟨r, -, -, outcome⟩ | ⟨-, outcome⟩
    · cases failed.symm.trans outcome
    · cases failed.symm.trans outcome

theorem statusUpdate_kept (asked : Asks e "appointments_update" ["POST", "PUT"]) :
    Kept php e db (AppointmentController.updateStatus (e.env php) (.start db)).2 := by
  refine kept_of_handle (by simp) fun payload checked allowed => ?_
  refine ends_of_ite (fun _ => kept_of_close rfl rfl) fun _ => ?_
  refine ends_of_ite (fun _ => kept_of_close rfl rfl) fun known => ?_
  refine ends_of_attempt ?_
  show Kept php e db (Appointment.updateStatus e.clock (arg e "id") (statusOf e)
    (payload.field "id") (entered db payload)).2
  have known : isStatus (statusOf e) = true := eq_true_of_unrefused known
  cases found : Appointment.assigned (arg e "id").key db with
  | none =>
    rw [Appointment.updateStatus_run_missing _ _ _ _ _ rfl found]
    exact kept_of_close rfl rfl
  | some staffId =>
    by_cases completed : (statusOf e).is "completed" = true
    · cases pending : Appointment.toBill (arg e "id").key
          (Appointment.mark (arg e "id") (statusOf e) staffId db) with
      | none =>
        rw [Appointment.updateStatus_marked _ _ _ _ (entered db payload) rfl found fun _ => pending]
        have nothing : ∀ apt, Appointment.toBill (arg e "id").key
            (Appointment.mark (arg e "id") (statusOf e) staffId db) ≠ some apt := by simp [pending]
        exact ⟨.mark asked checked rfl allowed known found fun _ apt some => absurd some (nothing apt),
          rfl⟩
      | some apt =>
        rcases billed : billOf e payload apt
          (Appointment.mark (arg e "id") (statusOf e) staffId db) with ⟨why | invoiceId, after⟩
        · obtain ⟨thrown, t, outcome, closed, user, silent⟩ :=
            Appointment.updateStatus_unbilled _ _ _ _ (entered db payload) rfl found completed pending
              billed
          rw [outcome, Kept, closed, user]
          refine ⟨.mark asked checked rfl allowed known found
            fun _ other present invoiceId after done => ?_, silent⟩
          cases pending.symm.trans present
          cases billed.symm.trans done
        · rw [Appointment.updateStatus_billed _ _ _ _ (entered db payload) rfl found completed
            pending billed]
          exact ⟨.complete asked checked rfl allowed completed found pending billed, rfl⟩
    · rw [Appointment.updateStatus_marked _ _ _ _ (entered db payload) rfl found
        fun same => absurd same completed]
      exact ⟨.mark asked checked rfl allowed known found fun same => absurd same completed, rfl⟩

theorem clients_kept : Kept php e db (ClientController.getClients (e.env php) (.start db)).2 :=
  kept_of_handle (by simp) fun _ _ _ => kept_of_close rfl rfl

theorem addClient_kept (asked : Asks e "clients" ["POST"]) :
    Kept php e db (ClientController.addClient (e.env php) (.start db)).2 := by
  refine kept_of_handle (by simp) fun payload _ allowed => ?_
  refine ends_of_ite (fun _ => kept_of_close rfl rfl) fun _ => ?_
  exact ends_of_attempt ⟨.addClient allowed asked, rfl⟩

theorem addService_kept :
    Kept php e db (ServiceController.addService (e.env php) (.start db)).2 := by
  refine kept_of_handle (by simp) fun payload _ allowed => ?_
  refine ends_of_ite (fun _ => kept_of_close rfl rfl) fun valid => ?_
  simp only [Bool.or_eq_true, decide_eq_true_eq, not_or, not_le, not_lt] at valid
  exact ends_of_attempt ⟨.addService allowed valid.1.1.2 valid.1.2, rfl⟩

theorem updateService_kept :
    Kept php e db (ServiceController.updateService (e.env php) (.start db)).2 := by
  refine kept_of_handle (by simp) fun payload _ allowed => ?_
  refine ends_of_ite (fun _ => kept_of_close rfl rfl) fun valid => ?_
  simp only [Bool.or_eq_true, decide_eq_true_eq, not_or, not_le, not_lt] at valid
  exact ends_of_attempt ⟨.updateService allowed valid.1.1.2 valid.1.2, rfl⟩

theorem checkout_kept (asked : Asks e "checkout" ["POST"]) :
    Kept php e db (POSController.checkout (e.env php) (.start db)).2 := by
  refine kept_of_handle (by simp) fun payload checked allowed => ?_
  refine ends_of_ite (fun _ => kept_of_close rfl rfl) fun valid => ?_
  simp only [Bool.or_eq_true, not_or, Bool.not_eq_true] at valid
  exact ends_of_attempt (kept_of_transaction fun _ _ done =>
    .checkout asked checked rfl allowed valid.1 valid.2 done)

theorem commissionReport_kept :
    Kept php e db (POSController.getCommissionReport (e.env php) (.start db)).2 :=
  kept_of_handle (by simp) fun _ _ _ => kept_of_close rfl rfl

theorem payouts_kept :
    Kept php e db (POSController.getStylistPayouts (e.env php) (.start db)).2 :=
  kept_of_handle (by simp) fun _ _ _ => kept_of_close rfl rfl

theorem inventory_kept : Kept php e db (InventoryController.getInventory (e.env php) (.start db)).2 :=
  kept_of_handle (by simp) fun _ _ _ => kept_of_close rfl rfl

theorem alerts_kept :
    Kept php e db (InventoryController.getLowStockAlerts (e.env php) (.start db)).2 :=
  kept_of_handle (by simp) fun _ _ _ => kept_of_close rfl rfl

theorem addProduct_kept (asked : Asks e "inventory" ["POST"]) :
    Kept php e db (InventoryController.addProduct (e.env php) (.start db)).2 := by
  refine kept_of_handle (by simp) fun payload _ allowed => ?_
  refine ends_of_ite (fun _ => kept_of_close rfl rfl) fun _ => ?_
  refine ends_of_ite (fun _ => kept_of_close rfl rfl) fun _ => ?_
  exact ends_of_attempt ⟨.addProduct allowed asked, rfl⟩

theorem updateStock_kept (asked : Asks e "inventory_stock" ["POST"]) :
    Kept php e db (InventoryController.updateStock (e.env php) (.start db)).2 := by
  refine kept_of_handle (by simp) fun payload checked allowed => ?_
  refine ends_of_ite (fun _ => kept_of_close rfl rfl) fun named => ?_
  exact ends_of_attempt ⟨.updateStock allowed asked checked (Bool.eq_false_iff.mpr named), rfl⟩

theorem expenses_kept : Kept php e db (ExpenseController.getExpenses (e.env php) (.start db)).2 :=
  kept_of_handle (by simp) fun _ _ _ => kept_of_close rfl rfl

theorem expense_kept (asked : Asks e "expenses" ["POST"]) :
    Kept php e db (ExpenseController.logExpense (e.env php) (.start db)).2 := by
  refine kept_of_handle (by simp) fun payload _ allowed => ?_
  refine ends_of_ite (fun _ => kept_of_close rfl rfl) fun valid => ?_
  simp only [Bool.or_eq_true, decide_eq_true_eq, not_or, not_le] at valid
  exact ends_of_attempt (kept_of_transaction fun _ _ done =>
    .expense asked rfl allowed valid.2 done)

theorem reconciliations_kept :
    Kept php e db (ReconciliationController.getReconciliations (e.env php) (.start db)).2 :=
  kept_of_handle (by simp) fun _ _ _ => kept_of_close rfl rfl

theorem drawer_kept :
    Kept php e db (ReconciliationController.getTodayStatus (e.env php) (.start db)).2 := by
  refine kept_of_handle (by simp) fun payload _ allowed => ?_
  refine ends_of_exec_bind (fun today after outcome => ?_) fun why after failed => ?_
  · have state : (Reconciliation.getTodayStatus e.clock db).2 = after := congrArg Prod.snd outcome
    have viewed : Served php e (some payload) db after := state ▸ .viewDrawer allowed
    cases today <;> exact ⟨viewed, rfl⟩
  · obtain ⟨r, outcome⟩ := Reconciliation.getTodayStatus_run e.clock db
    cases failed.symm.trans outcome

theorem close_kept :
    Kept php e db (ReconciliationController.closeDrawer (e.env php) (.start db)).2 := by
  refine kept_of_handle (by simp) fun payload _ allowed => ?_
  have closed : Served php e (some payload) db (closeOf e payload db).2 := .closeDrawer rfl allowed
  refine ends_of_catch (ends_of_exec_bind (fun success after outcome => ?_)
    fun why after outcome => ?_) fun _ _ ended => ended
  · have state : (closeOf e payload db).2 = after := congrArg Prod.snd outcome
    cases success <;> exact ⟨state ▸ closed, rfl⟩
  · have state : (closeOf e payload db).2 = after := congrArg Prod.snd outcome
    exact ⟨state ▸ closed, rfl⟩

theorem pure_kept : Kept php e db ((pure () : Php Unit) (.start db)).2 := kept_of_close rfl rfl

/-- Every route but the login's ends in one of the ways of `Served` and signs nothing. -/
theorem route_kept (other : ¬ Asks e "login" ["POST"]) :
    Kept php e db (route e.request.action e.request.method (e.env php) (.start db)).2 := by
  generalize named : e.request.action = action at other ⊢
  have post (posted : e.request.method = "POST") : Asks e action ["POST"] :=
    ⟨named, by simp [posted]⟩
  fun_cases route action e.request.method (e.env php)
  -- a known action with another method
  any_goals with_reducible exact pure_kept
  · exact absurd (post ‹_›) other
  · exact register_kept (.inl (post ‹_›))
  · exact staffList_kept
  · exact register_kept (.inr (post ‹_›))
  · exact updateStaff_kept (post ‹_›)
  · exact availability_kept (post ‹_›)
  · exact dashboard_kept
  · exact appointments_kept
  · exact booking_kept (.inl (post ‹_›))
  · exact booking_kept (.inr (post ‹_›))
  · exact todayAppointments_kept
  · exact statusUpdate_kept ⟨named, by simpa using ‹_ ∨ _›⟩
  · exact clients_kept
  · exact addClient_kept (post ‹_›)
  · exact kept_of_close rfl rfl
  · exact addService_kept
  · exact updateService_kept
  · exact checkout_kept (post ‹_›)
  · exact commissionReport_kept
  · exact payouts_kept
  · exact inventory_kept
  · exact addProduct_kept (post ‹_›)
  · exact updateStock_kept (post ‹_›)
  · exact alerts_kept
  · exact expenses_kept
  · exact expense_kept (post ‹_›)
  · exact reconciliations_kept
  · exact drawer_kept
  · exact close_kept
  · exact kept_of_close rfl rfl

end Actions

/-- A client that a booking finds or adds is all it touches. -/
theorem client_frame {e : Event} {db after : Db} {clientId : Nat}
    (client : clientOf e db = (.ok clientId, after)) :
    after = db ∨ ∃ c, after = db.setClients (db.clients.insert c) := by
  rcases Client.findOrCreate_run e.clock (argOr e "client_name" (.str ""))
    (argOr e "client_email" (.str "")) (argOr e "client_phone" (.str "")) db with
    ⟨r, -, -, outcome⟩ | ⟨-, outcome⟩
  · exact .inl (congrArg Prod.snd (client.symm.trans outcome))
  · exact .inr ⟨_, congrArg Prod.snd (client.symm.trans outcome)⟩

section Routing

variable {php : Platform} {e : Event}

/-- A request that is no preflight goes where the switch sends it. -/
theorem index_asked {action method : String} (named : e.request.action = action)
    (sent : e.request.method = method) (runs : method ≠ "OPTIONS") :
    index php e = route action method (e.env php) := by
  subst named sent
  exact if_neg runs

theorem index_post {action : String} (asked : Asks e action ["POST"]) :
    index php e = route action "POST" (e.env php) :=
  index_asked asked.1 (List.mem_singleton.mp asked.2) (by decide)

theorem index_get {action : String} (asked : Asks e action ["GET"]) :
    index php e = route action "GET" (e.env php) :=
  index_asked asked.1 (List.mem_singleton.mp asked.2) (by decide)

theorem index_login (asked : Asks e "login" ["POST"]) :
    index php e = AuthController.login (e.env php) := (index_post asked).trans rfl

theorem index_checkout (asked : Asks e "checkout" ["POST"]) :
    index php e = POSController.checkout (e.env php) := (index_post asked).trans rfl

theorem index_expense (asked : Asks e "expenses" ["POST"]) :
    index php e = ExpenseController.logExpense (e.env php) := (index_post asked).trans rfl

theorem index_stock (asked : Asks e "inventory_stock" ["POST"]) :
    index php e = InventoryController.updateStock (e.env php) := (index_post asked).trans rfl

theorem index_availability (asked : Asks e "staff_update_status" ["POST"]) :
    index php e = AuthController.updateStatus (e.env php) := (index_post asked).trans rfl

theorem index_booking (asked : AsksBooking e) :
    index php e = AppointmentController.createAppointment (e.env php) := by
  rcases asked with desk | online
  · exact (index_post desk).trans rfl
  · exact (index_post online).trans rfl

theorem index_statusUpdate (asked : Asks e "appointments_update" ["POST", "PUT"]) :
    index php e = AppointmentController.updateStatus (e.env php) := by
  obtain ⟨action, method⟩ := asked
  simp only [List.mem_cons, List.not_mem_nil, or_false] at method
  rcases method with post | put
  · exact (index_asked action post (by decide)).trans rfl
  · exact (index_asked action put (by decide)).trans rfl

end Routing

/-- Every request but a login ends in one of the ways of `Served` and signs nothing. -/
theorem index_kept (php : Platform) (e : Event) (db : Db) (other : ¬ Asks e "login" ["POST"]) :
    Kept php e db (index php e (.start db)).2 :=
  ends_of_ite (fun _ => kept_of_close rfl rfl) fun _ => route_kept other

/-- What a request does to the database is one of the ways of `Served`. -/
theorem serve_served (php : Platform) (e : Event) (db : Db) :
    Served php e (serve php e db).user db (serve php e db).db := by
  show Served php e (index php e (.start db)).2.user db (index php e (.start db)).2.close
  by_cases asked : Asks e "login" ["POST"]
  · rw [index_login asked]
    exact login_served
  · exact (index_kept php e db asked).1

section Answers

/-! What runs behind a request that no check refuses. -/

variable {php : Platform} {e : Event} {db : Db}

theorem exists_passes {roles : List Role}
    (passes : (AuthMiddleware.check php e.clock e.request.headers roles).toOption.isSome = true) :
    ∃ payload, Passes php e roles payload := by
  cases outcome : AuthMiddleware.check php e.clock e.request.headers roles with
  | error refusal =>
    rw [outcome] at passes
    cases passes
  | ok payload => exact ⟨payload, outcome⟩

theorem handle_run (env : Env) {roles : List Role} {payload : Val}
    (passed : AuthMiddleware.check env.php env.clock env.headers roles = .ok payload) (s : Session) :
    env.handle roles s = (.ok payload, { s with user := some payload }) := by
  simp only [Env.handle_eq, passed]

theorem check_error_status {php : Platform} {clock : Clock} {headers : Headers} {roles : List Role}
    {response : Response} (refused : AuthMiddleware.check php clock headers roles = .error response) :
    response.status ≠ 200 := by
  rw [AuthMiddleware.check, AuthMiddleware.ruling] at refused
  split at refused
  · cases refused
    decide
  · split at refused
    · split at refused
      · dsimp only at refused
        split at refused
        · cases refused
          decide
        · split at refused
          · cases refused
          · cases refused
            decide
      · cases refused
        decide
    · cases refused
      decide

/-- The middleware answers with an error and touches nothing, or records the payload. -/
theorem handle_cases (env : Env) (roles : List Role) (s : Session) :
    (∃ response : Response, response.status ≠ 200 ∧
      env.handle roles s = (.error (.exit response), s)) ∨
    ∃ payload, AuthMiddleware.check env.php env.clock env.headers roles = .ok payload ∧
      env.handle roles s = (.ok payload, { s with user := some payload }) := by
  cases outcome : AuthMiddleware.check env.php env.clock env.headers roles with
  | error response =>
    refine .inl ⟨response, check_error_status outcome, ?_⟩
    simp only [Env.handle_eq, outcome]
  | ok payload => exact .inr ⟨payload, rfl, handle_run env outcome s⟩

/-- A checkout that is accepted is served by its statements. -/
theorem serve_accepted (accepted : Accepted php e db) :
    ∃ payload invoiceId, checkoutOf e payload db = (.ok invoiceId, (serve php e db).db) := by
  obtain ⟨asked, method, items, payload, checked, payable, accepting⟩ := accepted
  obtain ⟨invoiceId, after, done⟩ := Invoice.checkoutStatements_accepts payable accepting
    (argOr e "payment_method" (.str ""))
  refine ⟨payload, invoiceId, done.trans ?_⟩
  have served : (index php e (.start db)).2 = { entered db payload with db := after } := by
    rw [index_checkout asked, POSController.checkout,
      Prog.bind_of_ok (handle_run (e.env php) checked _)]
    have given : ¬ ((argOr e "payment_method" (.str "")).empty ||
        (argOr e "items" (.arr [])).empty) = true := by simp [method, items]
    refine ends_of_ite (P := (· = { entered db payload with db := after }))
      (fun refused => absurd refused given) fun _ => ?_
    have returned : transaction (checkoutOf e payload) (entered db payload) =
        (.ok invoiceId, { entered db payload with db := after }) :=
      (transaction_eq_ok rfl).mpr ⟨after, done, rfl⟩
    exact (attempt_state _ _ _).trans (congrArg Prod.snd returned)
  rw [serve_db, served]
  rfl

/-- A stock adjustment that the controller lets through is served by its one statement. -/
theorem serve_stock {payload : Val} (asked : Asks e "inventory_stock" ["POST"])
    (checked : Passes php e [.admin, .receptionist] payload)
    (named : (arg e "id").empty = false) : (serve php e db).db = (stockOf e db).2 := by
  rw [serve_db, index_stock asked, InventoryController.updateStock,
    Prog.bind_of_ok (handle_run (e.env php) checked _)]
  have given : ¬ (arg e "id").empty = true := by simp [named]
  refine ends_of_ite (P := fun t => t.close = _) (fun refused => absurd refused given) fun _ => ?_
  exact congrArg Session.close (attempt_state _ _ _)

/-- The same for a stylist's availability. -/
theorem serve_availability {payload : Val} (asked : Asks e "staff_update_status" ["POST"])
    (checked : Passes php e [.stylist] payload)
    (known : (availabilityOf e).inArray ["available", "off"] = true) :
    (serve php e db).db = (Staff.updateStatus (availabilityOf e) (payload.field "id") db).2 := by
  rw [serve_db, index_availability asked, AuthController.updateStatus,
    Prog.bind_of_ok (handle_run (e.env php) checked _)]
  have listed : ¬ (!(availabilityOf e).inArray ["available", "off"]) = true := by simp [known]
  refine ends_of_ite (P := fun t => t.close = _) (fun refused => absurd refused listed) fun _ => ?_
  exact congrArg Session.close (attempt_state _ _ _)

/-- The middleware's refusal is the answer. -/
theorem availability_refused (asked : Asks e "staff_update_status" ["POST"])
    (refused : ∀ payload, ¬ Passes php e [.stylist] payload) :
    (serve php e db).response.status ≠ 200 ∧ (serve php e db).db = db := by
  rw [serve_response, serve_db, index_availability asked, AuthController.updateStatus]
  rcases handle_cases (e.env php) [.stylist] (.start db) with
    ⟨response, error, run⟩ | ⟨payload, checked, -⟩
  · rw [Prog.bind_of_error run]
    exact ⟨error, rfl⟩
  · exact absurd checked (refused payload)

theorem availability_answered {payload : Val} (asked : Asks e "staff_update_status" ["POST"])
    (checked : Passes php e [.stylist] payload)
    (known : (availabilityOf e).inArray ["available", "off"] = true) :
    (serve php e db).response = ⟨200, some (.arr [("success", .bool true)])⟩ := by
  have listed : ¬ (!(availabilityOf e).inArray ["available", "off"]) = true := by simp [known]
  rw [serve_response, index_availability asked, AuthController.updateStatus,
    Prog.bind_of_ok (handle_run (e.env php) checked _)]
  exact congrArg (fun x : Php Unit => responseOf (x _).1) (if_neg listed)

/-- Without a token the staff list is public. -/
theorem serve_publicStaff (asked : Asks e "staff" ["GET"])
    (anonymous : emptyBytes e.request.headers.authHeader = true) :
    (serve php e db).response = ⟨200, some (.list (Staff.getAll db))⟩ ∧
      (serve php e db).db = db := by
  have started : index php e = AuthController.getStaffList (e.env php) := (index_get asked).trans rfl
  have given : ¬ (!emptyBytes (e.env php).headers.authHeader) = true := by
    simpa [Event.env] using anonymous
  rw [serve_response, serve_db, started, AuthController.getStaffList, if_neg given]
  exact ⟨rfl, rfl⟩

/-- A status update that the controller lets through is served by the model's. -/
theorem serve_statusUpdate {payload : Val} (asked : Asks e "appointments_update" ["POST", "PUT"])
    (checked : Passes php e [.admin, .receptionist, .stylist] payload)
    (named : (arg e "id").empty = false) (known : isStatus (statusOf e) = true) :
    (serve php e db).db =
      (Appointment.updateStatus e.clock (arg e "id") (statusOf e) (payload.field "id")
        (entered db payload)).2.close := by
  rw [serve_db, index_statusUpdate asked, AppointmentController.updateStatus,
    Prog.bind_of_ok (handle_run (e.env php) checked _)]
  have given : ¬ ((arg e "id").empty || (statusOf e).empty) = true := by
    simp [named, not_empty_of_isStatus known]
  have listed : ¬ (!isStatus (statusOf e)) = true := by simp [known]
  refine ends_of_ite (P := fun t => t.close = _) (fun refused => absurd refused given) fun _ => ?_
  refine ends_of_ite (P := fun t => t.close = _) (fun refused => absurd refused listed) fun _ => ?_
  exact congrArg Session.close (attempt_state _ _ _)

end Answers

/-- The database after one request. -/
def request (php : Platform) (e : Event) (db : Db) : Db := (serve php e db).db

/-- The database after a sequential run of requests on the seeded one. -/
def afterRun (php : Platform) (hash : String → String) (clock : Clock) (events : List Event) : Db :=
  run (request php) (seed hash clock) events

theorem afterRun_append (php : Platform) (hash : String → String) (clock : Clock)
    (first second : List Event) :
    afterRun php hash clock (first ++ second) =
      run (request php) (afterRun php hash clock first) second := run_append _ _ _ _

theorem afterRun_snoc (php : Platform) (hash : String → String) (clock : Clock)
    (first : List Event) (e : Event) :
    afterRun php hash clock (first ++ [e]) = request php e (afterRun php hash clock first) :=
  afterRun_append _ _ _ _ _

/-- An invariant of the seeded database that every request keeps holds after every run. -/
theorem afterRun_keeps {php : Platform} {P : Db → Prop} (start : ∀ hash clock, P (seed hash clock))
    (one : ∀ e user db after, Served php e user db after → P db → P after)
    (hash : String → String) (clock : Clock) (events : List Event) :
    P (afterRun php hash clock events) :=
  run_keeps (fun e db before => one e _ db _ (serve_served php e db) before) (start hash clock) events

section Recorded

/-! The built-ins on what the worked runs meet: a login of the administrator, and requests
with the token it returns. -/

def adminHash : String := "$2y$10$saloonsaloonsaloonsaluaUS.aQGeq/aICibpBM5qopCbQyHI7v6"

def adminPayload : Val :=
  .arr [("id", .int 1), ("username", .str "admin"), ("role", .str "admin"),
    ("name", .str "System Administrator"), ("exp", .int 1781164800)]

def adminJson : Bytes := utf8
  "\x7b\"id\":1,\"username\":\"admin\",\"role\":\"admin\",\"name\":\"System Administrator\",\"exp\":1781164800\x7d"

def adminMessage : Bytes := utf8
  "eyJhbGciOiJIUzI1NiIsInR5cCI6IkpXVCJ9.eyJpZCI6MSwidXNlcm5hbWUiOiJhZG1pbiIsInJvbGUiOiJhZG1pbiIsIm5hbWUiOiJTeXN0ZW0gQWRtaW5pc3RyYXRvciIsImV4cCI6MTc4MTE2NDgwMH0"

def adminTag : Bytes :=
  [140, 108, 27, 149, 199, 3, 61, 234, 71, 230, 142, 37, 110, 121, 206, 245, 74, 177, 125, 78, 254,
    155, 226, 185, 68, 174, 250, 203, 18, 36, 135, 237]

def recorded : Platform where
  hmac m := if m = adminMessage then adminTag else []
  jsonEncode v :=
    match v with
    | .arr (("alg", _) :: _) => utf8 "\x7b\"alg\":\"HS256\",\"typ\":\"JWT\"\x7d"
    | _ => adminJson
  jsonDecode b := if b = adminJson then adminPayload else .null
  passwordHash _ _ := adminHash
  passwordVerify p h := p = "adminpass" && h = adminHash
  strtotime _ s := if s = "2026-06-10 11:00" then some 1781089200 else none

/-- 2026-06-10 08:00:00. -/
def morning : Clock := ⟨1781078400, by decide, by decide⟩

/-- The seeded database of that morning. -/
def morningDb : Db := seed (fun _ => adminHash) morning

/-- A request with the administrator's token. -/
def adminRequestAt (clock : Clock) (action method : String) (body : List (String × Val)) :
    Event where
  clock
  salt := 0
  request :=
    { action
      method
      headers :=
        { authorization := some (utf8 "Bearer " ++ JWT.token recorded adminMessage)
          lowercase := none
          server := none
          redirect := none }
      body := .arr body }

def adminRequest (action method : String) (body : List (String × Val)) : Event :=
  adminRequestAt morning action method body

end Recorded

end Saloon.Guarantees
