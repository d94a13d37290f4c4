import Saloon.Guarantees.Serving
import Saloon.Source.Exchanges

/-!
# A request that nothing interrupts

Sent without anything in between, the statements of a request leave the database
and give the response that the request does when it is served as one step: the
sequential API is the statement-level one with every request alone.
-/
namespace Saloon.Guarantees

open Lib Source

variable {α : Type}

/-- The script, alone, ends as the action does. -/
def Matches (script : Exchange) (x : Php Unit) (s : Session) : Prop :=
  script.alone s.db = (responseOf (x s).1, (x s).2.close)

section Rules

variable {s : Session} {answer : α → Val}

theorem matches_json (idle : s.saved = none) (output : Val) (status : Nat) :
    Matches (responding output status) (json output status) s := by
  show (_, _) = (_, s.close)
  rw [Session.close_of_idle idle]
  rfl

theorem matches_ite {c : Prop} [Decidable c] {script other : Exchange} {x y : Php Unit}
    (yes : c → Matches script x s) (no : ¬ c → Matches other y s) :
    Matches (if c then script else other) (if c then x else y) s := by
  split
  · exact yes ‹_›
  · exact no ‹_›

theorem matches_guarded {env : Env} {roles : List Role} {action : Val → Exchange}
    {k : Val → Php Unit} (idle : s.saved = none)
    (passed : ∀ payload, Matches (action payload) (k payload) { s with user := some payload }) :
    Matches (guarded env roles action) (env.handle roles >>= k) s := by
  unfold Matches guarded
  rw [Prog.bind_run, Env.handle_eq]
  cases AuthMiddleware.check env.php env.clock env.headers roles with
  | error response =>
    show (_, _) = (_, s.close)
    rw [Session.close_of_idle idle]
    rfl
  | ok payload => exact passed payload

theorem alone_inTransaction (body : SqlBody α) (next : Except Thrown α → Exchange) (db : Db) :
    (inTransaction body next).alone db =
      match body.run db with
      | (.ok a, after) => (next (.ok a)).alone after
      | (.error e, _) => (next (.error e)).alone db := by
  rw [inTransaction, Script.alone_transaction]
  rcases body.run db with ⟨e | a, after⟩ <;> rfl

/-- A query changes nothing. -/
theorem alone_read (f : Db → α) (next : Except Thrown α → Exchange) (db : Db) :
    (inTransaction (.read f) next).alone db = (next (.ok (f db))).alone db :=
  alone_inTransaction _ _ _

/-- A model's transaction behind a `try`. -/
theorem matches_transaction {body : SqlBody α} {statements : Sql α} (idle : s.saved = none)
    (same : body.run = statements) :
    Matches (attemptBody body answer) (attempt (transaction statements) answer) s := by
  unfold Matches attemptBody
  rw [alone_inTransaction, same]
  obtain ⟨db, saved, user, signed⟩ := s
  cases idle
  simp only [attempt, catchException, Prog.bind_run, transaction_run]
  rcases statements db with ⟨(m | m) | a, after⟩ <;> rfl

/-- A model's one statement behind a `try`; a statement that fails changes nothing. -/
theorem matches_statement {statement : Sql α} (idle : s.saved = none)
    (fails : ∀ e after, statement s.db = (.error e, after) → after = s.db) :
    Matches (attemptBody (.execute statement) answer) (attempt (exec statement) answer) s := by
  unfold Matches attemptBody
  rw [alone_inTransaction, Body.run_execute]
  obtain ⟨db, saved, user, signed⟩ := s
  cases idle
  simp only [attempt, catchException, Prog.bind_run, exec_run]
  rcases outcome : statement db with ⟨(m | m) | a, after⟩
  · rw [fails _ _ outcome]
    rfl
  · rw [fails _ _ outcome]
    rfl
  · rfl

/-- A statement that does not fail. -/
theorem matches_update {statement : Sql α} (idle : s.saved = none)
    (returns : ∃ a after, statement s.db = (.ok a, after)) :
    Matches (attemptBody (.execute statement) answer) (attempt (exec statement) answer) s := by
  obtain ⟨a, after, outcome⟩ := returns
  refine matches_statement idle fun e other failed => ?_
  cases outcome.symm.trans failed

/-- How an attempt ends, by the outcome of what it tries. -/
theorem attempt_eq (x : Php α) :
    attempt x answer s =
      match x s with
      | (.ok a, t) => json (answer a) 200 t
      | (.error (.thrown (.exception message)), t) => json (errorBody message) 400 t
      | (.error e, t) => (.error e, t) := by
  rw [attempt, catchException, Prog.bind_run]
  rcases x s with ⟨((m | m) | r) | a, t⟩ <;> rfl

theorem matches_of_first {β : Type} {x : Php β} {f : β → Php Unit} {b : β} {t : Session}
    {script : Exchange} (first : x s = (.ok b, t)) (rest : Matches script (f b) t) :
    script.alone t.db = (responseOf ((x >>= f) s).1, ((x >>= f) s).2.close) := by
  rw [Prog.bind_of_ok first]
  exact rest

theorem attempt_of_ok {β : Type} {x : Php β} {f : β → Php α} {b : β} {t : Session}
    (first : x s = (.ok b, t)) : attempt (x >>= f) answer s = attempt (f b) answer t := by
  simp only [attempt, catchException, Prog.bind_run, first]

end Rules

section Actions

variable (env : Env) (db : Db)

theorem register_matches :
    Matches (AuthController.registerExchange env) (AuthController.register env) (.start db) := by
  refine matches_guarded rfl fun payload => ?_
  refine matches_ite (fun _ => matches_json rfl _ _) fun _ => ?_
  refine matches_ite (fun _ => matches_json rfl _ _) fun _ => ?_
  exact matches_transaction rfl (User.run_registerBody _ _ _ _ _ _ _ _ _ _)

theorem availability_matches :
    Matches (AuthController.updateStatusExchange env) (AuthController.updateStatus env)
      (.start db) := by
  refine matches_guarded rfl fun payload => ?_
  refine matches_ite (fun _ => matches_json rfl _ _) fun _ => ?_
  exact matches_update rfl ⟨_, _, rfl⟩

theorem updateStaff_matches :
    Matches (AuthController.updateStaffExchange env) (AuthController.updateStaff env)
      (.start db) := by
  refine matches_guarded rfl fun payload => ?_
  refine matches_ite (fun _ => matches_json rfl _ _) fun _ => ?_
  exact matches_transaction rfl (User.run_updateBody _ _ _ _ _ _ _ _ _)

theorem booking_matches :
    Matches (AppointmentController.createAppointmentExchange env)
      (AppointmentController.createAppointment env) (.start db) := by
  refine matches_ite (fun _ => matches_json rfl _ _) fun _ => ?_
  refine (alone_read _ _ db).trans ?_
  cases found : db.clients.find? (Client.reachedBy (env.getBody.fieldOr "client_email" (.str ""))
    (env.getBody.fieldOr "client_phone" (.str ""))) with
  | some r =>
    have finds : exec (Client.findOrCreate env.clock (env.getBody.fieldOr "client_name" (.str ""))
        (env.getBody.fieldOr "client_email" (.str ""))
        (env.getBody.fieldOr "client_phone" (.str ""))) (.start db) = (.ok r.id, .start db) := by
      rw [exec_run, Client.findOrCreate, Session.start, Prog.read_bind_run, found]
      rfl
    rw [attempt_of_ok finds]
    exact matches_transaction (s := .start db) rfl (Appointment.run_createBody _ _ _ _ _ _ _ _)
  | none =>
    have creates : exec (Client.findOrCreate env.clock (env.getBody.fieldOr "client_name" (.str ""))
        (env.getBody.fieldOr "client_email" (.str ""))
        (env.getBody.fieldOr "client_phone" (.str ""))) (.start db) =
        exec (Client.create env.clock (env.getBody.fieldOr "client_name" (.str ""))
          (env.getBody.fieldOr "client_email" (.str ""))
          (env.getBody.fieldOr "client_phone" (.str ""))) (.start db) := by
      rw [exec_run, Client.findOrCreate, Session.start, Prog.read_bind_run, found]
      rfl
    refine (alone_inTransaction _ _ _).trans ?_
    rw [Body.run_execute, attempt_of_ok (creates.trans rfl)]
    exact matches_transaction (s := { Session.start db with db := _ }) rfl (Appointment.run_createBody _ _ _ _ _ _ _ _)

/-- The bill of a completion, alone: nothing to bill, the bill, or a failure that changes nothing. -/
theorem alone_billExchange (clock : Clock) (id loggedById : Val) (db : Db) :
    (AppointmentController.billExchange clock id loggedById).alone db =
      match Appointment.toBill id.key db with
      | none => (⟨200, some AppointmentController.updated⟩, db)
      | some apt =>
        match Invoice.billStatements clock id loggedById apt db with
        | (.ok _, after) => (⟨200, some AppointmentController.updated⟩, after)
        | (.error why, _) =>
          (caught (fun _ : Unit => AppointmentController.updated)
            (.error (AppointmentController.withoutTransaction why)), db) := by
  refine (alone_read _ _ db).trans ?_
  unfold Appointment.toBill
  cases Invoice.isInvoiced id.key db with
  | true => rfl
  | false =>
    refine (alone_inTransaction _ _ db).trans ?_
    rw [Invoice.run_billBody]
    simp only [Bool.false_eq_true, if_false]
    cases Invoice.billable id.key db with
    | none => rfl
    | some apt =>
      dsimp only
      rcases Invoice.billStatements clock id loggedById apt db with
        ⟨why | invoiceId, after⟩ <;> rfl

theorem statusUpdate_matches :
    Matches (AppointmentController.updateStatusExchange env) (AppointmentController.updateStatus env)
      (.start db) := by
  refine matches_guarded rfl fun payload => ?_
  refine matches_ite (fun _ => matches_json rfl _ _) fun _ => ?_
  refine matches_ite (fun _ => matches_json rfl _ _) fun _ => ?_
  refine (alone_inTransaction _ _ db).trans ?_
  rw [Appointment.run_statusBody, Appointment.statusStatements_run, attempt_eq]
  generalize env.getBody.fieldOr "status" (.str "") = status
  generalize env.getBody.field "id" = id
  cases found : Appointment.assigned id.key db with
  | none =>
    rw [Appointment.updateStatus_run_missing _ _ _ _ _ rfl found]
    rfl
  | some staffId =>
    rw [Appointment.updateStatus_run _ _ _ _ _ rfl staffId found]
    by_cases completed : status.is "completed" = true
    · rw [if_pos completed, if_pos completed]
      refine (alone_billExchange _ _ _ _).trans ?_
      simp only [Session.start]
      generalize Appointment.mark id status staffId db = marked
      cases Appointment.toBill id.key marked with
      | none => rfl
      | some apt =>
        dsimp only
        rcases Invoice.billStatements env.clock id (Appointment.billedBy (payload.field "id")) apt
          marked with ⟨(m | m) | invoiceId, after⟩ <;> rfl
    · rw [if_neg completed, if_neg completed]
      rfl

theorem addClient_matches :
    Matches (ClientController.addClientExchange env) (ClientController.addClient env)
      (.start db) := by
  refine matches_guarded rfl fun payload => ?_
  refine matches_ite (fun _ => matches_json rfl _ _) fun _ => ?_
  exact matches_update rfl ⟨_, _, rfl⟩

theorem addService_matches :
    Matches (ServiceController.addServiceExchange env) (ServiceController.addService env)
      (.start db) := by
  refine matches_guarded rfl fun payload => ?_
  refine matches_ite (fun _ => matches_json rfl _ _) fun _ => ?_
  exact matches_update rfl ⟨_, _, rfl⟩

theorem updateService_matches :
    Matches (ServiceController.updateServiceExchange env) (ServiceController.updateService env)
      (.start db) := by
  refine matches_guarded rfl fun payload => ?_
  refine matches_ite (fun _ => matches_json rfl _ _) fun _ => ?_
  exact matches_update rfl ⟨_, _, rfl⟩

theorem checkout_matches :
    Matches (POSController.checkoutExchange env) (POSController.checkout env) (.start db) := by
  refine matches_guarded rfl fun payload => ?_
  refine matches_ite (fun _ => matches_json rfl _ _) fun _ => ?_
  exact matches_transaction rfl (Invoice.run_checkoutBody _ _ _ _ _ _)

theorem addProduct_matches :
    Matches (InventoryController.addProductExchange env) (InventoryController.addProduct env)
      (.start db) := by
  refine matches_guarded rfl fun payload => ?_
  refine matches_ite (fun _ => matches_json rfl _ _) fun _ => ?_
  refine matches_ite (fun _ => matches_json rfl _ _) fun _ => ?_
  exact matches_update rfl ⟨_, _, rfl⟩

theorem updateStock_matches :
    Matches (InventoryController.updateStockExchange env) (InventoryController.updateStock env)
      (.start db) := by
  refine matches_guarded rfl fun payload => ?_
  refine matches_ite (fun _ => matches_json rfl _ _) fun _ => ?_
  exact matches_update rfl ⟨_, _, rfl⟩

theorem expense_matches :
    Matches (ExpenseController.logExpenseExchange env) (ExpenseController.logExpense env)
      (.start db) := by
  refine matches_guarded rfl fun payload => ?_
  refine matches_ite (fun _ => matches_json rfl _ _) fun _ => ?_
  exact matches_transaction rfl (Expense.run_createBody _ _ _ _ _ _)

theorem drawer_matches :
    Matches (ReconciliationController.getTodayStatusExchange env)
      (ReconciliationController.getTodayStatus env) (.start db) := by
  refine matches_guarded rfl fun payload => ?_
  refine (alone_read _ _ db).trans ?_
  cases found : ReconciliationController.today env db with
  | some r =>
    have viewed : exec (Reconciliation.getTodayStatus env.clock) (entered db payload) =
        (.ok (some r), entered db payload) := by
      rw [exec_run, Reconciliation.getTodayStatus, entered, Prog.read_bind_run]
      rw [show db.cashReconciliation.find? (isOn (dateKey env.clock.today)) = some r from found]
      rfl
    exact matches_of_first viewed (matches_json rfl _ _)
  | none =>
    have absent : ¬ ∃ r ∈ db.cashReconciliation.rows, isOn (dateKey env.clock.today) r = true := by
      rintro ⟨r, member, on⟩
      simp [Table.find?_eq_none.mp found r member] at on
    have inserted := insertDrawer_run (openingDrawer (dateKey env.clock.today) 0 0 0 200) db
    rw [openingDrawer_date, if_neg absent] at inserted
    refine (alone_inTransaction _ _ db).trans ?_
    rw [Body.run_execute, inserted]
    refine (alone_read _ _ _).trans ?_
    have viewed : exec (Reconciliation.getTodayStatus env.clock) (entered db payload) =
        (.ok (ReconciliationController.today env (db.setCashReconciliation
          (db.cashReconciliation.insert (openingDrawer (dateKey env.clock.today) 0 0 0 200)))),
          entered (db.setCashReconciliation (db.cashReconciliation.insert
            (openingDrawer (dateKey env.clock.today) 0 0 0 200))) payload) := by
      rw [exec_run, Reconciliation.getTodayStatus, entered, Prog.read_bind_run,
        show db.cashReconciliation.find? (isOn (dateKey env.clock.today)) = none from found]
      dsimp only
      rw [Prog.bind_of_ok inserted]
      rfl
    refine matches_of_first (t := entered _ payload) viewed ?_
    cases ReconciliationController.today env (db.setCashReconciliation
      (db.cashReconciliation.insert (openingDrawer (dateKey env.clock.today) 0 0 0 200))) with
    | none => exact matches_json rfl _ _
    | some r => exact matches_json rfl _ _

theorem closeDrawer_fails {clock : Clock} {date closedById : Val} {closingBalance : Rat}
    {db after : Db} {e : Thrown}
    (failed : Reconciliation.closeDrawer clock date closingBalance closedById db =
      (.error e, after)) : after = db := by
  unfold Reconciliation.closeDrawer at failed
  split at failed
  · split at failed
    · cases failed
    · exact (congrArg Prod.snd failed).symm
  · cases failed

theorem close_matches :
    Matches (ReconciliationController.closeDrawerExchange env)
      (ReconciliationController.closeDrawer env) (.start db) := by
  refine matches_guarded rfl fun payload => ?_
  refine (alone_inTransaction _ _ db).trans ?_
  rw [Body.run_execute]
  simp only [catchException, Prog.bind_run, exec_run, Session.start]
  rcases outcome : Reconciliation.closeDrawer env.clock
    (env.getBody.fieldOr "date" (.str env.clock.today))
    (env.getBody.fieldOr "closing_balance" (.float 0)).floatval (payload.field "id") db
    with ⟨(m | m) | success, after⟩
  · rw [closeDrawer_fails outcome]
    rfl
  · rw [closeDrawer_fails outcome]
    rfl
  · cases success <;> rfl

/-- What stands for a request at the level of statements: its script, or nothing for one
that only reads. -/
def Refines (script : Option Exchange) (x : Php Unit) (s : Session) : Prop :=
  match script with
  | some script => Matches script x s
  | none => (x s).2.close = s.db

/-- An action that only reads. -/
theorem reads_of_handle {roles : List Role} {k : Val → Php Unit}
    (reads : ∀ payload, (k payload (entered db payload)).2.close = db) :
    ((env.handle roles >>= k) (.start db)).2.close = db :=
  ends_of_handle (P := fun t => t.close = db) rfl fun payload _ => reads payload

theorem reads_of_ite {c : Prop} [Decidable c] {x y : Php Unit} {s : Session}
    (yes : (x s).2.close = db) (no : (y s).2.close = db) :
    ((if c then x else y) s).2.close = db :=
  ends_of_ite (P := fun t => t.close = db) (fun _ => yes) fun _ => no

theorem login_reads : (AuthController.login env (.start db)).2.close = db := by
  refine reads_of_ite db rfl ?_
  have unchanged := (User.authenticate_run env.php (env.getBody.fieldOr "username" (.str ""))
    (env.getBody.fieldOr "password" (.str "")) db).1
  refine ends_of_exec_bind (P := fun t => t.close = db) (fun user after outcome => ?_)
    fun why after outcome => ?_
  · obtain rfl : after = db := (congrArg Prod.snd outcome).symm.trans unchanged
    cases user <;> rfl
  · exact (congrArg Prod.snd outcome).symm.trans unchanged

theorem staffList_reads : (AuthController.getStaffList env (.start db)).2.close = db :=
  reads_of_ite db (reads_of_handle env db fun _ => rfl) rfl

theorem ownAppointments_reads : (AppointmentController.getAppointments env (.start db)).2.close = db := by
  refine reads_of_handle env db fun payload => reads_of_ite db ?_ rfl
  rw [exec_read_bind_run]
  cases AppointmentController.ownStaff payload (entered db payload).db <;> rfl

theorem ownToday_reads :
    (AppointmentController.getTodayAppointments env (.start db)).2.close = db := by
  refine reads_of_handle env db fun payload => reads_of_ite db ?_ rfl
  rw [exec_read_bind_run]
  cases AppointmentController.ownStaff payload (entered db payload).db <;> rfl

variable {env db} in
theorem refines_if {c : Prop} [Decidable c] {script : Exchange} {x : Php Unit} {s : Session}
    (holds : c) (writes : Matches script x s) : Refines (if c then some script else none) x s := by
  rw [if_pos holds]
  exact writes

variable {env db} in
theorem refines_none {c : Prop} [Decidable c] {script : Exchange} {x : Php Unit} {s : Session}
    (fails : ¬ c) (reads : (x s).2.close = s.db) :
    Refines (if c then some script else none) x s := by
  rw [if_neg fails]
  exact reads

theorem not_post_of_get {method : String} (get : method = "GET") : ¬ method = "POST" := by
  subst get
  decide

theorem route_refines (action method : String) :
    Refines (exchangeOf action method env) (route action method env) (.start db) := by
  fun_cases route action method env
  -- a known action with another method
  any_goals first
    | exact refines_none ‹¬ method = "POST"› rfl
    | exact refines_none ‹¬ method = "GET"› rfl
    | exact refines_none ‹¬ (method = "POST" ∨ method = "PUT")› rfl
    | skip
  · exact login_reads env db
  · rfl
  · exact refines_if ‹_› (register_matches env db)
  · exact refines_none (not_post_of_get ‹_›) (staffList_reads env db)
  · exact refines_if ‹_› (register_matches env db)
  · exact refines_if ‹_› (updateStaff_matches env db)
  · exact refines_if ‹_› (availability_matches env db)
  · exact reads_of_handle env db fun _ => rfl
  · rfl
  · exact refines_none (not_post_of_get ‹_›) (ownAppointments_reads env db)
  · exact refines_if ‹_› (booking_matches env db)
  · exact refines_if ‹_› (booking_matches env db)
  · exact ownToday_reads env db
  · rfl
  · exact refines_if ‹_› (statusUpdate_matches env db)
  · exact refines_none (not_post_of_get ‹_›) (reads_of_handle env db fun _ => rfl)
  · exact refines_if ‹_› (addClient_matches env db)
  · exact refines_none (not_post_of_get ‹_›) rfl
  · exact refines_if ‹_› (addService_matches env db)
  · exact refines_if ‹_› (updateService_matches env db)
  · exact refines_if ‹_› (checkout_matches env db)
  · exact reads_of_handle env db fun _ => rfl
  · rfl
  · exact reads_of_handle env db fun _ => rfl
  · rfl
  · exact refines_none (not_post_of_get ‹_›) (reads_of_handle env db fun _ => rfl)
  · exact refines_if ‹_› (addProduct_matches env db)
  · exact refines_if ‹_› (updateStock_matches env db)
  · exact reads_of_handle env db fun _ => rfl
  · rfl
  · exact refines_none (not_post_of_get ‹_›) (reads_of_handle env db fun _ => rfl)
  · exact refines_if ‹_› (expense_matches env db)
  · exact reads_of_handle env db fun _ => rfl
  · rfl
  · exact refines_if ‹_› (drawer_matches env db)
  · exact refines_if ‹_› (close_matches env db)
  · unfold exchangeOf
    split
    any_goals contradiction
    rfl

end Actions

/-- A preflight request sends nothing. -/
theorem exchangeOf_options (action : String) (env : Env) : exchangeOf action "OPTIONS" env = none := by
  unfold exchangeOf
  split <;> rfl

theorem index_refines (php : Platform) (e : Event) (db : Db) :
    Refines (exchange php e) (index php e) (.start db) := by
  by_cases preflight : e.request.method = "OPTIONS"
  · have silent : exchange php e = none := by
      rw [exchange, preflight]
      exact exchangeOf_options _ _
    rw [silent, index, if_pos preflight]
    rfl
  · rw [index, if_neg preflight]
    exact route_refines _ _ _ _

/-- A script alone is its request. -/
theorem alone_of_sends {php : Platform} {e : Event} {script : Exchange}
    (sends : exchange php e = some script) (db : Db) :
    script.alone db = ((serve php e db).response, (serve php e db).db) := by
  have refines := index_refines php e db
  rw [sends] at refines
  exact refines

/-- The statements of a request, sent with nothing in between, give the response and leave
the database of the request served as one step; a request without any leaves the
database as it is. -/
theorem exchange_refines (php : Platform) (e : Event) (db : Db) :
    match exchange php e with
    | some script => script.alone db = ((serve php e db).response, (serve php e db).db)
    | none => (serve php e db).db = db := by
  have refines := index_refines php e db
  cases sends : exchange php e with
  | some script => exact alone_of_sends sends db
  | none =>
    rw [sends] at refines
    exact refines

end Saloon.Guarantees
