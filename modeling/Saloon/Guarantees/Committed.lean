import Saloon.Guarantees.Bookings
import Saloon.Guarantees.Books
import Saloon.Guarantees.ClosedDay
import Saloon.Guarantees.Commissions
import Saloon.Guarantees.Correspondence
import Saloon.Guarantees.Interleavings
import Saloon.Guarantees.Ledger
import Saloon.Guarantees.Privileges
import Saloon.Lib.References

/-!
# What every interleaving keeps

What is committed is the outcome of whole transactions, each a request of the
sequential API or one part of a booking or of a completion. Each of them keeps
the books, the drawers, the roster and every reference between two tables, so
every interleaving of any requests does.
-/
namespace Saloon.Guarantees

open Lib Source

/-- Every foreign key of `db` is the id of a row of its parent table in `parents`. -/
structure Resolves (db parents : Db) : Prop where
  staffUsers : Refers Staff.userId db.staff parents.users
  appointmentClients : Refers Appointment.clientId db.appointments parents.clients
  appointmentStaff : Refers Appointment.staffId db.appointments parents.staff
  appointmentServices : Refers Appointment.serviceId db.appointments parents.services
  invoiceClients : Refers Invoice.clientId db.invoices parents.clients
  invoiceUsers : Refers (fun i : Invoice => some i.loggedBy) db.invoices parents.users
  invoiceAppointments : Refers Invoice.appointmentId db.invoices parents.appointments
  itemInvoices : Refers (fun x : InvoiceItem => some x.invoiceId) db.invoiceItems parents.invoices
  itemStylists : Refers InvoiceItem.stylistId db.invoiceItems parents.staff
  expenseUsers : Refers (fun x : Expense => some x.loggedBy) db.expenses parents.users
  drawerUsers : Refers CashReconciliation.closedBy db.cashReconciliation parents.users

/-- Every foreign key resolves. -/
def ForeignKeysHold (db : Db) : Prop := Resolves db db

section ForeignKeys

variable {php : Platform} {e : Event} {user : Option Val} {db parents mid after : Db}

theorem Resolves.kept (resolves : Resolves db parents) (rows : KeepsRows parents after) :
    Resolves db after where
  staffUsers := resolves.staffUsers.kept rows.users
  appointmentClients := resolves.appointmentClients.kept rows.clients
  appointmentStaff := resolves.appointmentStaff.kept rows.staff
  appointmentServices := resolves.appointmentServices.kept rows.services
  invoiceClients := resolves.invoiceClients.kept rows.clients
  invoiceUsers := resolves.invoiceUsers.kept rows.users
  invoiceAppointments := resolves.invoiceAppointments.kept rows.appointments
  itemInvoices := resolves.itemInvoices.kept rows.invoices.keeps
  itemStylists := resolves.itemStylists.kept rows.staff
  expenseUsers := resolves.expenseUsers.kept rows.users
  drawerUsers := resolves.drawerUsers.kept rows.users

/-- A stored foreign key was looked up in its parent. -/
theorem resolves_of_foreignKey {α : Type} {t u : Table α} {k : SqlVal} {stored : Option Nat}
    (found : foreignKey t k = some stored) (kept : t.Keeps u) (i : Nat) (named : stored = some i) :
    ∃ r ∈ u.rows, r.id = i := by
  subst named
  obtain ⟨-, r, member, rfl⟩ := foreignKey_eq_some.mp found
  exact kept.exists_id member

theorem drawers_posted {key : SqlVal} {f : CashReconciliation → CashReconciliation}
    {fresh : CashReconciliation} {t u : Table CashReconciliation} {users : Table User}
    (posted : PostedOn key f fresh t u) (same : ∀ r, (f r).closedBy = r.closedBy)
    (none : fresh.closedBy = none) (refers : Refers CashReconciliation.closedBy t users) :
    Refers CashReconciliation.closedBy u users := by
  rcases posted with ⟨r, -, -, rfl⟩ | ⟨-, rfl⟩
  · exact refers.same same
  · refine refers.insert fun i named => ?_
    rw [none] at named
    cases named

theorem saleUpdate_closedBy (m : Val) (amount : Rat) (r : CashReconciliation) :
    (saleUpdate m amount r).closedBy = r.closedBy := by
  unfold saleUpdate
  split <;> rfl

theorem keepsRows_sale {clock : Clock} {clientId loggedById paymentMethod items appointmentId : Val}
    {sale : Sale} {drawers : Table CashReconciliation}
    (charged : Invoice.Charged clock db clientId loggedById paymentMethod items appointmentId sale
      drawers) : KeepsRows db (sale.post clock drawers db) :=
  { KeepsRows.refl db with
    clients := keeps_credit _ _ _ _
    products := keeps_takeLines _ _
    invoices := Table.extends_insert _ _
    invoiceItems := Table.extends_foldl_insert _ _
    cashReconciliation := (posted_keeps charged.drawer (saleUpdate_status _ _)).1 }

theorem foreignKeys_sale {clock : Clock} {clientId loggedById paymentMethod items appointmentId : Val}
    {sale : Sale} {drawers : Table CashReconciliation}
    (charged : Invoice.Charged clock db clientId loggedById paymentMethod items appointmentId sale
      drawers) (resolves : ForeignKeysHold db) : ForeignKeysHold (sale.post clock drawers db) := by
  have rows : KeepsRows db (sale.post clock drawers db) := keepsRows_sale charged
  have base : Resolves db (sale.post clock drawers db) := Resolves.kept resolves rows
  have sound := sound_of_charged charged
  refine
    { base with
      invoiceClients := base.invoiceClients.insert
        (resolves_of_foreignKey charged.client rows.clients)
      invoiceUsers := base.invoiceUsers.insert (resolves_of_foreignKey charged.user rows.users)
      invoiceAppointments := base.invoiceAppointments.insert
        (resolves_of_foreignKey charged.appointment rows.appointments)
      itemInvoices := base.itemInvoices.foldl_insert fun line member i named => ?_
      itemStylists := base.itemStylists.foldl_insert fun line member i named => ?_
      drawerUsers := drawers_posted charged.drawer (saleUpdate_closedBy _ _) rfl base.drawerUsers }
  · obtain rfl : line.invoiceId = i := Option.some.inj named
    exact ⟨_, Table.mem_insert_self _ _, (sound.invoice line member).symm⟩
  · obtain ⟨r, rMember, rfl⟩ := sound.stylist line member i named
    exact rows.staff.exists_id rMember

theorem foreignKeys_booked {php : Platform} {clock : Clock}
    {clientId staffId serviceId date startTime clientType : Val} {a : Appointment}
    (booked : Appointment.Booked php clock db clientId staffId serviceId date startTime clientType a)
    (resolves : ForeignKeysHold db) : ForeignKeysHold (db.setAppointments (db.appointments.insert a)) := by
  have rows : KeepsRows db (db.setAppointments (db.appointments.insert a)) :=
    { KeepsRows.refl db with appointments := Table.keeps_insert _ _ }
  have base : Resolves db (db.setAppointments (db.appointments.insert a)) :=
    Resolves.kept resolves rows
  exact
    { base with
      appointmentClients := base.appointmentClients.insert
        (resolves_of_foreignKey booked.client rows.clients)
      appointmentStaff := base.appointmentStaff.insert
        (resolves_of_foreignKey booked.staff rows.staff)
      appointmentServices := base.appointmentServices.insert
        (resolves_of_foreignKey booked.service rows.services) }

theorem foreignKeys_client (c : Client) (resolves : ForeignKeysHold db) :
    ForeignKeysHold (db.setClients (db.clients.insert c)) := by
  have rows : KeepsRows db (db.setClients (db.clients.insert c)) :=
    { KeepsRows.refl db with clients := Table.keeps_insert _ _ }
  exact { Resolves.kept resolves rows with }

theorem foreignKeys_clientOf {clientId : Nat} (client : clientOf e db = (.ok clientId, after))
    (resolves : ForeignKeysHold db) : ForeignKeysHold after := by
  rcases client_frame client with rfl | ⟨c, rfl⟩
  · exact resolves
  · exact foreignKeys_client c resolves

theorem foreignKeys_marked (id status : Val) (staffId : Nat) (resolves : ForeignKeysHold db) :
    ForeignKeysHold (Appointment.mark id status staffId db) := by
  have rows : KeepsRows db (Appointment.mark id status staffId db) :=
    { KeepsRows.refl db with
      staff := Table.keeps_modify _ _ _
      appointments := Table.keeps_modify _ _ _ }
  have base := Resolves.kept resolves rows
  exact
    { base with
      staffUsers := base.staffUsers.same fun _ => rfl
      appointmentClients := base.appointmentClients.same fun _ => rfl
      appointmentStaff := base.appointmentStaff.same fun _ => rfl
      appointmentServices := base.appointmentServices.same fun _ => rfl }

/-- A new staff row is of a user that exists. -/
theorem refers_hired {staff : Table Staff} {users : Table User} {userId : Nat}
    (name specializations : Val) (known : ∃ u ∈ users.rows, u.id = userId)
    (refers : Refers Staff.userId staff users) :
    Refers Staff.userId (staff.insert (.ofStylist userId name specializations)) users := by
  refine refers.insert fun i named => ?_
  obtain rfl : userId = i := Option.some.inj named
  exact known

theorem foreignKeys_staff {staff : Table Staff} (kept : db.staff.Keeps staff)
    (refers : Refers Staff.userId staff db.users) (resolves : ForeignKeysHold db) :
    ForeignKeysHold (db.setStaff staff) := by
  have rows : KeepsRows db (db.setStaff staff) := { KeepsRows.refl db with staff := kept }
  exact { Resolves.kept resolves rows with staffUsers := refers }

theorem foreignKeys_edited {userId : Int} {name username password commissionType specializations : Val}
    {commissionRate : Rat} {salt : Nat}
    (done : User.updateStatements php salt userId name username password commissionRate
      commissionType specializations db = (.ok (), after)) (resolves : ForeignKeysHold db) :
    ForeignKeysHold after := by
  obtain ⟨passwordHash, mid, updated, staffed⟩ := User.updateStatements_eq_ok done
  obtain ⟨-, rfl⟩ := User.update_eq_ok updated
  have kept : KeepsRows db (db.setUsers (db.users.modify (byId (.num userId))
      (User.edit name username passwordHash commissionRate commissionType))) :=
    { KeepsRows.refl db with users := Table.keeps_modify _ _ _ }
  generalize db.users.modify (byId (.num userId))
    (User.edit name username passwordHash commissionRate commissionType) = edited at staffed kept
  have users : ForeignKeysHold (db.setUsers edited) := { Resolves.kept resolves kept with }
  obtain ⟨final, outcome, effect⟩ := User.updateStaffRow_run userId name specializations
    (db.setUsers edited)
  obtain rfl : after = final := congrArg Prod.snd (staffed.symm.trans outcome)
  rcases effect with ⟨-, rfl⟩ | ⟨u, member, -, -, ⟨-, rfl⟩ | ⟨-, rfl⟩⟩
  · exact users
  · exact foreignKeys_staff (Table.keeps_modify _ _ _) (users.staffUsers.same fun _ => rfl) users
  · exact foreignKeys_staff (Table.keeps_insert _ _)
      (refers_hired _ _ ⟨u, member, rfl⟩ users.staffUsers) users

theorem Served.foreignKeys (served : Served php e user db after) (resolves : ForeignKeysHold db) :
    ForeignKeysHold after := by
  have rows := served.writes.rows
  have base : Resolves db after := Resolves.kept resolves rows
  cases served with
  | nothing => exact resolves
  | register allowed known done asked =>
    obtain ⟨row, -, -, -, -, -, rfl⟩ := User.registerStatements_eq_ok done
    split at base <;> rename_i role <;> simp only [role]
    · exact
        { base with
          staffUsers := refers_hired _ _ ⟨_, Table.mem_insert_self _ _, rfl⟩ base.staffUsers }
    · exact { base with }
  | updateStaff allowed done asked => exact foreignKeys_edited done resolves
  | availability passed allowed known asked checked =>
    exact { base with staffUsers := base.staffUsers.same fun _ => rfl }
  | addClient allowed asked => exact { base with }
  | clientOnly asked client => exact foreignKeys_clientOf client resolves
  | book asked named client done =>
    obtain ⟨a, booked, rfl⟩ := Appointment.createStatements_eq_ok done
    exact foreignKeys_booked booked (foreignKeys_clientOf client resolves)
  | mark asked checked passed allowed known found unbilled =>
    exact foreignKeys_marked _ _ _ resolves
  | complete asked checked passed allowed completed found pending billed =>
    obtain ⟨sale, drawers, -, charged, rfl⟩ := Invoice.checkoutStatements_eq_ok billed
    exact foreignKeys_sale charged (foreignKeys_marked _ _ _ resolves)
  | addService allowed duration nonneg => exact { base with }
  | updateService allowed duration nonneg => exact { base with }
  | addProduct allowed asked => exact { base with }
  | updateStock allowed asked checked named => exact { base with }
  | checkout asked checked passed allowed method items done =>
    obtain ⟨sale, drawers, -, charged, rfl⟩ := Invoice.checkoutStatements_eq_ok done
    exact foreignKeys_sale charged resolves
  | expense asked passed allowed positive done =>
    obtain ⟨loggedBy, drawers, found, posted, rfl⟩ := Expense.createStatements_eq_ok done
    exact
      { base with
        expenseUsers := base.expenseUsers.insert
          (resolves_of_foreignKey found rows.users)
        drawerUsers := drawers_posted posted (fun _ => rfl) rfl base.drawerUsers }
  | viewDrawer allowed =>
    obtain ⟨r, viewed⟩ := Reconciliation.getTodayStatus_run e.clock db
    rw [viewed] at base ⊢
    dsimp only at base ⊢
    split at base <;> rename_i present <;> simp only [present]
    · exact resolves
    · exact { base with drawerUsers := base.drawerUsers.insert fun _ named => by cases named }
  | closeDrawer passed allowed =>
    rcases Reconciliation.closeDrawer_run e.clock _ _ _ db with same | ⟨closedBy, found, closed⟩
    · exact same.symm ▸ resolves
    · rw [closeOf, closed] at base ⊢
      refine { base with drawerUsers := base.drawerUsers.modify fun r i named => .inr ?_ }
      exact resolves_of_foreignKey found (.refl _) i named

end ForeignKeys

/-- What one transaction of a request can commit: the request as a whole, one part of a
booking or of a status update, or nothing at all. -/
inductive Transacted (php : Platform) (e : Event) (db : Db) : Db → Prop
  | looked : Transacted php e db db
  | served : Transacted php e db (request php e db)
  | enrolled (asked : AsksBooking e) :
      Transacted php e db
        (Client.create e.clock (argOr e "client_name" (.str "")) (argOr e "client_email" (.str ""))
          (argOr e "client_phone" (.str "")) db).2
  | booked {clientId appointmentId : Nat} {after : Db} (asked : AsksBooking e)
      (done : bookingOf php e clientId db = (.ok appointmentId, after)) :
      Transacted php e db after
  | marked {payload : Val} {staffId : Nat} (asked : Asks e "appointments_update" ["POST", "PUT"])
      (checked : Passes php e [.admin, .receptionist, .stylist] payload)
      (known : isStatus (statusOf e) = true)
      (found : Appointment.assigned (arg e "id").key db = some staffId) :
      Transacted php e db (Appointment.mark (arg e "id") (statusOf e) staffId db)
  | billed {payload : Val} {apt : Invoice.Billable} {invoiceId : Nat} {after : Db}
      (asked : Asks e "appointments_update" ["POST", "PUT"])
      (checked : Passes php e [.admin, .receptionist, .stylist] payload)
      (done : billOf e payload apt db = (.ok invoiceId, after)) : Transacted php e db after

section Transactions

/-! Each transaction of a script is one of these. -/

variable {α : Type} {php : Platform} {e : Event} {script : Exchange}

/-- What a transaction commits is one of the ways of `Transacted`. -/
def Known (php : Platform) (e : Event) (transaction : Script Db Response true) : Prop :=
  ∀ db after next, transaction.finish db = some (after, next) → Transacted php e db after

theorem known_seal {body : SqlBody α} {next : Except Thrown α → Exchange}
    (returned : ∀ a db after, body.run db = (.ok a, after) → Transacted php e db after) :
    Known php e (body.seal databaseLocked next) := by
  intro db after rest finished
  rw [Script.finish_seal] at finished
  rcases outcome : body.run db with ⟨why | a, reached⟩ <;> rw [outcome] at finished <;>
    cases finished
  exact returned a db _ outcome

theorem within_inTransaction {body : SqlBody α} {next : Except Thrown α → Exchange}
    (returned : ∀ a db after, body.run db = (.ok a, after) → Transacted php e db after)
    (rest : ∀ outcome, (next outcome).Within (Known php e)) :
    (inTransaction body next).Within (Known php e) :=
  ⟨known_seal returned, Script.within_seal rest body⟩

/-- A query in autocommit. -/
theorem within_read {f : Db → α} {next : Except Thrown α → Exchange}
    (rest : ∀ outcome, (next outcome).Within (Known php e)) :
    (inTransaction (.read f) next).Within (Known php e) :=
  within_inTransaction (fun _ _ _ same => by cases same; exact .looked) rest

theorem within_ite {c : Prop} [Decidable c] {script other : Exchange}
    (yes : c → script.Within (Known php e)) (no : ¬ c → other.Within (Known php e)) :
    (if c then script else other).Within (Known php e) := by
  split
  · exact yes ‹_›
  · exact no ‹_›

theorem within_guarded {roles : List Role} {action : Val → Exchange}
    (passed : ∀ payload, Passes php e roles payload → (action payload).Within (Known php e)) :
    (guarded (e.env php) roles action).Within (Known php e) := by
  unfold guarded
  split
  · trivial
  · exact passed _ ‹_›

/-- The one transaction of a request commits what the request does as a whole. -/
theorem within_simple {writesFirst : Prop} (simple : Simple writesFirst script)
    (sends : exchange php e = some script) : script.Within (Known php e) := by
  cases simple with
  | responds response => trivial
  | @attempts α body next answers locked writes =>
    refine within_inTransaction (fun a db after returned => ?_) fun outcome => ?_
    · have alone := alone_of_sends sends db
      obtain ⟨response, same⟩ := answers (.ok a)
      rw [alone_inTransaction, returned] at alone
      dsimp only at alone
      rw [same] at alone
      rw [show after = request php e db from congrArg Prod.snd alone]
      exact .served
    · obtain ⟨response, same⟩ := answers outcome
      rw [same]
      trivial

theorem within_booking (asked : AsksBooking e) :
    (AppointmentController.createAppointmentExchange (e.env php)).Within (Known php e) := by
  have books : ∀ clientId : Nat,
      (attemptBody (Appointment.createBody php e.clock (.int clientId) (arg e "staff_id")
        (arg e "service_id") (argOr e "date" (.str "")) (argOr e "time" (.str ""))
        (argOr e "client_type" (.str "pre-booked"))) AppointmentController.booked).Within
          (Known php e) := fun clientId => by
    refine within_inTransaction (fun appointmentId db after done => ?_) fun _ => trivial
    rw [Appointment.run_createBody] at done
    exact .booked asked done
  refine within_ite (fun _ => trivial) fun _ => within_read fun found => ?_
  rcases found with why | none | r
  · trivial
  · refine within_inTransaction (fun clientId db after created => ?_) fun outcome => ?_
    · rw [Body.run_execute] at created
      rw [show after = _ from (congrArg Prod.snd created).symm]
      exact .enrolled asked
    · rcases outcome with why | clientId
      · trivial
      · exact books clientId
  · exact books r.id

theorem within_bill {payload : Val} (asked : Asks e "appointments_update" ["POST", "PUT"])
    (checked : Passes php e [.admin, .receptionist, .stylist] payload) :
    (AppointmentController.billExchange e.clock (arg e "id")
      (Appointment.billedBy (payload.field "id"))).Within (Known php e) := by
  refine within_read fun invoiced => ?_
  rcases invoiced with why | invoiced | invoiced
  · trivial
  · refine within_inTransaction (fun invoiceId db after done => ?_) fun outcome => ?_
    · rw [Invoice.run_billBody] at done
      split at done
      · cases done
        exact .looked
      · split at done
        · cases done
          exact .billed asked checked ‹_›
        · cases done
    · cases outcome <;> trivial
  · trivial

theorem within_statusUpdate (asked : Asks e "appointments_update" ["POST", "PUT"]) :
    (AppointmentController.updateStatusExchange (e.env php)).Within (Known php e) := by
  refine within_guarded fun payload checked => within_ite (fun _ => trivial) fun _ =>
    within_ite (fun _ => trivial) fun known => ?_
  refine within_inTransaction (fun done db after marked => ?_) fun outcome => ?_
  · rw [Appointment.run_statusBody, Appointment.statusStatements_run] at marked
    split at marked
    · cases marked
    · cases marked
      exact .marked asked checked (eq_true_of_unrefused known) ‹_›
  · rcases outcome with why | ⟨⟩
    · trivial
    · exact within_ite (fun _ => within_bill asked checked) fun _ => trivial

/-- The INSERT of the drawer's view is all that the view commits. -/
theorem alone_viewToday {env : Env} {db after : Db}
    (inserted : insertDrawer (openingDrawer (dateKey env.clock.today) 0 0 0 200) db =
      (.ok (), after)) :
    ((ReconciliationController.viewToday env).alone db).2 = after := by
  have absent : ReconciliationController.today env db = none := by
    refine Table.find?_eq_none.mpr fun r member => ?_
    rw [insertDrawer_run, openingDrawer_date] at inserted
    split at inserted
    · cases inserted
    · rename_i none
      simpa using fun on => none ⟨r, member, on⟩
  rw [ReconciliationController.viewToday, alone_read, absent]
  dsimp only
  rw [alone_inTransaction, Body.run_execute, inserted]
  dsimp only
  rw [alone_read]
  dsimp only
  cases ReconciliationController.today env after <;> rfl

theorem within_viewDrawer
    (sends : exchange php e = some (ReconciliationController.getTodayStatusExchange (e.env php))) :
    (ReconciliationController.getTodayStatusExchange (e.env php)).Within (Known php e) := by
  refine within_guarded fun payload checked => ?_
  have shown : ∀ r, (ReconciliationController.shown r).Within (Known php e) := by
    intro r
    cases r <;> trivial
  have passed : ReconciliationController.getTodayStatusExchange (e.env php) =
      ReconciliationController.viewToday (e.env php) := by
    have checked : AuthMiddleware.check (e.env php).php (e.env php).clock (e.env php).headers
        [.admin, .receptionist] = .ok payload := checked
    rw [ReconciliationController.getTodayStatusExchange, guarded, checked]
  refine within_read fun found => ?_
  rcases found with why | none | r
  · trivial
  · refine within_inTransaction (fun done db after inserted => ?_) fun outcome => ?_
    · rw [Body.run_execute] at inserted
      have alone := alone_of_sends sends db
      rw [show after = request php e db by
        rw [← alone_viewToday inserted, ← passed]
        exact congrArg Prod.snd alone]
      exact .served
    · rcases outcome with why | ⟨⟩
      · trivial
      · refine within_read fun again => ?_
        rcases again with why | r
        · trivial
        · exact shown r
  · exact shown _

/-- Every transaction of a request is known. -/
theorem within_exchange (sends : exchange php e = some script) : script.Within (Known php e) := by
  cases sent_of_exchange sends with
  | register asked => exact within_simple (register_simple _) sends
  | booking asked => exact within_booking asked
  | statusUpdate asked => exact within_statusUpdate asked
  | viewDrawer asked => exact within_viewDrawer sends
  | updateStaff => exact within_simple (updateStaff_simple _) sends
  | availability => exact within_simple (availability_simple _) sends
  | addClient => exact within_simple (addClient_simple _) sends
  | addService => exact within_simple (addService_simple _) sends
  | updateService => exact within_simple (updateService_simple _) sends
  | checkout => exact within_simple (checkout_simple _) sends
  | addProduct => exact within_simple (addProduct_simple _) sends
  | updateStock => exact within_simple (updateStock_simple _) sends
  | expense => exact within_simple (expense_simple _) sends
  | closeDrawer => exact within_simple (close_simple _) sends

end Transactions

/-- The saloon's data agree with each other: drawers with sales and expenses, invoices with
their lines, clients with their invoices, users with the staff, and every foreign key
with its parent. -/
structure Consistent (initial : Table Client) (db : Db) : Prop where
  ledger : LedgerHolds db
  books : BooksHold initial db
  credits : CreditsHold db
  roster : RosterHolds db
  foreignKeys : ForeignKeysHold db

section Keeping

variable {ι : Type} {php : Platform} {e : Event} {initial : Table Client} {db after : Db}

theorem refers_of_exists {α β : Type} {column : α → Option Nat} {t : Table α} {u : Table β}
    (found : ∀ r ∈ t.rows, ∃ p ∈ u.rows, column r.cols = some p.id) : Refers column t u := by
  intro r member i named
  obtain ⟨p, pMember, same⟩ := found r member
  exact ⟨p, pMember, Option.some.inj (same.symm.trans named)⟩

theorem foreignKeys_seed (hash : String → String) (clock : Clock) :
    ForeignKeysHold (seed hash clock) where
  staffUsers r member i named := by
    rcases List.mem_cons.mp member with rfl | rest
    · cases named
      exact ⟨_, .tail _ (.tail _ (.head _)), rfl⟩
    · cases List.mem_singleton.mp rest
      cases named
      exact ⟨_, .tail _ (.tail _ (.tail _ (.head _))), rfl⟩
  appointmentClients := refers_of_exists fun r member => (references_seed hash clock r member).client
  appointmentStaff := refers_of_exists fun r member => (references_seed hash clock r member).staff
  appointmentServices :=
    refers_of_exists fun r member => (references_seed hash clock r member).service
  invoiceClients := refers_empty _ _
  invoiceUsers := refers_empty _ _
  invoiceAppointments := refers_empty _ _
  itemInvoices := refers_empty _ _
  itemStylists := refers_empty _ _
  expenseUsers := refers_empty _ _
  drawerUsers r member i named := by
    cases List.mem_singleton.mp member
    cases named

theorem consistent_afterRun (php : Platform) (hash : String → String) (clock : Clock)
    (events : List Event) :
    Consistent (seedClients clock.now) (afterRun php hash clock events) where
  ledger := ledger_holds php hash clock events
  books := books_hold php hash clock events
  credits := credits_hold php hash clock events
  roster := roster_holds php hash clock events
  foreignKeys := afterRun_keeps foreignKeys_seed (fun _ _ _ _ served => served.foreignKeys) hash
    clock events

theorem Served.consistent {user : Option Val} (served : Served php e user db after)
    (holds : Consistent initial db) : Consistent initial after where
  ledger := served.ledger_cases.keeps holds.ledger
  books := served.books_cases.keeps holds.books
  credits := served.credits holds.credits
  roster := served.roster_cases.keeps holds.roster
  foreignKeys := served.foreignKeys holds.foreignKeys

/-- A bill that was due to nothing but its own checks. -/
theorem Consistent.sale {clock : Clock}
    {clientId loggedById paymentMethod items appointmentId : Val} {sale : Sale}
    {drawers : Table CashReconciliation}
    (charged : Invoice.Charged clock db clientId loggedById paymentMethod items appointmentId sale
      drawers) (holds : Consistent initial db) : Consistent initial (sale.post clock drawers db) := by
  have sound := sound_of_charged charged
  refine ⟨?_, holds.books.sale sound.client sound.total sound.invoice, fun x member => ?_,
    holds.roster, foreignKeys_sale charged holds.foreignKeys⟩
  · refine DrawerLedger.sale ?_ holds.ledger
    rw [charged.method]
    exact charged.drawer
  · rcases Table.mem_foldl_insert member with old | new
    · exact holds.credits x old
    · exact ⟨sound.stylist _ new, sound.uncredited _ new⟩

/-- No transaction loses a row. -/
theorem Transacted.rows (transacted : Transacted php e db after) : KeepsRows db after := by
  cases transacted with
  | looked => exact .refl db
  | served => exact (serve_served php e db).writes.rows
  | enrolled asked => exact { KeepsRows.refl db with clients := Table.keeps_insert _ _ }
  | booked asked done =>
    obtain ⟨a, booked, rfl⟩ := Appointment.createStatements_eq_ok done
    exact { KeepsRows.refl db with appointments := Table.keeps_insert _ _ }
  | marked asked checked known found => exact (writes_mark (Option.some_ne_none Val.null)).rows
  | billed asked checked done =>
    obtain ⟨sale, drawers, -, charged, rfl⟩ := Invoice.checkoutStatements_eq_ok done
    exact keepsRows_sale charged

/-- Every transaction keeps the data consistent. -/
theorem Transacted.consistent (transacted : Transacted php e db after)
    (holds : Consistent initial db) : Consistent initial after := by
  cases transacted with
  | looked => exact holds
  | served => exact (serve_served php e db).consistent holds
  | enrolled asked =>
    exact ⟨holds.ledger, holds.books.client rfl, holds.credits, holds.roster,
      foreignKeys_client _ holds.foreignKeys⟩
  | booked asked done =>
    obtain ⟨a, booked, rfl⟩ := Appointment.createStatements_eq_ok done
    exact ⟨holds.ledger, holds.books, holds.credits, holds.roster,
      foreignKeys_booked booked holds.foreignKeys⟩
  | marked asked checked known found =>
    refine ⟨holds.ledger, holds.books, fun x member => ?_, holds.roster.statuses,
      foreignKeys_marked _ _ _ holds.foreignKeys⟩
    obtain ⟨stylist, free⟩ := holds.credits x member
    refine ⟨fun s named => ?_, free⟩
    obtain ⟨r, rMember, rfl⟩ := stylist s named
    exact (Table.keeps_modify _ _ _).exists_id rMember
  | billed asked checked done =>
    obtain ⟨sale, drawers, -, charged, rfl⟩ := Invoice.checkoutStatements_eq_ok done
    exact holds.sale charged

/-- The invoice of a sale is not of a closed day. -/
theorem Frozen.sale {clock : Clock} {base : Db} {r : Row CashReconciliation}
    {clientId loggedById paymentMethod items appointmentId : Val} {sale : Sale}
    {drawers : Table CashReconciliation}
    (charged : Invoice.Charged clock db clientId loggedById paymentMethod items appointmentId sale
      drawers) (closed : r.cols.status = "closed") (frozen : Frozen base r db) :
    Frozen base r (sale.post clock drawers db) where
  ledger := by
    refine DrawerLedger.sale ?_ frozen.ledger
    rw [charged.method]
    exact charged.drawer
  row := mem_of_posted frozen.row closed charged.drawer
  invoices i member day := by
    rcases Table.mem_insert.mp member with old | rfl
    · exact frozen.invoices i old day
    · exact absurd charged.drawer (not_posted frozen.ledger.unique frozen.row day.symm closed)
  expenses := frozen.expenses

theorem Transacted.frozen {base : Db} {r : Row CashReconciliation} (closed : r.cols.status = "closed")
    (transacted : Transacted php e db after) (frozen : Frozen base r db) : Frozen base r after := by
  cases transacted with
  | looked => exact frozen
  | served => exact (serve_served php e db).ledger_cases.frozen closed frozen
  | enrolled asked => exact ⟨frozen.ledger, frozen.row, frozen.invoices, frozen.expenses⟩
  | booked asked done =>
    obtain ⟨a, booked, rfl⟩ := Appointment.createStatements_eq_ok done
    exact ⟨frozen.ledger, frozen.row, frozen.invoices, frozen.expenses⟩
  | marked asked checked known found =>
    exact ⟨frozen.ledger, frozen.row, frozen.invoices, frozen.expenses⟩
  | billed asked checked done =>
    obtain ⟨sale, drawers, -, charged, rfl⟩ := Invoice.checkoutStatements_eq_ok done
    exact frozen.sale charged closed

variable [DecidableEq ι]

/-- Whatever the interleaving of any requests, what is committed is the outcome of the
logged transactions one after the other. -/
theorem concurrently_serial (requests : ι → Writer php) (db : Db) (schedule : List (ι × Bool)) :
    Lib.Serial (fun i => Transacted php (requests i).event) db
      (concurrently requests db schedule).shared.log
      (concurrently requests db schedule).shared.committed := by
  have ordered := interleave_ordered (U := fun i => Known php (requests i).event)
    (fun i => within_exchange (requests i).sends) db schedule
  refine ordered.serial.imp fun i s t outcome => ?_
  obtain ⟨transaction, next, known, finished⟩ := outcome
  exact known s t next finished

/-- Under every interleaving of any requests, from any state that the API can reach, what is
committed is consistent; no row is lost, and invoices, their lines and expenses stay as they
were; and to the days that are closed nothing is added. -/
theorem interleavings_consistent (php : Platform) (hash : String → String) (clock : Clock)
    (events : List Event) (requests : ι → Writer php) (schedule : List (ι × Bool)) :
    let before := afterRun php hash clock events
    let after := (concurrently requests before schedule).shared.committed
    Consistent (seedClients clock.now) after ∧ KeepsRows before after ∧
      ∀ r ∈ before.cashReconciliation.rows, r.cols.status = "closed" → Frozen before r after := by
  intro before after
  have serial := concurrently_serial requests before schedule
  have start : Consistent (seedClients clock.now) before :=
    consistent_afterRun php hash clock events
  refine ⟨serial.keeps (fun i s t transacted => transacted.consistent) start, ?_, ?_⟩
  · exact serial.keeps (P := KeepsRows before)
      (fun i s t transacted kept => kept.trans transacted.rows) (.refl before)
  intro r member closed
  have frozen : Frozen before r before :=
    ⟨start.ledger, member, fun _ member _ => member, fun _ member _ => member⟩
  exact serial.keeps (fun i s t transacted => transacted.frozen closed) frozen

end Keeping

end Saloon.Guarantees
