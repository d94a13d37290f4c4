import Saloon.Guarantees.Committed
import Saloon.Guarantees.Correspondence
import Saloon.Guarantees.Views

/-!
# What the lists show

The list endpoints join a table with the tables its foreign keys name. In every
database that a run reaches, a list shows each row it is about once, with the
columns of its own partners, in the order of its ORDER BY: no row is lost in a
join, and none is doubled.
-/
namespace Saloon.Guarantees

open Lib Source

variable {α β : Type}

/-- The response lists each row that `keep` selects once, as `entry` shows it, in an order
by `cmp`. -/
def ListsRows (t : Table α) (keep : Row α → Bool) (cmp : Row α → Row α → Ordering)
    (entry : Row α → Val) (r : Response) : Prop :=
  ∃ order : List (Row α), order.Perm (t.rows.filter keep) ∧
    order.Pairwise (fun a b => (cmp a b).isLE) ∧ r = ⟨200, some (.list (order.map entry))⟩

/-- The row a foreign key names. -/
def partner (t : Table β) (i : Option Nat) : Option (Row β) := t.rows.find? fun r => i = some r.id

/-- A text column of that row. -/
def partnerText (t : Table β) (column : β → String) (i : Option Nat) : Val :=
  .ofText ((partner t i).map fun r => column r.cols)

section Entries

/-- An appointment with the client, the service and the staff member that it names. -/
def shownAppointment (db : Db) (a : Row Appointment) : Val :=
  .arr (Appointment.columns a ++
    [("client_name", partnerText db.clients Client.name a.cols.clientId),
      ("client_phone", partnerText db.clients Client.phone a.cols.clientId),
      ("service_name", partnerText db.services Service.name a.cols.serviceId),
      ("staff_name", partnerText db.staff Staff.name a.cols.staffId)])

def shownToday (db : Db) (a : Row Appointment) : Val :=
  .arr (Appointment.columns a ++
    [("client_name", partnerText db.clients Client.name a.cols.clientId),
      ("client_phone", partnerText db.clients Client.phone a.cols.clientId),
      ("service_name", partnerText db.services Service.name a.cols.serviceId),
      ("duration_mins", match partner db.services a.cols.serviceId with
        | some s => .int s.cols.durationMins
        | none => .null),
      ("staff_name", partnerText db.staff Staff.name a.cols.staffId)])

def shownExpense (db : Db) (e : Row Expense) : Val :=
  .arr [("id", .int e.id), ("category", .str e.cols.category), ("amount", .float e.cols.amount),
    ("description", .str e.cols.description), ("expense_date", e.cols.expenseDate.fetch),
    ("logged_by", .int e.cols.loggedBy), ("created_at", .ofDateTime e.cols.createdAt),
    ("logged_by_name", partnerText db.users User.name (some e.cols.loggedBy))]

def shownDrawer (db : Db) (r : Row CashReconciliation) : Val :=
  .arr (Reconciliation.columns r ++
    [("closed_by_name", partnerText db.users User.name r.cols.closedBy)])

/-- A user, with the staff row that names the user if there is one. -/
def shownUser (db : Db) (u : Row User) : Val :=
  User.staffEntry u (db.staff.rows.find? fun s => s.cols.userId = some u.id)

/-- Later dates first, a date's appointments by their start. -/
def byDate : Row Appointment → Row Appointment → Ordering :=
  compareLex (descending fun a b => SqlVal.cmp a.cols.appointmentDate b.cols.appointmentDate)
    (compareOn fun a => a.cols.startTime)

def byExpenseDate : Row Expense → Row Expense → Ordering :=
  compareLex (descending fun a b => SqlVal.cmp a.cols.expenseDate b.cols.expenseDate)
    (descending (compareOn fun a => a.cols.createdAt.text))

def byDrawerDate : Row CashReconciliation → Row CashReconciliation → Ordering :=
  descending fun a b => SqlVal.cmp a.cols.reconciliationDate b.cols.reconciliationDate

instance : Std.TransCmp SqlVal.cmp where
  eq_swap {a b} := by
    cases a with
    | null => cases b <;> rfl
    | num q =>
      cases b with
      | num r => exact (Std.OrientedCmp.eq_swap : compare q r = (compare r q).swap)
      | _ => rfl
    | text s =>
      cases b with
      | text t => exact (Std.OrientedCmp.eq_swap : compare s t = (compare t s).swap)
      | _ => rfl
  isLE_trans {a b c} left right := by
    match a, b, c with
    | .null, _, .null => rfl
    | .null, _, .num _ => rfl
    | .null, _, .text _ => rfl
    | .num _, .null, _ => exact absurd left Bool.false_ne_true
    | .text _, .null, _ => exact absurd left Bool.false_ne_true
    | .text _, .num _, _ => exact absurd left Bool.false_ne_true
    | .num _, .num _, .null => exact absurd right Bool.false_ne_true
    | .num _, .text _, .null => exact absurd right Bool.false_ne_true
    | .text _, .text _, .null => exact absurd right Bool.false_ne_true
    | .num _, .text _, .num _ => exact absurd right Bool.false_ne_true
    | .text _, .text _, .num _ => exact absurd right Bool.false_ne_true
    | .num q, .num r, .num s =>
      exact Std.TransOrd.isLE_trans (show (compare q r).isLE = true from left) right
    | .num _, .num _, .text _ => rfl
    | .num _, .text _, .text _ => rfl
    | .text s, .text t, .text u =>
      exact Std.TransOrd.isLE_trans (show (compare s t).isLE = true from left) right

instance : Std.TransCmp byDate :=
  have _date : Std.TransCmp fun a b : Row Appointment =>
      SqlVal.cmp a.cols.appointmentDate b.cols.appointmentDate := transCmp_on _ _
  inferInstanceAs (Std.TransCmp (compareLex _ _))

instance : Std.TransCmp byExpenseDate :=
  have _date : Std.TransCmp fun a b : Row Expense =>
      SqlVal.cmp a.cols.expenseDate b.cols.expenseDate := transCmp_on _ _
  inferInstanceAs (Std.TransCmp (compareLex _ _))

instance : Std.TransCmp byDrawerDate :=
  have _date : Std.TransCmp fun a b : Row CashReconciliation =>
      SqlVal.cmp a.cols.reconciliationDate b.cols.reconciliationDate := transCmp_on _ _
  inferInstanceAs (Std.TransCmp (descending _))

end Entries

section Joins

variable {t : Table α}

/-- An ordered list of pairs whose left parts are the selected rows, each once. -/
theorem listsRows_of_pairs {π : Type} {pairs : List π} (row : π → Row α) {keep : Row α → Bool}
    {cmp : Row α → Row α → Ordering} [Std.TransCmp cmp] {entry : Row α → Val} {shown : π → Val}
    (left : pairs.map row = t.rows.filter keep) (same : ∀ p ∈ pairs, shown p = entry (row p)) :
    ListsRows t keep cmp entry
      ⟨200, some (.list ((orderBy (fun p q => cmp (row p) (row q)) pairs).map shown))⟩ := by
  have order : Std.TransCmp fun p q => cmp (row p) (row q) := transCmp_on cmp row
  refine ⟨(orderBy (fun p q => cmp (row p) (row q)) pairs).map row, ?_, ?_, ?_⟩
  · rw [← left]
    exact (perm_orderBy _ pairs).map row
  · exact List.pairwise_map.mpr (pairwise_orderBy _ pairs)
  · rw [List.map_map]
    refine congrArg (fun rows => (⟨200, some (.list rows)⟩ : Response)) ?_
    exact List.map_congr_left fun p member => same p (mem_orderBy.mp member)

/-- The same for the rows of the table alone. -/
theorem listsRows_of_rows (keep : Row α → Bool) (cmp : Row α → Row α → Ordering)
    [Std.TransCmp cmp] (entry : Row α → Val) :
    ListsRows t keep cmp entry ⟨200, some (.list ((orderBy cmp (t.rows.filter keep)).map entry))⟩ :=
  listsRows_of_pairs id (List.map_id _) fun _ _ => rfl

theorem listsRows_all (cmp : Row α → Row α → Ordering) [Std.TransCmp cmp] (entry : Row α → Val) :
    ListsRows t (fun _ => true) cmp entry
      ⟨200, some (.list ((orderBy cmp t.rows).map entry))⟩ := by
  have rows := listsRows_of_rows (t := t) (fun _ => true) cmp entry
  rwa [List.filter_true] at rows

/-- A resolved foreign key has one row. -/
theorem filter_partner {i : Nat} {r : Row α} (member : r ∈ t.rows) (named : r.id = i) :
    t.rows.filter (fun s => some i = some s.id) = [r] := by
  refine Table.filter_of_unique member (by simp [named]) fun s sMember same => ?_
  refine t.eq_of_id_eq sMember member ?_
  have ids : i = s.id := by simpa using same
  rw [named, ids]

theorem partner_eq {i : Nat} {r : Row α} (member : r ∈ t.rows) (named : r.id = i) :
    partner t (some i) = some r := by
  rw [partner, ← List.head?_filter, filter_partner member named]
  rfl

theorem length_filter_le_one {p : Row α → Bool}
    (unique : ∀ r ∈ t.rows, ∀ s ∈ t.rows, p r = true → p s = true → r = s) :
    (t.rows.filter p).length ≤ 1 := by
  cases found : t.rows.filter p with
  | nil => exact Nat.zero_le _
  | cons r rest =>
    have present : r ∈ t.rows.filter p := by rw [found]; exact .head _
    obtain ⟨member, selected⟩ := List.mem_filter.mp present
    rw [← found, Table.filter_of_unique member selected fun s sMember hit =>
      unique s sMember r member hit selected]
    exact le_refl 1

/-- A left join adds no row where a row has one partner at most. -/
theorem map_fst_leftJoin {left : List α} {right : List β} {on : α → β → Bool}
    (single : ∀ a ∈ left, (right.filter (on a)).length ≤ 1) :
    (leftJoin left right on).map Prod.fst = left ∧
      ∀ p ∈ leftJoin left right on, p.2 = right.find? (on p.1) := by
  rw [leftJoin_eq_map single, List.map_map]
  refine ⟨List.map_id _, fun p member => ?_⟩
  obtain ⟨a, -, rfl⟩ := List.mem_map.mp member
  rfl

end Joins

section Lists

variable {db : Db}

/-- Each appointment is listed once, with its partners. -/
theorem listed_rows (refs : ReferencesHold db) :
    (Appointment.listed db).map Appointment.Listed.appointment = db.appointments.rows := by
  rw [Appointment.listed, List.map_flatMap]
  refine (List.flatMap_congr fun a member => ?_).trans (List.flatMap_singleton' _)
  obtain ⟨⟨c, cMember, client⟩, ⟨st, stMember, staff⟩, ⟨s, sMember, service⟩⟩ := refs a member
  rw [client, service, staff, filter_partner cMember rfl, filter_partner sMember rfl,
    filter_partner stMember rfl]
  rfl

theorem partners_of_listed {l : Appointment.Listed} (member : l ∈ Appointment.listed db) :
    partner db.clients l.appointment.cols.clientId = some l.client ∧
      partner db.services l.appointment.cols.serviceId = some l.service ∧
      partner db.staff l.appointment.cols.staffId = some l.staff := by
  obtain ⟨a, -, member⟩ := List.mem_flatMap.mp member
  obtain ⟨c, client, member⟩ := List.mem_flatMap.mp member
  obtain ⟨s, service, member⟩ := List.mem_flatMap.mp member
  obtain ⟨st, staff, rfl⟩ := List.mem_map.mp member
  obtain ⟨cMember, cNamed⟩ := List.mem_filter.mp client
  obtain ⟨sMember, sNamed⟩ := List.mem_filter.mp service
  obtain ⟨stMember, stNamed⟩ := List.mem_filter.mp staff
  dsimp only
  rw [of_decide_eq_true cNamed, of_decide_eq_true sNamed, of_decide_eq_true stNamed]
  exact ⟨partner_eq cMember rfl, partner_eq sMember rfl, partner_eq stMember rfl⟩

/-- A condition on the listed appointments that their rows decide. -/
theorem listed_selection (refs : ReferencesHold db) {p : Appointment.Listed → Bool}
    {keep : Row Appointment → Bool}
    (decided : ∀ l ∈ Appointment.listed db, p l = keep l.appointment) :
    ((Appointment.listed db).filter p).map Appointment.Listed.appointment =
      db.appointments.rows.filter keep := by
  rw [← listed_rows refs, List.filter_map]
  exact congrArg (List.map _) (List.filter_congr decided)

/-- The staff condition of a list, on the appointment itself. -/
def atStaff (staffId : Option SqlVal) (a : Row Appointment) : Bool :=
  match staffId, a.cols.staffId with
  | none, _ => true
  | some k, some i => SqlVal.num i = k
  | some _, none => false

theorem ofStaff_listed {l : Appointment.Listed} (member : l ∈ Appointment.listed db)
    (staffId : Option SqlVal) :
    Appointment.ofStaff staffId l = atStaff staffId l.appointment := by
  obtain ⟨-, -, staff⟩ := partners_of_listed member
  cases staffId with
  | none => rfl
  | some k =>
    cases named : l.appointment.cols.staffId with
    | none =>
      rw [named, partner, List.find?_eq_none.mpr fun r _ => by simp] at staff
      cases staff
    | some i =>
      rw [named] at staff
      have same : some i = some l.staff.id := by
        simpa using List.find?_some (p := fun r : Row Staff => some i = some r.id) staff
      simp only [Appointment.ofStaff, atStaff, named, byId, Option.some.inj same]

theorem appointments_listed (refs : ReferencesHold db) (staffId : Option SqlVal) :
    ListsRows db.appointments (atStaff staffId) byDate (shownAppointment db)
      ⟨200, some (.list (Appointment.getAll staffId db))⟩ := by
  refine listsRows_of_pairs Appointment.Listed.appointment
    (listed_selection refs fun l member => ofStaff_listed member staffId) fun l member => ?_
  obtain ⟨client, service, staff⟩ := partners_of_listed (List.mem_of_mem_filter member)
  rw [shownAppointment, partnerText, partnerText, partnerText, partnerText, client, service, staff]
  rfl

theorem today_listed (refs : ReferencesHold db) (clock : Clock) (staffId : Option SqlVal) :
    ListsRows db.appointments
      (fun a => a.cols.appointmentDate = dateKey clock.today && atStaff staffId a)
      (compareOn fun a => a.cols.startTime) (shownToday db)
      ⟨200, some (.list (Appointment.getTodayAppointments clock staffId db))⟩ := by
  refine listsRows_of_pairs Appointment.Listed.appointment
    (listed_selection refs fun l member => by rw [ofStaff_listed member staffId]) fun l member => ?_
  obtain ⟨client, service, staff⟩ := partners_of_listed (List.mem_of_mem_filter member)
  rw [shownToday, partnerText, partnerText, partnerText, partnerText, client, service, staff]
  rfl

theorem expenses_listed (resolves : ForeignKeysHold db) :
    ListsRows db.expenses (fun _ => true) byExpenseDate (shownExpense db)
      ⟨200, some (.list (Expense.getAll db))⟩ := by
  have user (e : Row Expense) (member : e ∈ db.expenses.rows) :
      ∃ u ∈ db.users.rows, u.id = e.cols.loggedBy := resolves.expenseUsers e member _ rfl
  have chosen (e : Row Expense) : (fun u : Row User => decide (e.cols.loggedBy = u.id)) =
      fun u => decide (some e.cols.loggedBy = some u.id) := by
    funext u
    simp
  refine listsRows_of_pairs Prod.fst ?_ ?_
  · rw [List.filter_true]
    refine map_fst_join fun e member => ?_
    obtain ⟨u, uMember, named⟩ := user e member
    exact ⟨u, by rw [chosen]; exact filter_partner uMember named⟩
  · rintro ⟨e, u⟩ member
    obtain ⟨e', -, found⟩ := List.mem_flatMap.mp member
    obtain ⟨u', partnered, same⟩ := List.mem_map.mp found
    cases same
    obtain ⟨uMember, named⟩ := List.mem_filter.mp partnered
    rw [shownExpense, partnerText, partner_eq uMember (of_decide_eq_true named).symm]
    rfl

theorem drawers_listed :
    ListsRows db.cashReconciliation (fun _ => true) byDrawerDate (shownDrawer db)
      ⟨200, some (.list (Reconciliation.getAll db))⟩ := by
  have single (r : Row CashReconciliation) :
      (db.users.rows.filter fun u => r.cols.closedBy = some u.id).length ≤ 1 := by
    refine length_filter_le_one fun u uMember v vMember left right => ?_
    have ids : some u.id = some v.id :=
      (of_decide_eq_true left).symm.trans (of_decide_eq_true right)
    exact db.users.eq_of_id_eq uMember vMember (Option.some.inj ids)
  obtain ⟨rows, partners⟩ := map_fst_leftJoin fun r (_ : r ∈ db.cashReconciliation.rows) => single r
  refine listsRows_of_pairs Prod.fst (by rw [List.filter_true]; exact rows) ?_
  rintro ⟨r, u⟩ member
  have named : u = db.users.rows.find? fun u => r.cols.closedBy = some u.id := partners _ member
  rw [named]
  rfl

theorem users_listed (roster : RosterHolds db) :
    ListsRows db.users (fun _ => true)
      (compareLex (compareOn fun u => u.cols.role) (compareOn fun u => u.cols.name)) (shownUser db)
      ⟨200, some (.list (User.getAllStaff db))⟩ := by
  have single (u : Row User) :
      (db.staff.rows.filter fun s => s.cols.userId = some u.id).length ≤ 1 :=
    length_filter_le_one fun s sMember t tMember left right =>
      roster.single s sMember t tMember
        ((of_decide_eq_true left).trans (of_decide_eq_true right).symm)
  obtain ⟨rows, partners⟩ := map_fst_leftJoin fun u (_ : u ∈ db.users.rows) => single u
  refine listsRows_of_pairs Prod.fst (by rw [List.filter_true]; exact rows) ?_
  rintro ⟨u, s⟩ member
  have owned : s = db.staff.rows.find? fun s => s.cols.userId = some u.id := partners _ member
  rw [owned]
  rfl

end Lists

/-- The lists of the desk: all rows, and of the products those that run short. -/
structure DeskLists (php : Platform) (e : Event) (db : Db) : Prop where
  appointments : Asks e "appointments" ["GET"] →
    ListsRows db.appointments (fun _ => true) byDate (shownAppointment db) (serve php e db).response
  today : Asks e "appointments_today" ["GET"] →
    ListsRows db.appointments (fun a => a.cols.appointmentDate = dateKey e.clock.today)
      (compareOn fun a => a.cols.startTime) (shownToday db) (serve php e db).response
  users : Asks e "staff" ["GET"] →
    ListsRows db.users (fun _ => true)
      (compareLex (compareOn fun u => u.cols.role) (compareOn fun u => u.cols.name)) (shownUser db)
      (serve php e db).response
  clients : Asks e "clients" ["GET"] →
    ListsRows db.clients (fun _ => true) (compareOn fun c => c.cols.name) Client.entry
      (serve php e db).response
  shortages : Asks e "inventory_alerts" ["GET"] →
    ListsRows db.products (fun p => p.cols.stockQuantity ≤ p.cols.minStockAlert)
      (compareOn fun p => p.cols.stockQuantity) Product.entry (serve php e db).response
  drawers : Asks e "reconciliation" ["GET"] →
    ListsRows db.cashReconciliation (fun _ => true) byDrawerDate (shownDrawer db)
      (serve php e db).response

/-- The lists of a stylist's appointments. -/
structure OwnLists (php : Platform) (e : Event) (staffId : Nat) (db : Db) : Prop where
  appointments : Asks e "appointments" ["GET"] →
    ListsRows db.appointments (fun a => a.cols.staffId = some staffId) byDate (shownAppointment db)
      (serve php e db).response
  today : Asks e "appointments_today" ["GET"] →
    ListsRows db.appointments
      (fun a => a.cols.appointmentDate = dateKey e.clock.today && a.cols.staffId = some staffId)
      (compareOn fun a => a.cols.startTime) (shownToday db) (serve php e db).response

/-- The lists that need no token. -/
structure PublicLists (php : Platform) (e : Event) (db : Db) : Prop where
  services : Asks e "services" ["GET"] →
    ListsRows db.services (fun _ => true)
      (compareLex (compareOn fun s => s.cols.category) (compareOn fun s => s.cols.name))
      Service.entry (serve php e db).response
  staff : Asks e "staff" ["GET"] → emptyBytes e.request.headers.authHeader = true →
    ListsRows db.staff (fun _ => true) (compareOn fun s => s.cols.name) Staff.entry
      (serve php e db).response

/-- The lists of everyone who works here. -/
structure SharedLists (php : Platform) (e : Event) (db : Db) : Prop where
  products : Asks e "inventory" ["GET"] →
    ListsRows db.products (fun _ => true)
      (compareLex (compareOn fun p => p.cols.category) (compareOn fun p => p.cols.name))
      Product.entry (serve php e db).response
  expenses : Asks e "expenses" ["GET"] →
    ListsRows db.expenses (fun _ => true) byExpenseDate (shownExpense db) (serve php e db).response

section Requests

variable {php : Platform} {e : Event} {payload : Val} {db : Db}

theorem serve_list {roles : List Role} {rows : Db → List Val} (checked : Passes php e roles payload)
    (routed : index php e = (do
      let _ ← (e.env php).handle roles
      list rows)) : (serve php e db).response = ⟨200, some (.list (rows db))⟩ := by
  rw [serve_response, routed, Prog.bind_of_ok (handle_run (e.env php) checked _)]
  rfl

theorem header_given {roles : List Role} (checked : Passes php e roles payload) :
    emptyBytes e.request.headers.authHeader = false := by
  cases given : emptyBytes e.request.headers.authHeader with
  | false => rfl
  | true =>
    rw [Passes, AuthMiddleware.check, AuthMiddleware.ruling, if_pos given] at checked
    cases checked

theorem atStaff_some (staffId : Nat) :
    atStaff (some (.num staffId)) = fun a => decide (a.cols.staffId = some staffId) := by
  funext a
  cases named : a.cols.staffId with
  | none => simp [atStaff, named]
  | some i => simp [atStaff, named]

theorem atStaff_none : atStaff none = fun _ => true := rfl

theorem desk_lists (refs : ReferencesHold db) (roster : RosterHolds db)
    (checked : Passes php e [.admin, .receptionist] payload) : DeskLists php e db where
  appointments asked := by
    have passed := passes_more checked (by decide) (show _ ⊆ [.admin, .receptionist, .stylist] by decide)
    have routed : index php e = AppointmentController.getAppointments (e.env php) :=
      (index_get asked).trans rfl
    have desk : ¬ (payload.field "role").is "stylist" = true :=
      fun role => not_desk_of_stylist role checked
    rw [serve_response, routed, AppointmentController.getAppointments,
      Prog.bind_of_ok (handle_run (e.env php) passed _), if_neg desk]
    exact appointments_listed refs none
  today asked := by
    have passed := passes_more checked (by decide) (show _ ⊆ [.admin, .receptionist, .stylist] by decide)
    have routed : index php e = AppointmentController.getTodayAppointments (e.env php) :=
      (index_get asked).trans rfl
    have desk : ¬ (payload.field "role").is "stylist" = true :=
      fun role => not_desk_of_stylist role checked
    rw [serve_response, routed, AppointmentController.getTodayAppointments,
      Prog.bind_of_ok (handle_run (e.env php) passed _), if_neg desk]
    have listed : ListsRows db.appointments
        (fun a => a.cols.appointmentDate = dateKey e.clock.today)
        (compareOn fun a => a.cols.startTime) (shownToday db)
        ⟨200, some (.list (Appointment.getTodayAppointments e.clock none db))⟩ := by
      simpa only [atStaff_none, Bool.and_true] using today_listed refs e.clock none
    exact listed
  users asked := by
    have routed : index php e = AuthController.getStaffList (e.env php) :=
      (index_get asked).trans rfl
    have given : (!emptyBytes (e.env php).headers.authHeader) = true := by
      show (!emptyBytes e.request.headers.authHeader) = true
      rw [header_given checked]
      rfl
    rw [serve_response, routed, AuthController.getStaffList, if_pos given,
      Prog.bind_of_ok (handle_run (e.env php) checked _)]
    exact users_listed roster
  clients asked := by
    rw [serve_list checked ((index_get asked).trans rfl)]
    exact listsRows_all _ _
  shortages asked := by
    rw [serve_list checked ((index_get asked).trans rfl)]
    exact listsRows_of_rows _ _ _
  drawers asked := by
    rw [serve_list checked ((index_get asked).trans rfl)]
    exact drawers_listed

theorem own_lists {staffId : Nat} (refs : ReferencesHold db)
    (checked : Passes php e [.admin, .receptionist, .stylist] payload)
    (role : (payload.field "role").is "stylist" = true)
    (own : AppointmentController.ownStaff payload (Session.start db).db = some staffId) :
    OwnLists php e staffId db where
  appointments asked := by
    have routed : index php e = AppointmentController.getAppointments (e.env php) :=
      (index_get asked).trans rfl
    rw [serve_response, routed, AppointmentController.getAppointments,
      Prog.bind_of_ok (handle_run (e.env php) checked _), if_pos role, exec_read_bind_run]
    simp only [own]
    have listed := appointments_listed refs (some (.num staffId))
    rwa [atStaff_some] at listed
  today asked := by
    have routed : index php e = AppointmentController.getTodayAppointments (e.env php) :=
      (index_get asked).trans rfl
    rw [serve_response, routed, AppointmentController.getTodayAppointments,
      Prog.bind_of_ok (handle_run (e.env php) checked _), if_pos role, exec_read_bind_run]
    simp only [own]
    have listed := today_listed refs e.clock (some (.num staffId))
    rwa [atStaff_some] at listed

theorem public_lists : PublicLists php e db where
  services asked := by
    have routed : index php e = list Service.getAll := (index_get asked).trans rfl
    rw [serve_response, routed]
    exact listsRows_all _ _
  staff asked anonymous := by
    rw [(serve_publicStaff asked anonymous).1]
    exact listsRows_all _ _

theorem shared_lists (resolves : ForeignKeysHold db)
    (checked : Passes php e [.admin, .receptionist, .stylist] payload) : SharedLists php e db where
  products asked := by
    rw [serve_list checked ((index_get asked).trans rfl)]
    exact listsRows_all _ _
  expenses asked := by
    rw [serve_list checked ((index_get asked).trans rfl)]
    exact expenses_listed resolves

end Requests

/-- In every database that a run reaches, each list endpoint shows each row of its table
once, with the columns of its own partners and in its order: all of them to the desk, the
own appointments to a stylist. -/
theorem lists_complete (php : Platform) (hash : String → String) (clock : Clock)
    (events : List Event) (e : Event) :
    PublicLists php e (afterRun php hash clock events) ∧
      ∀ payload, Passes php e [.admin, .receptionist, .stylist] payload →
        SharedLists php e (afterRun php hash clock events) ∧
          (Passes php e [.admin, .receptionist] payload →
            DeskLists php e (afterRun php hash clock events)) ∧
          ∀ staffId, (payload.field "role").is "stylist" = true →
            AppointmentController.ownStaff payload (afterRun php hash clock events) = some staffId →
            OwnLists php e staffId (afterRun php hash clock events) := by
  have refs := references_hold php hash clock events
  refine ⟨public_lists, fun payload checked => ⟨?_, ?_, fun staffId => ?_⟩⟩
  · exact shared_lists (consistent_afterRun php hash clock events).foreignKeys checked
  · exact desk_lists refs (roster_holds php hash clock events)
  · exact own_lists refs checked

end Saloon.Guarantees
