import Saloon.Source.Appointment
import Saloon.Source.Catalogue

/-!
# What the endpoints list

The SELECTs behind the GET actions that are not in the modules of their models:
`models/Appointment.php:6-50`, the dashboard (`controllers/AppointmentController.php:19-55`),
`models/Expense.php:6-14`, `models/Reconciliation.php:6-14`, and the commissions and
payouts (`models/Invoice.php:206-232`).
-/
namespace Saloon.Source

open Lib

/-- The order of stored values: NULL, numbers, texts. -/
def SqlVal.cmp : SqlVal → SqlVal → Ordering
  | .null, .null => .eq
  | .null, _ => .lt
  | _, .null => .gt
  | .num q, .num r => compare q r
  | .num _, .text _ => .lt
  | .text _, .num _ => .gt
  | .text s, .text t => compare s t

namespace Appointment

def columns (r : Row Appointment) : List (String × Val) :=
  [("id", .int r.id), ("client_id", .ofId r.cols.clientId), ("staff_id", .ofId r.cols.staffId),
    ("service_id", .ofId r.cols.serviceId), ("appointment_date", r.cols.appointmentDate.fetch),
    ("start_time", .str r.cols.startTime), ("end_time", .str r.cols.endTime),
    ("status", .str r.cols.status), ("client_type", .str r.cols.clientType),
    ("created_at", .ofDateTime r.cols.createdAt)]

/-- An appointment with its client, service and staff member. -/
structure Listed where
  appointment : Row Appointment
  client : Row Client
  service : Row Service
  staff : Row Staff

/-- `appointments a JOIN clients c … JOIN services s … JOIN staff st …`. -/
def listed (db : Db) : List Listed :=
  db.appointments.rows.flatMap fun a =>
    (db.clients.rows.filter fun c => a.cols.clientId = some c.id).flatMap fun c =>
      (db.services.rows.filter fun s => a.cols.serviceId = some s.id).flatMap fun s =>
        (db.staff.rows.filter fun st => a.cols.staffId = some st.id).map fun st => ⟨a, c, s, st⟩

/-- `a.staff_id = :staff_id`, when there is such a condition. -/
def ofStaff (staffId : Option SqlVal) (l : Listed) : Bool :=
  match staffId with
  | none => true
  | some k => byId k l.staff

def getAll (staffId : Option SqlVal) (db : Db) : List Val :=
  (orderBy
    (compareLex (descending fun l m =>
        SqlVal.cmp l.appointment.cols.appointmentDate m.appointment.cols.appointmentDate)
      (compareOn fun l => l.appointment.cols.startTime))
    ((listed db).filter (ofStaff staffId))).map fun l =>
      .arr (columns l.appointment ++
        [("client_name", .str l.client.cols.name), ("client_phone", .str l.client.cols.phone),
          ("service_name", .str l.service.cols.name), ("staff_name", .str l.staff.cols.name)])

def getTodayAppointments (clock : Clock) (staffId : Option SqlVal) (db : Db) : List Val :=
  (orderBy (compareOn fun l => l.appointment.cols.startTime)
    ((listed db).filter fun l =>
      l.appointment.cols.appointmentDate = dateKey clock.today && ofStaff staffId l)).map fun l =>
      .arr (columns l.appointment ++
        [("client_name", .str l.client.cols.name), ("client_phone", .str l.client.cols.phone),
          ("service_name", .str l.service.cols.name),
          ("duration_mins", .int l.service.cols.durationMins),
          ("staff_name", .str l.staff.cols.name)])

end Appointment

namespace Invoice

/-- `SELECT SUM(total_amount) FROM invoices WHERE date(created_at) = :date`, `?: 0.0`. -/
def revenueOn (date : String) (db : Db) : Rat :=
  db.invoices.sumOver (fun r => r.cols.createdAt.date = date) fun r => r.cols.totalAmount

/-- `COALESCE(SUM(ii.commission_paid), 0.0)` over the lines of one staff row. -/
def commissionEarned (staffId : Nat) (db : Db) : Rat :=
  db.invoiceItems.sumOver (fun r => r.cols.stylistId = some staffId) fun r => r.cols.commissionPaid

def getCommissionReport (db : Db) : List Val :=
  (orderBy (descending (compareOn fun s : Row Staff => commissionEarned s.id db)) db.staff.rows).map
    fun s =>
      .arr [("staff_id", .int s.id), ("stylist_name", .str s.cols.name),
        ("role", .str s.cols.role), ("total_commission_earned", .float (commissionEarned s.id db))]

/-- A line in a stylist's payout list. -/
structure Payout where
  item : Row InvoiceItem
  invoice : Row Invoice

/-- `invoice_items ii JOIN invoices inv … JOIN staff st … WHERE st.user_id = :user_id`. -/
def payouts (userId : SqlVal) (db : Db) : List Payout :=
  db.invoiceItems.rows.flatMap fun ii =>
    (db.invoices.rows.filter fun inv => inv.id = ii.cols.invoiceId).flatMap fun inv =>
      (db.staff.rows.filter fun st =>
        ii.cols.stylistId = some st.id && hasUserId userId st).map fun _ => ⟨ii, inv⟩

/-- The name behind a line through `LEFT JOIN … ON ii.item_type = … AND ii.item_id = id`. -/
def lineName {α : Type} (t : Table α) (name : α → String) (itemType : String)
    (ii : Row InvoiceItem) : Val :=
  if ii.cols.itemType = itemType then .ofText ((lookup t ii.cols.itemId).map fun r => name r.cols)
  else .null

/-- The payouts with `LEFT JOIN services s ON ii.item_type = 'service' AND ii.item_id = s.id`
and the same of the products. -/
def payoutsJoined (userId : SqlVal) (db : Db) :
    List ((Payout × Option (Row Service)) × Option (Row Product)) :=
  leftJoin
    (leftJoin (payouts userId db) db.services.rows fun p s =>
      p.item.cols.itemType = "service" && byId p.item.cols.itemId s)
    db.products.rows fun q r =>
      q.1.item.cols.itemType = "product" && byId q.1.item.cols.itemId r

/-- The partners of a line by type and id are at most one row. -/
theorem partners_le_one {α : Type} (t : Table α) (condition : Bool) (k : SqlVal) :
    (t.rows.filter fun r => condition && byId k r).length ≤ 1 := by
  cases condition with
  | false => simp
  | true =>
    simp only [Bool.true_and]
    cases found : t.rows.filter (byId k) with
    | nil => simp
    | cons r rest =>
      have present : r ∈ t.rows.filter (byId k) := by simp [found]
      obtain ⟨member, selected⟩ := List.mem_filter.mp present
      rw [← found, Table.filter_of_unique member selected fun s sMember hit => ?_]
      · simp
      · have same : SqlVal.num s.id = .num r.id :=
          (byId_iff.mp hit).trans (byId_iff.mp selected).symm
        exact t.eq_of_id_eq sMember member (by simpa using same)

/-- The left joins add no rows, and find the names of `lineName`. -/
theorem payoutsJoined_names (userId : SqlVal) (db : Db) :
    ((payoutsJoined userId db).map fun q =>
      (q.1.1, Val.ofText (q.1.2.map fun r => r.cols.name), Val.ofText (q.2.map fun r => r.cols.name))) =
      (payouts userId db).map fun p =>
        (p, lineName db.services Service.name "service" p.item,
          lineName db.products Product.name "product" p.item) := by
  have named {α : Type} (t : Table α) (name : α → String) (itemType : String) (ii : Row InvoiceItem) :
      Val.ofText ((t.rows.find? fun r =>
        ii.cols.itemType = itemType && byId ii.cols.itemId r).map fun r => name r.cols) =
        lineName t name itemType ii := by
    unfold lineName
    by_cases same : ii.cols.itemType = itemType
    · simp only [same, decide_true, Bool.true_and, if_true]
      rfl
    · have none : (t.rows.find? fun r => ii.cols.itemType = itemType && byId ii.cols.itemId r) =
          none := List.find?_eq_none.mpr fun r _ => by simp [same]
      rw [none, if_neg same]
      rfl
  rw [payoutsJoined, leftJoin_eq_map fun q _ => partners_le_one _ _ _,
    leftJoin_eq_map fun p _ => partners_le_one _ _ _, List.map_map, List.map_map]
  refine List.map_congr_left fun p _ => ?_
  simp only [Function.comp_apply, named]

def payoutEntry (db : Db) (p : Payout) : Val :=
  .arr [("id", .int p.item.id), ("invoice_id", .int p.item.cols.invoiceId),
    ("item_type", .str p.item.cols.itemType), ("item_id", p.item.cols.itemId.fetch),
    ("stylist_id", .ofId p.item.cols.stylistId), ("quantity", .int p.item.cols.quantity),
    ("price", .float p.item.cols.price), ("commission_paid", .float p.item.cols.commissionPaid),
    ("created_at", .ofDateTime p.invoice.cols.createdAt),
    ("service_name", lineName db.services Service.name "service" p.item),
    ("product_name", lineName db.products Product.name "product" p.item)]

def getStylistPayouts (userId : SqlVal) (db : Db) : List Val :=
  (orderBy (descending (compareOn fun p => p.invoice.cols.createdAt.text)) (payouts userId db)).map
    (payoutEntry db)

end Invoice

namespace Expense

/-- `SELECT e.*, u.name … ORDER BY e.expense_date DESC, e.created_at DESC`. -/
def getAll (db : Db) : List Val :=
  (orderBy
    (compareLex (descending fun p q => SqlVal.cmp p.1.cols.expenseDate q.1.cols.expenseDate)
      (descending (compareOn fun p => p.1.cols.createdAt.text)))
    (join db.expenses.rows db.users.rows fun e u => e.cols.loggedBy = u.id)).map fun p =>
      .arr [("id", .int p.1.id), ("category", .str p.1.cols.category),
        ("amount", .float p.1.cols.amount), ("description", .str p.1.cols.description),
        ("expense_date", p.1.cols.expenseDate.fetch), ("logged_by", .int p.1.cols.loggedBy),
        ("created_at", .ofDateTime p.1.cols.createdAt), ("logged_by_name", .str p.2.cols.name)]

end Expense

namespace Reconciliation

def columns (r : Row CashReconciliation) : List (String × Val) :=
  [("id", .int r.id), ("reconciliation_date", r.cols.reconciliationDate.fetch),
    ("opening_cash", .float r.cols.openingCash), ("total_cash_sales", .float r.cols.totalCashSales),
    ("digital_payments", .float r.cols.digitalPayments),
    ("logged_expenses", .float r.cols.loggedExpenses),
    ("closing_balance", .float r.cols.closingBalance), ("status", .str r.cols.status),
    ("closed_by", .ofId r.cols.closedBy), ("closed_at", .ofText (r.cols.closedAt.map DateTime.text))]

/-- `SELECT r.*, u.name … LEFT JOIN users … ORDER BY r.reconciliation_date DESC`. -/
def getAll (db : Db) : List Val :=
  (orderBy (descending fun p q => SqlVal.cmp p.1.cols.reconciliationDate q.1.cols.reconciliationDate)
    (leftJoin db.cashReconciliation.rows db.users.rows fun r u => r.cols.closedBy = some u.id)).map
    fun p => .arr (columns p.1 ++ [("closed_by_name", .ofText (p.2.map fun u => u.cols.name))])

end Reconciliation

end Saloon.Source
