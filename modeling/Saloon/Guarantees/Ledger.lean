import Saloon.Guarantees.Serving
import Saloon.Lib.Tally

/-!
# The drawer ledger

What a request does to the invoices, the expenses and the drawers, and what
follows over runs: the drawer of a day agrees with the invoices and expenses of
that day, and a closed day is frozen.
-/
namespace Saloon.Guarantees

open Lib Source

/-- The sale of a request: the cash bill of an appointment without an invoice, or a
checkout as it was asked for. -/
def SaleOf (php : Platform) (e : Event) (db : Db) (sale : Sale) : Prop :=
  sale.paymentMethod = .str "cash" ∧
      (∃ a, sale.appointmentId = some a ∧ Invoice.isInvoiced (.num a) db = false) ∨
    Accepted php e db ∧ sale.paymentMethod = argOr e "payment_method" (.str "") ∧
      sale.total = Invoice.total (argOr e "items" (.arr [])).elems ∧ sale.appointmentId = none

/-- The five things a request can do to invoices, expenses and drawers. -/
inductive LedgerChange (php : Platform) (e : Event) (db after : Db) : Prop
  | same (invoices : after.invoices = db.invoices) (expenses : after.expenses = db.expenses)
      (drawers : after.cashReconciliation = db.cashReconciliation)
  | sale (sale : Sale) (source : SaleOf php e db sale)
      (invoices : after.invoices = db.invoices.insert (sale.invoice e.clock))
      (expenses : after.expenses = db.expenses)
      (drawers : PostedOn (dateKey e.clock.today) (saleUpdate sale.paymentMethod sale.total)
        (saleOpening (dateKey e.clock.today) sale.paymentMethod sale.total)
        db.cashReconciliation after.cashReconciliation)
  | expense (x : Expense) (invoices : after.invoices = db.invoices)
      (expenses : after.expenses = db.expenses.insert x)
      (drawers : PostedOn x.expenseDate (.addExpense x.amount)
        (Expense.opening x.expenseDate x.amount) db.cashReconciliation after.cashReconciliation)
  | view (invoices : after.invoices = db.invoices) (expenses : after.expenses = db.expenses)
      (absent : ∀ r ∈ db.cashReconciliation.rows, isOn (dateKey e.clock.today) r = false)
      (drawers : after.cashReconciliation =
        db.cashReconciliation.insert (openingDrawer (dateKey e.clock.today) 0 0 0 200))
  | close (key : SqlVal) (balance : Rat) (closedBy : Option Nat)
      (invoices : after.invoices = db.invoices) (expenses : after.expenses = db.expenses)
      (drawers : after.cashReconciliation = db.cashReconciliation.modify (isOpenOn key)
        (.close balance closedBy e.clock.now))

section Cases

variable {php : Platform} {e : Event} {user : Option Val} {db after : Db}

theorem LedgerChange.refl (php : Platform) (e : Event) (db : Db) : LedgerChange php e db db :=
  .same rfl rfl rfl

theorem accepted_of_charged {payload : Val} {sale : Sale} {drawers : Table CashReconciliation}
    (asked : Asks e "checkout" ["POST"]) (checked : Passes php e [.admin, .receptionist] payload)
    (method : (argOr e "payment_method" (.str "")).empty = false)
    (items : (argOr e "items" (.arr [])).empty = false)
    (charged : Invoice.Charged e.clock db (arg e "client_id") (payload.field "id")
      (argOr e "payment_method" (.str "")) (argOr e "items" (.arr [])) .null sale drawers) :
    Accepted php e db :=
  ⟨asked, method, items, payload, checked, charged.payable, accepting_of_posted charged.drawer⟩

theorem Served.ledger_cases (served : Served php e user db after) : LedgerChange php e db after := by
  cases served with
  | nothing => exact .refl php e db
  | register allowed known done asked =>
    obtain ⟨users, staff, rfl⟩ := User.registerStatements_frame done
    exact .same rfl rfl rfl
  | updateStaff allowed done asked =>
    obtain ⟨users, staff, rfl⟩ := User.updateStatements_frame done
    exact .same rfl rfl rfl
  | availability passed allowed known => exact .same rfl rfl rfl
  | addClient allowed asked => exact .same rfl rfl rfl
  | clientOnly asked client =>
    rcases client_frame client with rfl | ⟨c, rfl⟩
    · exact .refl php e after
    · exact .same rfl rfl rfl
  | book asked named client done =>
    obtain ⟨a, -, rfl⟩ := Appointment.createStatements_eq_ok done
    rcases client_frame client with rfl | ⟨c, rfl⟩
    · exact .same rfl rfl rfl
    · exact .same rfl rfl rfl
  | mark asked checked passed allowed known found unbilled => exact .same rfl rfl rfl
  | complete asked checked passed allowed completed found pending billed =>
    obtain ⟨sale, drawers, -, charged, rfl⟩ := Invoice.checkoutStatements_eq_ok billed
    obtain ⟨a, member, key, -⟩ := Appointment.appointment_of_assigned found
    have uninvoiced := (Appointment.toBill_eq_some.mp pending).1
    rw [key] at uninvoiced
    refine .sale sale (.inl ⟨charged.method, a.id, charged.appointment_eq key, uninvoiced⟩)
      rfl rfl ?_
    rw [charged.method]
    exact charged.drawer
  | addService allowed duration nonneg => exact .same rfl rfl rfl
  | updateService allowed duration nonneg => exact .same rfl rfl rfl
  | addProduct allowed asked => exact .same rfl rfl rfl
  | updateStock allowed => exact .same rfl rfl rfl
  | checkout asked checked passed allowed method items done =>
    obtain ⟨sale, drawers, -, charged, rfl⟩ := Invoice.checkoutStatements_eq_ok done
    refine .sale sale (.inr ⟨accepted_of_charged asked checked method items charged, charged.method,
      charged.total, charged.appointment_none rfl⟩) rfl rfl ?_
    rw [charged.method]
    exact charged.drawer
  | expense asked passed allowed positive done =>
    obtain ⟨loggedBy, drawers, -, posted, rfl⟩ := Expense.createStatements_eq_ok done
    exact .expense _ rfl rfl posted
  | viewDrawer allowed =>
    obtain ⟨r, viewed⟩ := Reconciliation.getTodayStatus_run e.clock db
    rw [viewed]
    dsimp only
    split
    · exact .refl php e db
    · rename_i absent
      refine .view rfl rfl (fun r member => ?_) rfl
      simpa using fun on => absent ⟨r, member, on⟩
  | closeDrawer passed allowed =>
    rcases Reconciliation.closeDrawer_run e.clock _ _ _ db with same | ⟨closedBy, -, closed⟩
    · exact same.symm ▸ .refl php e db
    · rw [closeOf, closed]
      exact .close _ _ closedBy rfl rfl rfl

end Cases

section Invariant

/-- The drawers' keys and the two totals kept in them: cash sales and expenses. -/
def drawerKey (r : CashReconciliation) : SqlVal := r.reconciliationDate

def invoiceDay (i : Invoice) : SqlVal := dateKey i.createdAt.date

def cashTally : Tally Invoice CashReconciliation SqlVal Rat where
  entryKey := invoiceDay
  weight i := if i.paymentMethod = "cash" then i.totalAmount else 0
  groupKey := drawerKey
  total := CashReconciliation.totalCashSales

theorem cashTally_entryKey (i : Invoice) : cashTally.entryKey i = invoiceDay i := rfl

def expenseTally : Tally Expense CashReconciliation SqlVal Rat where
  entryKey := Expense.expenseDate
  weight := Expense.amount
  groupKey := drawerKey
  total := CashReconciliation.loggedExpenses

/-- The balance that an open drawer shows. -/
def InBalance (r : CashReconciliation) : Prop :=
  r.closingBalance = r.openingCash + r.totalCashSales - r.loggedExpenses

/-- The books agree with the drawers. -/
structure DrawerLedger (invoices : Table Invoice) (expenses : Table Expense)
    (drawers : Table CashReconciliation) : Prop where
  unique : UniqueKey drawerKey drawers
  sales : Covers invoiceDay drawerKey invoices drawers
  costs : Covers Expense.expenseDate drawerKey expenses drawers
  cash : cashTally.Balanced invoices drawers
  spent : expenseTally.Balanced expenses drawers
  balance : ∀ r ∈ drawers.rows, r.cols.status = "open" → InBalance r.cols

def LedgerHolds (db : Db) : Prop := DrawerLedger db.invoices db.expenses db.cashReconciliation

section Posting

/-! What a posting to the drawer of a date keeps, whichever of its two ways it took. -/

variable {key : SqlVal} {f : CashReconciliation → CashReconciliation} {fresh : CashReconciliation}
  {t u : Table CashReconciliation} {α : Type}

theorem isOn_iff {r : Row CashReconciliation} : isOn key r = true ↔ drawerKey r.cols = key := by
  simp [isOn, drawerKey]

theorem key_ne_of_isOn {r : Row CashReconciliation} (off : isOn key r = false) :
    drawerKey r.cols ≠ key := by
  simpa [isOn, drawerKey] using off

theorem posted_unique (posted : PostedOn key f fresh t u)
    (keeps : ∀ r, drawerKey (f r) = drawerKey r) (date : drawerKey fresh = key)
    (unique : UniqueKey drawerKey t) : UniqueKey drawerKey u := by
  rcases posted with ⟨r, member, isOpen, rfl⟩ | ⟨absent, rfl⟩
  · exact unique.modify keeps
  · exact unique.insert fun r member => date.symm ▸ key_ne_of_isOn (absent r member)

theorem posted_covers {entryKey : α → SqlVal} {entries : Table α}
    (posted : PostedOn key f fresh t u) (keeps : ∀ r, drawerKey (f r) = drawerKey r)
    (covered : Covers entryKey drawerKey entries t) : Covers entryKey drawerKey entries u := by
  rcases posted with ⟨r, member, isOpen, rfl⟩ | ⟨absent, rfl⟩
  · exact covered.groups_modify keeps
  · exact covered.groups_insert

theorem posted_covers_insert {entryKey : α → SqlVal} {entries : Table α} {a : α}
    (posted : PostedOn key f fresh t u) (keeps : ∀ r, drawerKey (f r) = drawerKey r)
    (date : drawerKey fresh = key) (entry : entryKey a = key)
    (covered : Covers entryKey drawerKey entries t) :
    Covers entryKey drawerKey (entries.insert a) u := by
  refine (posted_covers posted keeps covered).entries_insert ?_
  rw [entry]
  rcases posted with ⟨r, member, isOpen, rfl⟩ | ⟨absent, rfl⟩
  · refine ⟨_, Table.mem_modify.mpr ⟨r, member, rfl⟩, ?_⟩
    simp only [decide_true, if_true, keeps]
    exact isOn_iff.mp (isOn_of_isOpenOn isOpen)
  · exact ⟨_, Table.mem_insert_self t fresh, date⟩

/-- The tally that the posting is for. -/
theorem posted_balanced {T : Tally α CashReconciliation SqlVal Rat} {entries : Table α} {a : α}
    (posted : PostedOn key f fresh t u) (keys : T.groupKey = drawerKey)
    (keeps : ∀ r, drawerKey (f r) = drawerKey r) (date : drawerKey fresh = key)
    (entry : T.entryKey a = key) (adds : ∀ r, T.total (f r) = T.total r + T.weight a)
    (first : (∀ r ∈ t.rows, isOn key r = false) → T.total fresh = T.weight a)
    (unique : UniqueKey drawerKey t) (covered : Covers T.entryKey drawerKey entries t) (balanced : T.Balanced entries t) :
    T.Balanced (entries.insert a) u := by
  rcases posted with ⟨r, member, isOpen, rfl⟩ | ⟨absent, rfl⟩
  · have same : drawerKey r.cols = key := isOn_iff.mp (isOn_of_isOpenOn isOpen)
    exact balanced.post (keys ▸ unique) member (by rw [keys, same, entry]) (keys ▸ keeps) adds
  · have off : ∀ r ∈ t.rows, drawerKey r.cols ≠ key := fun r member =>
      key_ne_of_isOn (absent r member)
    exact balanced.opened (by rw [keys, date, entry]) (first absent) (by rwa [keys, entry])
      (by rw [entry]; exact covered.no_entries off)

/-- A tally that the posting does not concern. -/
theorem posted_balanced_other {T : Tally α CashReconciliation SqlVal Rat} {entries : Table α}
    (posted : PostedOn key f fresh t u) (keys : T.groupKey = drawerKey)
    (keeps : ∀ r, drawerKey (f r) = drawerKey r) (date : drawerKey fresh = key)
    (same : ∀ r, T.total (f r) = T.total r) (zero : T.total fresh = 0)
    (covered : Covers T.entryKey drawerKey entries t) (balanced : T.Balanced entries t) :
    T.Balanced entries u := by
  rcases posted with ⟨r, member, isOpen, rfl⟩ | ⟨absent, rfl⟩
  · exact balanced.groups_modify (keys ▸ keeps) same
  · refine balanced.groups_insert zero ?_
    rw [keys, date]
    exact covered.no_entries fun r member => key_ne_of_isOn (absent r member)

/-- An equation that postings to open rows keep. -/
theorem posted_open {P : CashReconciliation → Prop} (posted : PostedOn key f fresh t u)
    (keeps : ∀ r, r.status = "open" → P r → P (f r)) (first : P fresh)
    (before : ∀ r ∈ t.rows, r.cols.status = "open" → P r.cols)
    (status : ∀ r, (f r).status = r.status) :
    ∀ r ∈ u.rows, r.cols.status = "open" → P r.cols := by
  rcases posted with ⟨s, member, isOpen, rfl⟩ | ⟨absent, rfl⟩
  · intro r rMember opened
    obtain ⟨old, oldMember, rfl⟩ := Table.mem_modify.mp rMember
    by_cases same : old.id = s.id
    · simp only [same, decide_true, if_true, status] at opened ⊢
      exact keeps _ opened (before old oldMember opened)
    · simp only [same, decide_false] at opened ⊢
      exact before old oldMember opened
  · intro r rMember opened
    rcases Table.mem_insert.mp rMember with old | rfl
    · exact before r old opened
    · exact first

end Posting

section Sale

/-! The two branches of a sale's posting, column by column. -/

variable (m : Val) (amount : Rat) (key : SqlVal) (r : CashReconciliation)

theorem saleUpdate_key : drawerKey (saleUpdate m amount r) = drawerKey r := by
  unfold saleUpdate
  split <;> rfl

theorem saleUpdate_expenses : (saleUpdate m amount r).loggedExpenses = r.loggedExpenses := by
  unfold saleUpdate
  split <;> rfl

theorem saleUpdate_cash :
    (saleUpdate m amount r).totalCashSales =
      r.totalCashSales + if m.is "cash" then amount else 0 := by
  unfold saleUpdate
  split
  · rfl
  · exact (add_zero _).symm

theorem saleUpdate_balance (balance : InBalance r) : InBalance (saleUpdate m amount r) := by
  unfold saleUpdate
  split
  · simp only [InBalance] at balance
    simp only [InBalance, CashReconciliation.addCashSale, balance]
    ring
  · exact balance

theorem saleOpening_key : drawerKey (saleOpening key m amount) = key := rfl

theorem saleOpening_cash :
    (saleOpening key m amount).totalCashSales = if m.is "cash" then amount else 0 := rfl

theorem saleOpening_expenses : (saleOpening key m amount).loggedExpenses = 0 := rfl

theorem saleOpening_balance : InBalance (saleOpening key m amount) := by
  simp [InBalance, saleOpening, openingDrawer]

/-- The stored method is the text "cash" exactly for what the code takes for cash. -/
theorem cash_stored : m.strval = "cash" ↔ m.is "cash" = true :=
  (is_iff_strval (by decide) (by decide)).symm

end Sale

section Changes

variable {clock : Clock} {invoices : Table Invoice} {expenses : Table Expense}
  {drawers after : Table CashReconciliation}

theorem DrawerLedger.sale {sale : Sale}
    (posted : PostedOn (dateKey clock.today) (saleUpdate sale.paymentMethod sale.total)
      (saleOpening (dateKey clock.today) sale.paymentMethod sale.total) drawers after)
    (ledger : DrawerLedger invoices expenses drawers) :
    DrawerLedger (invoices.insert (sale.invoice clock)) expenses after := by
  have day : invoiceDay (sale.invoice clock) = dateKey clock.today := rfl
  have entry : cashTally.entryKey (sale.invoice clock) = dateKey clock.today :=
    (cashTally_entryKey _).trans day
  have weight : cashTally.weight (sale.invoice clock) =
      if sale.paymentMethod.is "cash" then sale.total else 0 := by
    simp only [cashTally, Sale.invoice, cash_stored]
  generalize dateKey clock.today = key at posted day entry
  have date := saleOpening_key sale.paymentMethod sale.total key
  have keeps := saleUpdate_key sale.paymentMethod sale.total
  refine ⟨posted_unique posted keeps date ledger.unique,
    posted_covers_insert posted keeps date day ledger.sales,
    posted_covers posted keeps ledger.costs, ?_, ?_, ?_⟩
  · refine posted_balanced posted rfl keeps date entry (fun r => ?_) (fun _ => ?_) ledger.unique
      ledger.sales ledger.cash
    · rw [weight]
      exact saleUpdate_cash _ _ r
    · rw [weight]
      exact saleOpening_cash sale.paymentMethod sale.total key
  · exact posted_balanced_other posted rfl keeps date (saleUpdate_expenses _ _)
      (saleOpening_expenses sale.paymentMethod sale.total key) ledger.costs ledger.spent
  · exact posted_open posted (fun r _ => saleUpdate_balance _ _ r)
      (saleOpening_balance sale.paymentMethod sale.total key) ledger.balance (saleUpdate_status _ _)

theorem DrawerLedger.expense {x : Expense}
    (posted : PostedOn x.expenseDate (.addExpense x.amount)
      (Expense.opening x.expenseDate x.amount) drawers after)
    (ledger : DrawerLedger invoices expenses drawers) :
    DrawerLedger invoices (expenses.insert x) after := by
  have date : drawerKey (Expense.opening x.expenseDate x.amount) = x.expenseDate := rfl
  have keeps : ∀ r, drawerKey (CashReconciliation.addExpense x.amount r) = drawerKey r :=
    fun _ => rfl
  have zero : cashTally.total (Expense.opening x.expenseDate x.amount) = 0 := rfl
  have first : expenseTally.total (Expense.opening x.expenseDate x.amount) = x.amount := rfl
  refine ⟨posted_unique posted keeps date ledger.unique, posted_covers posted keeps ledger.sales,
    posted_covers_insert posted keeps date rfl ledger.costs, ?_, ?_, ?_⟩
  · exact posted_balanced_other posted rfl keeps date (fun _ => rfl) zero ledger.sales ledger.cash
  · exact posted_balanced posted rfl keeps date rfl (fun _ => rfl) (fun _ => first) ledger.unique
      ledger.costs ledger.spent
  · refine posted_open posted (fun r _ before => ?_) ?_ ledger.balance fun _ => rfl
    · simp only [InBalance] at before
      simp only [InBalance, CashReconciliation.addExpense, before]
      ring
    · simp [InBalance, Expense.opening, openingDrawer]

theorem DrawerLedger.view
    (absent : ∀ r ∈ drawers.rows, isOn (dateKey clock.today) r = false)
    (ledger : DrawerLedger invoices expenses drawers) :
    DrawerLedger invoices expenses
      (drawers.insert (openingDrawer (dateKey clock.today) 0 0 0 200)) := by
  have off : ∀ r ∈ drawers.rows, drawerKey r.cols ≠ dateKey clock.today :=
    fun r member => key_ne_of_isOn (absent r member)
  generalize dateKey clock.today = key at off
  have noSales := ledger.sales.no_entries off
  have noCosts := ledger.costs.no_entries off
  have noCash : cashTally.total (openingDrawer key 0 0 0 200) = 0 := rfl
  have nothingSpent : expenseTally.total (openingDrawer key 0 0 0 200) = 0 := rfl
  refine ⟨ledger.unique.insert off, ledger.sales.groups_insert, ledger.costs.groups_insert,
    ledger.cash.groups_insert noCash noSales, ledger.spent.groups_insert nothingSpent noCosts, ?_⟩
  intro r member opened
  rcases Table.mem_insert.mp member with old | rfl
  · exact ledger.balance r old opened
  · simp [InBalance, openingDrawer]

theorem DrawerLedger.close {key : SqlVal} {amount : Rat} {closedBy : Option Nat}
    (ledger : DrawerLedger invoices expenses drawers) :
    DrawerLedger invoices expenses
      (drawers.modify (isOpenOn key) (.close amount closedBy clock.now)) := by
  refine ⟨ledger.unique.modify fun _ => rfl, ledger.sales.groups_modify fun _ => rfl,
    ledger.costs.groups_modify fun _ => rfl, ledger.cash.groups_modify (fun _ => rfl) fun _ => rfl,
    ledger.spent.groups_modify (fun _ => rfl) fun _ => rfl, ?_⟩
  intro r member opened
  obtain ⟨old, oldMember, rfl⟩ := Table.mem_modify.mp member
  by_cases selected : isOpenOn key old = true
  · simp [selected, CashReconciliation.close] at opened
  · simp only [selected, Bool.false_eq_true, if_false] at opened ⊢
    exact ledger.balance old oldMember opened

end Changes

/-- The drawer ledger survives every change. -/
theorem LedgerChange.keeps {php : Platform} {e : Event} {db after : Db}
    (change : LedgerChange php e db after) (ledger : LedgerHolds db) : LedgerHolds after := by
  unfold LedgerHolds at ledger ⊢
  cases change with
  | same hInvoices hExpenses hDrawers =>
    rw [hInvoices, hExpenses, hDrawers]
    exact ledger
  | sale sale source hInvoices hExpenses posted =>
    rw [hInvoices, hExpenses]
    exact ledger.sale posted
  | expense x hInvoices hExpenses posted =>
    rw [hInvoices, hExpenses]
    exact ledger.expense posted
  | view hInvoices hExpenses absent hDrawers =>
    rw [hInvoices, hExpenses, hDrawers]
    exact ledger.view absent
  | close key amount closedBy hInvoices hExpenses hDrawers =>
    rw [hInvoices, hExpenses, hDrawers]
    exact ledger.close

theorem ledger_seed (hash : String → String) (clock : Clock) : LedgerHolds (seed hash clock) where
  unique r rMember s sMember _ :=
    (List.mem_singleton.mp rMember).trans (List.mem_singleton.mp sMember).symm
  sales _ member := by cases member
  costs _ member := by cases member
  cash r member := by
    rw [List.mem_singleton.mp member]
    rfl
  spent r member := by
    rw [List.mem_singleton.mp member]
    rfl
  balance r member _ := by
    rw [List.mem_singleton.mp member]
    simp [InBalance]

/-- In every database that a run reaches, the books agree with the drawers. -/
theorem ledger_holds (php : Platform) (hash : String → String) (clock : Clock)
    (events : List Event) : LedgerHolds (afterRun php hash clock events) :=
  afterRun_keeps ledger_seed (fun _ _ _ _ served before => served.ledger_cases.keeps before) hash
    clock events

/-- After any run of requests, a date has at most one drawer row, and one if it has
an invoice or an expense; the row's totals are the sums over them, and its
balance follows from its totals while it is open. -/
theorem drawer_ledger (php : Platform) (hash : String → String) (clock : Clock)
    (events : List Event) (d : SqlVal) :
    let db := afterRun php hash clock events
    (∀ r ∈ db.cashReconciliation.rows, ∀ s ∈ db.cashReconciliation.rows,
      r.cols.reconciliationDate = d → s.cols.reconciliationDate = d → r = s) ∧
    ((∃ i ∈ db.invoices.rows, dateKey i.cols.createdAt.date = d) ∨
        (∃ x ∈ db.expenses.rows, x.cols.expenseDate = d) →
      ∃ r ∈ db.cashReconciliation.rows, r.cols.reconciliationDate = d) ∧
    ∀ r ∈ db.cashReconciliation.rows, r.cols.reconciliationDate = d →
      r.cols.totalCashSales =
        db.invoices.sumOver
          (fun i => dateKey i.cols.createdAt.date = d && i.cols.paymentMethod = "cash")
          (fun i => i.cols.totalAmount) ∧
      r.cols.loggedExpenses =
        db.expenses.sumOver (fun x => x.cols.expenseDate = d) (fun x => x.cols.amount) ∧
      (r.cols.status = "open" → r.cols.closingBalance =
        r.cols.openingCash + r.cols.totalCashSales - r.cols.loggedExpenses) := by
  intro db
  have ledger : LedgerHolds db := ledger_holds php hash clock events
  refine ⟨fun r rMember s sMember left right =>
    ledger.unique r rMember s sMember (left.trans right.symm), ?_, ?_⟩
  · rintro (⟨i, member, day⟩ | ⟨x, member, day⟩)
    · obtain ⟨r, rMember, same⟩ := ledger.sales i member
      exact ⟨r, rMember, same.trans day⟩
    · obtain ⟨r, rMember, same⟩ := ledger.costs x member
      exact ⟨r, rMember, same.trans day⟩
  · intro r member date
    refine ⟨?_, ?_, ledger.balance r member⟩
    · have total := ledger.cash r member
      rw [show cashTally.groupKey r.cols = d from date] at total
      refine total.trans ?_
      rw [← Table.sumOver_ite]
      simp only [decide_eq_true_eq]
      rfl
    · have total := ledger.spent r member
      rwa [show expenseTally.groupKey r.cols = d from date] at total

end Invariant

end Saloon.Guarantees
