import Saloon.Guarantees.Ledger

/-!
# The two revenue figures

The dashboard sums a day's invoices; the day's drawer adds up cash sales and
digital payments as they are posted. A posting to an existing row counts every
method but cash as digital; a posting that opens the row counts only 'digital'.
-/
namespace Saloon.Guarantees

open Lib Source

/-- The dashboard's revenue of a day is what the day's drawer took. -/
def RevenueAgrees (db : Db) : Prop :=
  ∀ day, ∀ r ∈ db.cashReconciliation.rows, r.cols.reconciliationDate = dateKey day →
    Invoice.revenueOn day db = r.cols.totalCashSales + r.cols.digitalPayments

/-- An accepted checkout that opens today's drawer, by a method that the opening row
does not count. -/
def OpensUncounted (php : Platform) (e : Event) (db : Db) : Prop :=
  Accepted php e db ∧
    (∀ r ∈ db.cashReconciliation.rows, isOn (dateKey e.clock.today) r = false) ∧
    (argOr e "payment_method" (.str "")).is "cash" = false ∧
    (argOr e "payment_method" (.str "")).is "digital" = false ∧
    Invoice.total (argOr e "items" (.arr [])).elems ≠ 0

def revenueTally : Tally Invoice CashReconciliation SqlVal Rat where
  entryKey := invoiceDay
  weight := Invoice.totalAmount
  groupKey := drawerKey
  total r := r.totalCashSales + r.digitalPayments

theorem revenueTally_entryKey (i : Invoice) : revenueTally.entryKey i = invoiceDay i := rfl

/-- The invariant behind the two figures. -/
structure RevenueHolds (db : Db) : Prop where
  ledger : LedgerHolds db
  dated : ∀ i ∈ db.invoices.rows, ∃ clock : Clock, i.cols.createdAt = clock.now
  balanced : revenueTally.Balanced db.invoices db.cashReconciliation

section Days

variable {db : Db}

theorem eq_of_dateKey {day : String} {text : String} (same : dateKey day = .text text) :
    text = day := by
  simp only [dateKey, Val.key] at same
  split at same <;> cases same
  rfl

/-- The dashboard's condition on an invoice is that of the drawers. -/
theorem revenueOn_eq (dated : ∀ i ∈ db.invoices.rows, ∃ clock : Clock, i.cols.createdAt = clock.now)
    (day : String) : Invoice.revenueOn day db = revenueTally.sum db.invoices (dateKey day) := by
  refine Table.sumOver_congr _ fun i member => ?_
  obtain ⟨clock, created⟩ := dated i member
  have key : revenueTally.entryKey i.cols = .text clock.today := by
    rw [← dateKey_today, show clock.today = i.cols.createdAt.date by rw [created]; rfl]
    rfl
  rw [key, created, decide_eq_decide]
  constructor
  · rintro rfl
    exact (dateKey_today clock).symm
  · exact fun same => eq_of_dateKey same.symm

theorem RevenueHolds.agrees (holds : RevenueHolds db) : RevenueAgrees db := by
  intro day r member date
  rw [revenueOn_eq holds.dated, ← date]
  exact (holds.balanced r member).symm

end Days

section Postings

variable (m : Val) (amount : Rat) (key : SqlVal)

/-- The update branch counts a sale once, whatever its method. -/
theorem saleUpdate_revenue (r : CashReconciliation) :
    revenueTally.total (saleUpdate m amount r) = revenueTally.total r + amount := by
  unfold saleUpdate
  split
  · simp only [revenueTally, CashReconciliation.addCashSale]
    ring
  · simp only [revenueTally, CashReconciliation.addDigitalPayment]
    ring

/-- The insert branch counts a sale unless its method is a third one. -/
theorem saleOpening_revenue :
    revenueTally.total (saleOpening key m amount) =
      if m.is "cash" ∨ m.is "digital" then amount else 0 := by
  have exclusive : m.is "cash" = true → m.is "digital" = false := by
    cases m <;> simp +contextual [Val.is]
  simp only [revenueTally, saleOpening, openingDrawer]
  by_cases cash : m.is "cash" = true
  · simp [cash, exclusive cash]
  · by_cases digital : m.is "digital" = true <;> simp [cash, digital]

end Postings

section Steps

variable {php : Platform} {e : Event} {db after : Db}

theorem dated_insert {sale : Sale}
    (dated : ∀ i ∈ db.invoices.rows, ∃ clock : Clock, i.cols.createdAt = clock.now) :
    ∀ i ∈ (db.invoices.insert (sale.invoice e.clock)).rows,
      ∃ clock : Clock, i.cols.createdAt = clock.now := by
  intro i member
  rcases Table.mem_insert.mp member with old | rfl
  · exact dated i old
  · exact ⟨e.clock, rfl⟩

/-- A sale that is counted adds its total to the drawer it opens. -/
theorem opening_counts {sale : Sale} (source : SaleOf php e db sale)
    (counted : ¬ OpensUncounted php e db)
    (absent : ∀ r ∈ db.cashReconciliation.rows, isOn (dateKey e.clock.today) r = false) :
    revenueTally.total (saleOpening (dateKey e.clock.today) sale.paymentMethod sale.total) =
      sale.total := by
  rw [saleOpening_revenue]
  split
  · rfl
  · rename_i third
    simp only [not_or, Bool.not_eq_true] at third
    rcases source with ⟨cash, -⟩ | ⟨accepted, method, total, -⟩
    · rw [cash] at third
      cases third.1
    · by_contra nonzero
      rw [total] at nonzero
      rw [method] at third
      exact counted ⟨accepted, absent, third.1, third.2, fun zero => nonzero zero.symm⟩

/-- A request that opens no drawer with an uncounted sale keeps the figures together. -/
theorem LedgerChange.revenue (change : LedgerChange php e db after)
    (counted : ¬ OpensUncounted php e db) (holds : RevenueHolds db) : RevenueHolds after := by
  refine ⟨change.keeps holds.ledger, ?_, ?_⟩
  · cases change with
    | sale sale source hInvoices =>
      rw [hInvoices]
      exact dated_insert holds.dated
    | same hInvoices | expense x hInvoices | view hInvoices | close key amount closedBy hInvoices =>
      rw [hInvoices]
      exact holds.dated
  · cases change with
    | same hInvoices hExpenses hDrawers =>
      rw [hInvoices, hDrawers]
      exact holds.balanced
    | sale sale source hInvoices hExpenses posted =>
      rw [hInvoices]
      have day : invoiceDay (sale.invoice e.clock) = dateKey e.clock.today := rfl
      have entry : revenueTally.entryKey (sale.invoice e.clock) = dateKey e.clock.today :=
        (revenueTally_entryKey _).trans day
      have first := opening_counts source counted
      generalize dateKey e.clock.today = key at posted entry first
      exact posted_balanced posted rfl (saleUpdate_key _ _) (saleOpening_key _ _ _) entry
        (saleUpdate_revenue _ _) first holds.ledger.unique holds.ledger.sales holds.balanced
    | expense x hInvoices hExpenses posted =>
      rw [hInvoices]
      have keeps : ∀ r, drawerKey (CashReconciliation.addExpense x.amount r) = drawerKey r :=
        fun _ => rfl
      have zero : revenueTally.total (Expense.opening x.expenseDate x.amount) = 0 := by
        simp [revenueTally, Expense.opening, openingDrawer]
      exact posted_balanced_other posted rfl keeps rfl (fun _ => rfl) zero holds.ledger.sales
        holds.balanced
    | view hInvoices hExpenses absent hDrawers =>
      rw [hInvoices, hDrawers]
      have off : ∀ r ∈ db.cashReconciliation.rows, drawerKey r.cols ≠ dateKey e.clock.today :=
        fun r member => key_ne_of_isOn (absent r member)
      generalize dateKey e.clock.today = key at off
      have zero : revenueTally.total (openingDrawer key 0 0 0 200) = 0 := add_zero 0
      exact holds.balanced.groups_insert zero (holds.ledger.sales.no_entries off)
    | close key amount closedBy hInvoices hExpenses hDrawers =>
      rw [hInvoices, hDrawers]
      exact holds.balanced.groups_modify (fun _ => rfl) fun _ => rfl

/-- An uncounted sale that opens the drawer is in the dashboard's revenue alone. -/
theorem uncounted_disagrees (opens : OpensUncounted php e db) (holds : RevenueHolds db) :
    ¬ RevenueAgrees (request php e db) := by
  obtain ⟨accepted, absent, notCash, notDigital, nonzero⟩ := opens
  obtain ⟨payload, invoiceId, done⟩ := serve_accepted accepted
  obtain ⟨sale, drawers, -, charged, post⟩ := Invoice.checkoutStatements_eq_ok done
  rw [request, post]
  have opened : drawers = db.cashReconciliation.insert
      (saleOpening (dateKey e.clock.today) (argOr e "payment_method" (.str "")) sale.total) := by
    rcases charged.drawer with ⟨r, member, isOpen, -⟩ | ⟨-, inserted⟩
    · have on := isOn_of_isOpenOn isOpen
      rw [absent r member] at on
      cases on
    · exact inserted
  have figure : Invoice.revenueOn e.clock.today (sale.post e.clock drawers db) = sale.total := by
    have day : invoiceDay (sale.invoice e.clock) = dateKey e.clock.today := rfl
    have entry : revenueTally.entryKey (sale.invoice e.clock) = dateKey e.clock.today :=
      (revenueTally_entryKey _).trans day
    have none := holds.ledger.sales.no_entries fun r member => key_ne_of_isOn (absent r member)
    have dated : ∀ i ∈ (sale.post e.clock drawers db).invoices.rows,
        ∃ clock : Clock, i.cols.createdAt = clock.now := dated_insert holds.dated
    rw [revenueOn_eq dated, ← entry]
    refine (Tally.sum_insert_self _).trans ?_
    rw [Tally.sum_eq_zero (entry ▸ none), zero_add]
    rfl
  have drawer : revenueTally.total (saleOpening (dateKey e.clock.today)
      (argOr e "payment_method" (.str "")) sale.total) = 0 := by
    simp [saleOpening_revenue, notCash, notDigital]
  intro agrees
  have member : (⟨db.cashReconciliation.nextId, saleOpening (dateKey e.clock.today)
      (argOr e "payment_method" (.str "")) sale.total⟩ : Row CashReconciliation) ∈
        (sale.post e.clock drawers db).cashReconciliation.rows := by
    rw [show (sale.post e.clock drawers db).cashReconciliation = drawers from rfl, opened]
    exact Table.mem_insert_self _ _
  have row := agrees e.clock.today _ member (saleOpening_date _ _ _)
  exact nonzero (charged.total.symm.trans (figure.symm.trans (row.trans drawer)))

end Steps

theorem revenue_seed (hash : String → String) (clock : Clock) : RevenueHolds (seed hash clock) where
  ledger := ledger_seed hash clock
  dated _ member := by cases member
  balanced r member := by
    rw [List.mem_singleton.mp member]
    exact (add_zero 0).trans (Tally.sum_eq_zero fun i none => by cases none).symm

/-- The two revenue figures agree for every day in every state of a run exactly when no
accepted checkout of the run opens the day's drawer with a sale by a third method. -/
theorem revenue_agrees_iff (php : Platform) (hash : String → String) (clock : Clock)
    (events : List Event) :
    (∀ first, first <+: events → RevenueAgrees (afterRun php hash clock first)) ↔
      Along (request php) (fun e db => ¬ OpensUncounted php e db) (seed hash clock) events :=
  always_iff_along (fun _ => RevenueHolds.agrees)
    (fun e db counted holds => (serve_served php e db).ledger_cases.revenue counted holds)
    (fun _ _ uncounted holds => uncounted_disagrees (not_not.mp uncounted) holds)
    (revenue_seed hash clock) events

/-- One in the morning of the next day, before anyone looked at its drawer. -/
def nextDay : Clock := ⟨1781139600, by decide, by decide⟩

def cardSale : Event := adminRequestAt nextDay "checkout" "POST"
  [("payment_method", .str "card"),
    ("items", .list [.arr [("item_type", .str "product"), ("item_id", .int 1),
      ("quantity", .int 1), ("price", .int 18)]])]

/-- The first sale of the next day is by card: the dashboard shows it, the drawer does not. -/
theorem card_opens_day :
    ¬ ∀ events, RevenueAgrees (afterRun recorded (fun _ => adminHash) morning events) := by
  intro agrees
  have differs : ∃ r ∈ (afterRun recorded (fun _ => adminHash) morning
      [cardSale]).cashReconciliation.rows, r.cols.reconciliationDate = dateKey "2026-06-11" ∧
        Invoice.revenueOn "2026-06-11" (afterRun recorded (fun _ => adminHash) morning [cardSale]) ≠
          r.cols.totalCashSales + r.cols.digitalPayments := by decide +kernel
  obtain ⟨r, member, date, differ⟩ := differs
  exact differ (agrees [cardSale] "2026-06-11" r member date)

end Saloon.Guarantees
