import Saloon.Guarantees.Ledger

/-!
# A closed day is frozen

Nothing in the code asks whether a day is closed. A posting to its drawer finds
no open row, tries to insert one, and meets the UNIQUE date; the transaction
takes everything else back with it.
-/
namespace Saloon.Guarantees

open Lib Source

section Closed

variable {key : SqlVal} {t u : Table CashReconciliation} {r : Row CashReconciliation}

/-- A closed row of a date keeps every posting to that date out. -/
theorem not_posted (unique : UniqueKey drawerKey t) (member : r ∈ t.rows)
    (date : drawerKey r.cols = key) (closed : r.cols.status = "closed")
    {f : CashReconciliation → CashReconciliation} {fresh : CashReconciliation} :
    ¬ PostedOn key f fresh t u := by
  rintro (⟨s, sMember, isOpen, -⟩ | ⟨absent, -⟩)
  · have same : r = s :=
      unique r member s sMember (date.trans (isOn_iff.mp (isOn_of_isOpenOn isOpen)).symm)
    subst same
    simp [isOpenOn, closed] at isOpen
  · have on := isOn_iff.mpr date
    rw [absent r member] at on
    cases on

/-- A posting to another date leaves a closed row where it is. -/
theorem mem_of_posted (member : r ∈ t.rows) (closed : r.cols.status = "closed")
    {f : CashReconciliation → CashReconciliation} {fresh : CashReconciliation}
    (posted : PostedOn key f fresh t u) : r ∈ u.rows := by
  rcases posted with ⟨s, sMember, isOpen, rfl⟩ | ⟨-, rfl⟩
  · have other : r.id ≠ s.id := by
      intro same
      obtain rfl := t.eq_of_id_eq member sMember same
      simp [isOpenOn, closed] at isOpen
    exact Table.mem_modify.mpr ⟨r, member, by simp [other]⟩
  · exact Table.mem_insert.mpr (.inl member)

end Closed

/-- Since `base` the closed row has stood still, and its date has got no invoice or expense. -/
structure Frozen (base : Db) (r : Row CashReconciliation) (db : Db) : Prop where
  ledger : LedgerHolds db
  row : r ∈ db.cashReconciliation.rows
  invoices : ∀ i ∈ db.invoices.rows, invoiceDay i.cols = drawerKey r.cols → i ∈ base.invoices.rows
  expenses : ∀ x ∈ db.expenses.rows, x.cols.expenseDate = drawerKey r.cols → x ∈ base.expenses.rows

theorem LedgerChange.frozen {php : Platform} {e : Event} {base db after : Db}
    {r : Row CashReconciliation} (change : LedgerChange php e db after) (closed : r.cols.status = "closed")
    (frozen : Frozen base r db) : Frozen base r after := by
  refine ⟨change.keeps frozen.ledger, ?_, ?_, ?_⟩
  · cases change with
    | same hInvoices hExpenses hDrawers =>
      rw [hDrawers]
      exact frozen.row
    | sale sale source hInvoices hExpenses posted => exact mem_of_posted frozen.row closed posted
    | expense x hInvoices hExpenses posted => exact mem_of_posted frozen.row closed posted
    | view hInvoices hExpenses absent hDrawers =>
      rw [hDrawers]
      exact Table.mem_insert.mpr (.inl frozen.row)
    | close key amount closedBy hInvoices hExpenses hDrawers =>
      rw [hDrawers]
      exact Table.mem_modify.mpr ⟨r, frozen.row, by simp [isOpenOn, closed]⟩
  · cases change with
    | sale sale source hInvoices hExpenses posted =>
      rw [hInvoices]
      intro i member day
      rcases Table.mem_insert.mp member with old | rfl
      · exact frozen.invoices i old day
      · exact absurd posted (not_posted frozen.ledger.unique frozen.row day.symm closed)
    | same hInvoices | expense x hInvoices | view hInvoices | close key amount closedBy hInvoices =>
      rw [hInvoices]
      exact frozen.invoices
  · cases change with
    | expense x hInvoices hExpenses posted =>
      rw [hExpenses]
      intro y member day
      rcases Table.mem_insert.mp member with old | rfl
      · exact frozen.expenses y old day
      · exact absurd posted (not_posted frozen.ledger.unique frozen.row day.symm closed)
    | same _ hExpenses | sale _ _ _ hExpenses | view _ hExpenses | close _ _ _ _ hExpenses =>
      rw [hExpenses]
      exact frozen.expenses

section Refusals

/-! A request that is refused, with what it leaves. -/

variable {Q : Db → Prop} {s : Session} {α : Type}

/-- The response is not 200, and the closed session leaves a database with `Q`. -/
def Refused (Q : Db → Prop) (outcome : Except Stop Unit × Session) : Prop :=
  (responseOf outcome.1).status ≠ 200 ∧ Q outcome.2.close

theorem refused_of_handle {env : Env} {roles : List Role} {k : Val → Php Unit} (same : Q s.close)
    (passed : ∀ payload, AuthMiddleware.check env.php env.clock env.headers roles = .ok payload →
      Refused Q (k payload { s with user := some payload })) :
    Refused Q ((env.handle roles >>= k) s) := by
  rcases handle_cases env roles s with ⟨response, error, run⟩ | ⟨payload, checked, run⟩
  · rw [Prog.bind_of_error run]
    exact ⟨error, same⟩
  · rw [Prog.bind_of_ok run]
    exact passed payload checked

theorem refused_of_ite {c : Prop} [Decidable c] {x y : Php Unit} (yes : c → Refused Q (x s))
    (no : ¬ c → Refused Q (y s)) : Refused Q ((if c then x else y) s) := by
  split
  · exact yes ‹_›
  · exact no ‹_›

/-- What a model throws becomes a 400 or a 500. -/
theorem refused_of_attempt {x : Php α} {answer : α → Val} {thrown : Thrown} {t : Session}
    (threw : x s = (.error (.thrown thrown), t)) (ends : Q t.close) :
    Refused Q (attempt x answer s) := by
  have run : (x >>= fun a => (json (answer a) 200 : Php Unit)) s = (.error (.thrown thrown), t) :=
    Prog.bind_of_error threw
  rw [attempt, catchException, run]
  cases thrown with
  | exception m => exact ⟨by simp [responseOf, json, Prog.stop], ends⟩
  | error m => exact ⟨by simp [responseOf], ends⟩

theorem refused_of_transaction {statements : Sql α} {answer : α → Val} (idle : s.saved = none)
    (fails : ∀ a db, statements s.db ≠ (.ok a, db)) (same : Q s.db) :
    Refused Q (attempt (transaction statements) answer s) := by
  rcases outcome : transaction statements s with ⟨why | a, t⟩
  · obtain ⟨⟨thrown, rfl⟩, closed⟩ := transaction_failed idle outcome
    exact refused_of_attempt outcome (closed ▸ same)
  · obtain ⟨db, done, -⟩ := (transaction_eq_ok idle).mp outcome
    exact absurd done (fails a db)

end Refusals

section Requests

variable {php : Platform} {e : Event} {db : Db} {r : Row CashReconciliation}

/-- A closed day accepts no statements of a checkout. -/
theorem checkoutStatements_refused {clock : Clock}
    {clientId loggedById paymentMethod items appointmentId : Val} (ledger : LedgerHolds db)
    (member : r ∈ db.cashReconciliation.rows) (date : drawerKey r.cols = dateKey clock.today)
    (closed : r.cols.status = "closed") (invoiceId : Nat) (after : Db) :
    Invoice.checkoutStatements clock clientId loggedById paymentMethod items appointmentId db ≠
      (.ok invoiceId, after) := by
  intro success
  obtain ⟨sale, drawers, -, charged, -⟩ := Invoice.checkoutStatements_eq_ok success
  exact not_posted ledger.unique member date closed charged.drawer

theorem checkout_refused (asked : Asks e "checkout" ["POST"]) (ledger : LedgerHolds db)
    (member : r ∈ db.cashReconciliation.rows) (date : drawerKey r.cols = dateKey e.clock.today)
    (closed : r.cols.status = "closed") :
    (serve php e db).response.status ≠ 200 ∧ (serve php e db).db = db := by
  have refused : Refused (· = db) (index php e (.start db)) := by
    rw [index_checkout asked]
    refine refused_of_handle rfl fun payload _ => ?_
    refine refused_of_ite (fun _ => ⟨by simp [responseOf, json, Prog.stop], rfl⟩) fun _ => ?_
    exact refused_of_transaction rfl (checkoutStatements_refused ledger member date closed) rfl
  exact refused

theorem expense_refused (asked : Asks e "expenses" ["POST"]) (ledger : LedgerHolds db)
    (member : r ∈ db.cashReconciliation.rows) (date : drawerKey r.cols = (expenseDateOf e).key)
    (closed : r.cols.status = "closed") :
    (serve php e db).response.status ≠ 200 ∧ (serve php e db).db = db := by
  have refused : Refused (· = db) (index php e (.start db)) := by
    rw [index_expense asked]
    refine refused_of_handle rfl fun payload _ => ?_
    refine refused_of_ite (fun _ => ⟨by simp [responseOf, json, Prog.stop], rfl⟩) fun _ => ?_
    refine refused_of_transaction rfl (fun expenseId after success => ?_) rfl
    obtain ⟨loggedBy, drawers, -, posted, -⟩ := Expense.createStatements_eq_ok success
    exact not_posted ledger.unique member date closed posted
  exact refused

/-- The tables of the books: all but appointments, staff, users and services. -/
def SameBooks (db after : Db) : Prop :=
  after.invoices = db.invoices ∧ after.invoiceItems = db.invoiceItems ∧
    after.clients = db.clients ∧ after.products = db.products ∧ after.expenses = db.expenses ∧
    after.cashReconciliation = db.cashReconciliation

theorem completion_refused (asked : Asks e "appointments_update" ["POST", "PUT"])
    (completed : (statusOf e).is "completed" = true)
    (pending : Appointment.toBill (arg e "id").key db ≠ none) (ledger : LedgerHolds db)
    (member : r ∈ db.cashReconciliation.rows) (date : drawerKey r.cols = dateKey e.clock.today)
    (closed : r.cols.status = "closed") :
    (serve php e db).response.status ≠ 200 ∧ SameBooks db (serve php e db).db := by
  have same : SameBooks db db := ⟨rfl, rfl, rfl, rfl, rfl, rfl⟩
  have refused : Refused (SameBooks db) (index php e (.start db)) := by
    rw [index_statusUpdate asked]
    refine refused_of_handle same fun payload _ => ?_
    refine refused_of_ite (fun _ => ⟨by simp [responseOf, json, Prog.stop], same⟩) fun _ => ?_
    refine refused_of_ite (fun _ => ⟨by simp [responseOf, json, Prog.stop], same⟩) fun _ => ?_
    cases found : Appointment.assigned (arg e "id").key db with
    | none =>
      exact refused_of_attempt (Appointment.updateStatus_run_missing e.clock (arg e "id")
        (statusOf e) (payload.field "id") (entered db payload) rfl found) same
    | some staffId =>
      obtain ⟨apt, pending⟩ := Option.ne_none_iff_exists'.mp pending
      rw [← Appointment.toBill_mark _ (statusOf e) staffId] at pending
      rcases billed : billOf e payload apt (Appointment.mark (arg e "id") (statusOf e) staffId db)
        with ⟨why | invoiceId, after⟩
      · obtain ⟨thrown, t, outcome, ends, -⟩ := Appointment.updateStatus_unbilled _ _ _ _
          (entered db payload) rfl found completed pending billed
        refine refused_of_attempt outcome ?_
        rw [ends]
        exact ⟨rfl, rfl, rfl, rfl, rfl, rfl⟩
      · have ledger' : LedgerHolds (Appointment.mark (arg e "id") (statusOf e) staffId db) := ledger
        exact absurd billed (checkoutStatements_refused ledger' member date closed invoiceId after)
  exact refused

/-- The request would post to the books of that date. -/
def PostsTo (e : Event) (d : SqlVal) (db : Db) : Prop :=
  Asks e "checkout" ["POST"] ∧ dateKey e.clock.today = d ∨
    Asks e "expenses" ["POST"] ∧ (expenseDateOf e).key = d ∨
    Asks e "appointments_update" ["POST", "PUT"] ∧ (statusOf e).is "completed" = true ∧
      Appointment.toBill (arg e "id").key db ≠ none ∧ dateKey e.clock.today = d

theorem posting_refused {d : SqlVal} (posts : PostsTo e d db) (ledger : LedgerHolds db)
    (member : r ∈ db.cashReconciliation.rows) (date : drawerKey r.cols = d)
    (closed : r.cols.status = "closed") :
    (serve php e db).response.status ≠ 200 ∧ SameBooks db (serve php e db).db := by
  rcases posts with ⟨asked, rfl⟩ | ⟨asked, rfl⟩ | ⟨asked, completed, pending, rfl⟩
  · obtain ⟨status, same⟩ := checkout_refused asked ledger member date closed
    exact ⟨status, by rw [same]; exact ⟨rfl, rfl, rfl, rfl, rfl, rfl⟩⟩
  · obtain ⟨status, same⟩ := expense_refused asked ledger member date closed
    exact ⟨status, by rw [same]; exact ⟨rfl, rfl, rfl, rfl, rfl, rfl⟩⟩
  · exact completion_refused asked completed pending ledger member date closed

end Requests

/-- From the moment a run has closed the drawer of a date, every further run leaves
the row as it is and adds no invoice and no expense of that date; a request that
would post to the date is answered with an error and leaves the books alone. -/
theorem closed_day_frozen (php : Platform) (hash : String → String) (clock : Clock)
    (events : List Event) (d : SqlVal) (r : Row CashReconciliation)
    (member : r ∈ (afterRun php hash clock events).cashReconciliation.rows)
    (date : r.cols.reconciliationDate = d) (closed : r.cols.status = "closed")
    (later : List Event) :
    let before := afterRun php hash clock events
    let after := afterRun php hash clock (events ++ later)
    r ∈ after.cashReconciliation.rows ∧
    (∀ i ∈ after.invoices.rows, dateKey i.cols.createdAt.date = d → i ∈ before.invoices.rows) ∧
    (∀ x ∈ after.expenses.rows, x.cols.expenseDate = d → x ∈ before.expenses.rows) ∧
    ∀ e, PostsTo e d after →
      (serve php e after).response.status ≠ 200 ∧ SameBooks after (serve php e after).db := by
  intro before after
  have start : Frozen before r before :=
    ⟨ledger_holds php hash clock events, member, fun _ present _ => present,
      fun _ present _ => present⟩
  have frozen : Frozen before r after := by
    rw [show after = run (request php) before later from afterRun_append _ _ _ _ _]
    exact run_keeps (fun e db kept => (serve_served php e db).ledger_cases.frozen closed kept)
      start later
  refine ⟨frozen.row, fun i present day => frozen.invoices i present (day.trans date.symm),
    fun x present day => frozen.expenses x present (day.trans date.symm), fun e posts => ?_⟩
  exact posting_refused posts frozen.ledger frozen.row date closed

/-- The administrator closes the drawer of the seeded morning. -/
def closeMorning : Event := adminRequest "reconciliation_close" "POST" [("closing_balance", .int 200)]

def sellWax : Event := adminRequest "checkout" "POST"
  [("payment_method", .str "cash"),
    ("items", .list [.arr [("item_type", .str "product"), ("item_id", .int 1),
      ("quantity", .int 1), ("price", .int 18)]])]

def morningClosed : Row CashReconciliation where
  id := 1
  cols := CashReconciliation.close 200 (some 1) ⟨"2026-06-10", "08:00:00"⟩
    (openingDrawer (.text "2026-06-10") 0 0 0 200)

/-- An expense of the next day. -/
def buyTowels : Event := adminRequest "expenses" "POST"
  [("category", .str "Salon Supplies"), ("amount", .int 30), ("description", .str "Towels"),
    ("expense_date", .str "2026-06-11")]

/-- A sale that is refused and an expense of another day later, the row stands and a sale on
the closed morning is still refused. -/
theorem morning_frozen :
    (afterRun recorded (fun _ => adminHash) morning
        ([closeMorning] ++ [sellWax, buyTowels])).expenses.rows.length = 1 ∧
      morningClosed ∈ (afterRun recorded (fun _ => adminHash) morning
        ([closeMorning] ++ [sellWax, buyTowels])).cashReconciliation.rows ∧
      (serve recorded sellWax (afterRun recorded (fun _ => adminHash) morning
        ([closeMorning] ++ [sellWax, buyTowels]))).response.status ≠ 200 := by
  have frozen := closed_day_frozen recorded (fun _ => adminHash) morning [closeMorning]
    (.text "2026-06-10") morningClosed (by decide +kernel) rfl rfl [sellWax, buyTowels]
  refine ⟨by decide +kernel, frozen.1, ?_⟩
  exact (frozen.2.2.2 sellWax (.inl ⟨⟨rfl, by decide⟩, by decide +kernel⟩)).1

end Saloon.Guarantees
