import Saloon.Source.Session

/-!
# The cash drawer: reconciliations and expenses

`models/Reconciliation.php:16-51`, `models/Expense.php:16-69`, and the posting of a sale
to today's drawer, step 4 of `Invoice::createCheckout` (`models/Invoice.php:105-149`). A
date has one row by the UNIQUE column; an INSERT for a date that has one fails.
-/
namespace Saloon.Source

open Lib

/-- `reconciliation_date = :date AND status = 'open'`. -/
def isOpenOn (key : SqlVal) (r : Row CashReconciliation) : Bool :=
  r.cols.reconciliationDate = key && r.cols.status = "open"

def isOn (key : SqlVal) (r : Row CashReconciliation) : Bool := r.cols.reconciliationDate = key

def openDrawer (key : SqlVal) (db : Db) : Option (Row CashReconciliation) :=
  db.cashReconciliation.find? (isOpenOn key)

/-- INSERT under the UNIQUE date. -/
def insertDrawer (row : CashReconciliation) : Sql Unit := fun db =>
  if db.cashReconciliation.rows.any (isOn row.reconciliationDate) then
    (.error (uniqueFailed "cash_reconciliation.reconciliation_date"), db)
  else (.ok (), db.setCashReconciliation (db.cashReconciliation.insert row))

/-- UPDATE of one row by its id. -/
def updateDrawer (id : Nat) (f : CashReconciliation → CashReconciliation) : Sql Unit :=
  .update fun db =>
    db.setCashReconciliation (db.cashReconciliation.modify (fun r => r.id = id) f)

/-- The row that an INSERT for a date without one makes. -/
def openingDrawer (key : SqlVal) (cash digital expenses closing : Rat) : CashReconciliation where
  reconciliationDate := key
  openingCash := 200
  totalCashSales := cash
  digitalPayments := digital
  loggedExpenses := expenses
  closingBalance := closing
  status := "open"
  closedBy := none
  closedAt := none

namespace CashReconciliation

def addCashSale (amount : Rat) (r : CashReconciliation) : CashReconciliation :=
  { r with
    totalCashSales := r.totalCashSales + amount
    closingBalance := r.closingBalance + amount }

def addDigitalPayment (amount : Rat) (r : CashReconciliation) : CashReconciliation :=
  { r with digitalPayments := r.digitalPayments + amount }

def addExpense (amount : Rat) (r : CashReconciliation) : CashReconciliation :=
  { r with
    loggedExpenses := r.loggedExpenses + amount
    closingBalance := r.closingBalance - amount }

def close (closingBalance : Rat) (closedBy : Option Nat) (now : DateTime)
    (r : CashReconciliation) : CashReconciliation :=
  { r with closingBalance, status := "closed", closedBy, closedAt := some now }

end CashReconciliation

/-- A posting to the drawer of a date: UPDATE its open row by `f`, or else INSERT
`fresh`, which is refused when the date has a row that is not open. -/
def postOn (key : SqlVal) (f : CashReconciliation → CashReconciliation)
    (fresh : CashReconciliation) : Sql Unit := do
  let recon ← .read (openDrawer key)
  match recon with
  | some recon => updateDrawer recon.id f
  | none => insertDrawer fresh

/-- The update branch of a sale: it is cash, or else digital. -/
def saleUpdate (paymentMethod : Val) (totalAmount : Rat) :
    CashReconciliation → CashReconciliation :=
  if paymentMethod.is "cash" then .addCashSale totalAmount else .addDigitalPayment totalAmount

/-- The insert branch of a sale: only 'digital' counts as digital. -/
def saleOpening (key : SqlVal) (paymentMethod : Val) (totalAmount : Rat) : CashReconciliation :=
  let cashSales := if paymentMethod.is "cash" then totalAmount else 0
  let digitalSales := if paymentMethod.is "digital" then totalAmount else 0
  openingDrawer key cashSales digitalSales 0 (200 + cashSales)

/-- `createCheckout`, "4. Update Cash Reconciliation for Today". -/
def postToDrawer (clock : Clock) (paymentMethod : Val) (totalAmount : Rat) : Sql Unit :=
  postOn (dateKey clock.today) (saleUpdate paymentMethod totalAmount)
    (saleOpening (dateKey clock.today) paymentMethod totalAmount)

namespace Expense

/-- INSERT INTO expenses. -/
def insert (clock : Clock) (category : Val) (amount : Rat)
    (description expenseDate loggedBy : Val) : Sql Nat := fun db =>
  if expenseDate.key = .null then (.error (notNullFailed "expenses.expense_date"), db)
  else
    match foreignKey db.users loggedBy.key with
    | some (some user) =>
      (.ok db.expenses.nextId,
        db.setExpenses (db.expenses.insert
          { category := category.strval
            amount
            description := description.strval
            expenseDate := expenseDate.key
            loggedBy := user
            createdAt := clock.now }))
    | some none => (.error (notNullFailed "expenses.logged_by"), db)
    | none => (.error foreignKeyFailed, db)

/-- The drawer row that an expense opens a date with. -/
def opening (key : SqlVal) (amount : Rat) : CashReconciliation :=
  openingDrawer key 0 0 amount (200 - amount)

def createStatements (clock : Clock) (category : Val) (amount : Rat)
    (description expenseDate loggedBy : Val) : Sql Nat := do
  let expenseId ← insert clock category amount description expenseDate loggedBy
  postOn expenseDate.key (.addExpense amount) (opening expenseDate.key amount)
  pure expenseId

def create (clock : Clock) (category : Val) (amount : Rat)
    (description expenseDate loggedBy : Val) : Php Nat :=
  transaction (createStatements clock category amount description expenseDate loggedBy)

end Expense

namespace Reconciliation

/-- `getTodayStatus`: a day without a drawer gets one. -/
def getTodayStatus (clock : Clock) : Sql (Option (Row CashReconciliation)) := do
  let recon ← .read fun db => db.cashReconciliation.find? (isOn (dateKey clock.today))
  match recon with
  | some recon => pure (some recon)
  | none => do
    insertDrawer (openingDrawer (dateKey clock.today) 0 0 0 200)
    .read fun db => db.cashReconciliation.find? (isOn (dateKey clock.today))

/-- `closeDrawer`: the statement succeeds whether or not it meets an open row. -/
def closeDrawer (clock : Clock) (date : Val) (closingBalance : Rat) (closedById : Val) :
    Sql Bool := fun db =>
  if db.cashReconciliation.rows.any (isOpenOn date.key) then
    match foreignKey db.users closedById.key with
    | some closedBy =>
      (.ok true,
        db.setCashReconciliation (db.cashReconciliation.modify (isOpenOn date.key)
          (.close closingBalance closedBy clock.now)))
    | none => (.error foreignKeyFailed, db)
  else (.ok true, db)

end Reconciliation

section Specs

/-- What a posting that went through did to the drawers: it changed the open row
of its date, or there was no row of that date and now there is one. -/
def PostedOn (key : SqlVal) (f : CashReconciliation → CashReconciliation)
    (fresh : CashReconciliation) (t u : Table CashReconciliation) : Prop :=
  (∃ r ∈ t.rows, isOpenOn key r = true ∧ u = t.modify (fun s => s.id = r.id) f) ∨
    ((∀ r ∈ t.rows, isOn key r = false) ∧ u = t.insert fresh)

theorem isOn_of_isOpenOn {key : SqlVal} {r : Row CashReconciliation}
    (isOpen : isOpenOn key r = true) : isOn key r = true := by
  simp only [isOpenOn, Bool.and_eq_true] at isOpen
  exact isOpen.1

theorem insertDrawer_run (row : CashReconciliation) (db : Db) :
    insertDrawer row db =
      if ∃ r ∈ db.cashReconciliation.rows, isOn row.reconciliationDate r = true then
        (.error (uniqueFailed "cash_reconciliation.reconciliation_date"), db)
      else (.ok (), db.setCashReconciliation (db.cashReconciliation.insert row)) := by
  simp only [insertDrawer, List.any_eq_true]

/-- A posting goes through exactly as `PostedOn` says. -/
theorem postOn_eq_ok {key : SqlVal} {f : CashReconciliation → CashReconciliation}
    {fresh : CashReconciliation} {db after : Db} (date : fresh.reconciliationDate = key)
    (success : postOn key f fresh db = (.ok (), after)) :
    ∃ u, PostedOn key f fresh db.cashReconciliation u ∧
      after = db.setCashReconciliation u := by
  rw [postOn, Prog.read_bind_run] at success
  cases found : openDrawer key db with
  | some r =>
    rw [found] at success
    obtain ⟨member, isOpen⟩ := Table.mem_of_find? found
    cases success
    exact ⟨_, .inl ⟨r, member, isOpen, rfl⟩, rfl⟩
  | none =>
    rw [found] at success
    simp only [insertDrawer_run, date] at success
    split at success
    · cases success
    · rename_i absent
      cases success
      refine ⟨_, .inr ⟨fun r member => ?_, rfl⟩, rfl⟩
      simpa using fun on => absent ⟨r, member, on⟩

theorem openingDrawer_date (key : SqlVal) (cash digital expenses closing : Rat) :
    (openingDrawer key cash digital expenses closing).reconciliationDate = key := rfl

theorem Expense.opening_date (key : SqlVal) (amount : Rat) :
    (opening key amount).reconciliationDate = key := rfl

theorem saleUpdate_status (paymentMethod : Val) (totalAmount : Rat) (r : CashReconciliation) :
    (saleUpdate paymentMethod totalAmount r).status = r.status := by
  unfold saleUpdate
  split <;> rfl

theorem saleOpening_date (key : SqlVal) (paymentMethod : Val) (totalAmount : Rat) :
    (saleOpening key paymentMethod totalAmount).reconciliationDate = key := rfl

/-- The drawers take a posting to that date: it has an open row, or no row. -/
def Accepting (key : SqlVal) (t : Table CashReconciliation) : Prop :=
  (∃ r ∈ t.rows, isOpenOn key r = true) ∨ ∀ r ∈ t.rows, isOn key r = false

theorem accepting_of_posted {key : SqlVal} {f : CashReconciliation → CashReconciliation}
    {fresh : CashReconciliation} {t u : Table CashReconciliation}
    (posted : PostedOn key f fresh t u) : Accepting key t := by
  rcases posted with ⟨r, member, isOpen, -⟩ | ⟨absent, -⟩
  · exact .inl ⟨r, member, isOpen⟩
  · exact .inr absent

theorem postOn_accepts {key : SqlVal} {f : CashReconciliation → CashReconciliation}
    {fresh : CashReconciliation} {db : Db} (date : fresh.reconciliationDate = key)
    (accepting : Accepting key db.cashReconciliation) :
    ∃ after, postOn key f fresh db = (.ok (), after) := by
  rw [postOn, Prog.read_bind_run]
  cases found : openDrawer key db with
  | some r => exact ⟨_, rfl⟩
  | none =>
    have absent : ¬ ∃ r ∈ db.cashReconciliation.rows, isOn key r = true := by
      rintro ⟨s, sMember, on⟩
      rcases accepting with ⟨r, member, isOpen⟩ | none
      · rw [Table.find?_eq_none.mp found r member] at isOpen
        cases isOpen
      · rw [none s sMember] at on
        cases on
    refine ⟨db.setCashReconciliation (db.cashReconciliation.insert fresh), ?_⟩
    simp only [insertDrawer_run, date, if_neg absent]

/-- An expense that went through is one new row and one posting to its date. -/
theorem Expense.createStatements_eq_ok {clock : Clock}
    {category description expenseDate loggedBy : Val} {amount : Rat} {expenseId : Nat}
    {db after : Db}
    (success : createStatements clock category amount description expenseDate loggedBy db =
      (.ok expenseId, after)) :
    ∃ user drawers, foreignKey db.users loggedBy.key = some (some user) ∧
      PostedOn expenseDate.key (.addExpense amount) (opening expenseDate.key amount)
        db.cashReconciliation drawers ∧
      after = (db.setExpenses (db.expenses.insert
        ⟨category.strval, amount, description.strval, expenseDate.key, user, clock.now⟩)
        ).setCashReconciliation drawers := by
  obtain ⟨newId, mid, inserted, rest⟩ := Prog.bind_eq_ok.mp success
  obtain ⟨_, final, posted, returned⟩ := Prog.bind_eq_ok.mp rest
  obtain ⟨drawers, hDrawers, hFinal⟩ := postOn_eq_ok (Expense.opening_date _ _) posted
  have last : final = after := congrArg Prod.snd returned
  unfold insert at inserted
  split at inserted
  · cases inserted
  · split at inserted
    · rename_i user hUser
      have expensed := congrArg Prod.snd inserted
      dsimp only at expensed
      rw [← expensed] at hDrawers hFinal
      exact ⟨user, drawers, hUser, hDrawers, last ▸ hFinal⟩
    · cases inserted
    · cases inserted

namespace Reconciliation

/-- Looking at today's drawer never fails, and opens one where there is none. -/
theorem getTodayStatus_run (clock : Clock) (db : Db) :
    ∃ r, getTodayStatus clock db =
      (.ok r,
        if ∃ r ∈ db.cashReconciliation.rows, isOn (dateKey clock.today) r = true then db
        else db.setCashReconciliation
          (db.cashReconciliation.insert (openingDrawer (dateKey clock.today) 0 0 0 200))) := by
  rw [getTodayStatus, Prog.read_bind_run]
  cases found : db.cashReconciliation.find? (isOn (dateKey clock.today)) with
  | some r =>
    obtain ⟨member, on⟩ := Table.mem_of_find? found
    rw [if_pos ⟨r, member, on⟩]
    exact ⟨some r, rfl⟩
  | none =>
    have absent : ¬ ∃ r ∈ db.cashReconciliation.rows, isOn (dateKey clock.today) r = true := by
      rintro ⟨r, member, on⟩
      simp [Table.find?_eq_none.mp found r member] at on
    have inserted := insertDrawer_run (openingDrawer (dateKey clock.today) 0 0 0 200) db
    rw [openingDrawer_date, if_neg absent] at inserted
    rw [if_neg absent]
    exact ⟨_, Prog.bind_of_ok inserted⟩

/-- Viewing the drawer touches the drawers only. -/
theorem getTodayStatus_frame (clock : Clock) (db : Db) :
    ∃ drawers, (getTodayStatus clock db).2 = db.setCashReconciliation drawers := by
  obtain ⟨r, viewed⟩ := getTodayStatus_run clock db
  rw [viewed]
  dsimp only
  split
  · exact ⟨db.cashReconciliation, rfl⟩
  · exact ⟨_, rfl⟩

/-- A close either meets no open row, or closes the rows it meets for a user that exists. -/
theorem closeDrawer_run (clock : Clock) (date : Val) (closingBalance : Rat) (closedById : Val)
    (db : Db) :
    (closeDrawer clock date closingBalance closedById db).2 = db ∨
      ∃ closedBy, foreignKey db.users closedById.key = some closedBy ∧
        closeDrawer clock date closingBalance closedById db =
          (.ok true, db.setCashReconciliation (db.cashReconciliation.modify (isOpenOn date.key)
            (.close closingBalance closedBy clock.now))) := by
  unfold closeDrawer
  split
  · split
    · rename_i closedBy found
      exact .inr ⟨closedBy, found, rfl⟩
    · exact .inl rfl
  · exact .inl rfl

/-- A close touches the drawers only. -/
theorem closeDrawer_frame (clock : Clock) (date : Val) (closingBalance : Rat) (closedById : Val)
    (db : Db) :
    ∃ drawers, (closeDrawer clock date closingBalance closedById db).2 =
      db.setCashReconciliation drawers := by
  rcases closeDrawer_run clock date closingBalance closedById db with same | ⟨closedBy, -, closed⟩
  · exact ⟨db.cashReconciliation, same⟩
  · exact ⟨_, congrArg Prod.snd closed⟩

end Reconciliation

end Specs

end Saloon.Source
