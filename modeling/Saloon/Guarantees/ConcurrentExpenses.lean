import Mathlib.Data.List.Induction
import Saloon.Guarantees.Committed

/-!
# Simultaneous expenses

The scenario of `test_concurrency.js`: expenses that are logged at the same time,
each in one transaction that begins with its INSERT. As long as they wait for the
lock none is refused, and each is posted once.
-/
namespace Saloon.Guarantees

open Lib Source

/-- The day that an expense is posted to. -/
def expenseDay (e : Event) : SqlVal := (expenseDateOf e).key

/-- A request for an expense that no check refuses; its drawer still may. -/
structure Loggable (php : Platform) (users : Table User) (e : Event) : Prop where
  asked : Asks e "expenses" ["POST"]
  passes : ∃ payload user, Passes php e [.admin, .receptionist, .stylist] payload ∧
    foreignKey users (payload.field "id").key = some (some user)
  category : (argOr e "category" (.str "")).empty = false
  positive : 0 < amountOf e
  dated : expenseDay e ≠ .null

/-- The response to an expense that is logged. -/
def expenseLogged (expenseId : Nat) : Response :=
  ⟨200, some (successBody "Expense logged successfully" [("expense_id", insertedId expenseId)])⟩

/-- The database after an expense: one new row and one posting. -/
structure ExpensePosted (e : Event) (db after : Db) : Prop where
  users : after.users = db.users
  row : ∃ x : Expense, x.amount = amountOf e ∧ x.expenseDate = expenseDay e ∧
    after.expenses = db.expenses.insert x
  drawer : PostedOn (expenseDay e) (.addExpense (amountOf e))
    (Expense.opening (expenseDay e) (amountOf e)) db.cashReconciliation after.cashReconciliation

section OneExpense

variable {php : Platform} {e : Event} {db : Db}

theorem Loggable.atomic {users : Table User} (loggable : Loggable php users e) :
    Atomic e ∧ ¬ ReadsFirst e := by
  have other {action : String} {methods : List String} (different : "expenses" ≠ action) :
      ¬ Asks e action methods := loggable.asked.ne different
  refine ⟨⟨?_, fun completes => other (by decide) completes.1, other (by decide)⟩, ?_⟩
  · rintro (asks | asks) <;> exact other (by decide) asks
  · rintro ((asks | asks) | asks) <;> exact other (by decide) asks

/-- The statements of an expense go through on drawers that accept it. -/
theorem expenseOf_accepts {payload : Val} {user : Nat}
    (known : foreignKey db.users (payload.field "id").key = some (some user))
    (dated : expenseDay e ≠ .null) (accepting : Accepting (expenseDay e) db.cashReconciliation) :
    ∃ after, expenseOf e payload db = (.ok db.expenses.nextId, after) := by
  have inserted : Expense.insert e.clock (argOr e "category" (.str "")) (amountOf e)
      (argOr e "description" (.str "")) (expenseDateOf e) (payload.field "id") db =
      (.ok db.expenses.nextId, db.setExpenses (db.expenses.insert
        ⟨(argOr e "category" (.str "")).strval, amountOf e,
          (argOr e "description" (.str "")).strval, expenseDay e, user, e.clock.now⟩)) := by
    rw [Expense.insert, if_neg (show ¬ (expenseDateOf e).key = .null from dated), known]
    rfl
  rw [expenseOf, Expense.createStatements, Prog.bind_of_ok inserted]
  obtain ⟨after, posted⟩ := postOn_accepts (f := .addExpense (amountOf e))
    (Expense.opening_date (expenseDay e) (amountOf e))
    (show Accepting _ (db.setExpenses (db.expenses.insert _)).cashReconciliation from accepting)
  exact ⟨after, Prog.bind_of_ok posted⟩

theorem alone_attempt {α : Type} {body : SqlBody α} {a : α} {after : Db} (answer : α → Val)
    (done : body.run db = (.ok a, after)) :
    (attemptBody body answer).alone db = (⟨200, some (answer a)⟩, after) := by
  rw [attemptBody, alone_inTransaction, done]
  rfl

/-- A loggable expense on drawers that accept it is answered and posted. -/
theorem serve_loggable (loggable : Loggable php db.users e)
    (accepting : Accepting (expenseDay e) db.cashReconciliation) :
    (serve php e db).response = expenseLogged db.expenses.nextId ∧
      ExpensePosted e db (request php e db) := by
  obtain ⟨payload, user, checked, known⟩ := loggable.passes
  obtain ⟨after, done⟩ := expenseOf_accepts known loggable.dated accepting
  have alone : (ExpenseController.logExpenseExchange (e.env php)).alone db =
      (expenseLogged db.expenses.nextId, after) := by
    have passed : AuthMiddleware.check (e.env php).php (e.env php).clock (e.env php).headers
        [.admin, .receptionist, .stylist] = .ok payload := checked
    have given : ¬ ((argOr e "category" (.str "")).empty || amountOf e ≤ 0) = true := by
      simp [loggable.category, loggable.positive]
    have run : (Expense.createBody e.clock (argOr e "category" (.str "")) (amountOf e)
        (argOr e "description" (.str "")) (expenseDateOf e) (payload.field "id")).run db =
        (.ok db.expenses.nextId, after) := by
      rw [Expense.run_createBody]
      exact done
    rw [ExpenseController.logExpenseExchange, guarded, passed]
    exact (congrArg (Script.alone · db) (if_neg given)).trans (alone_attempt _ run)
  have sends : exchange php e = _ := exchange_expense loggable.asked
  have served := alone_of_sends sends db
  rw [alone] at served
  refine ⟨(congrArg Prod.fst served).symm, ?_⟩
  obtain ⟨loggedBy, drawers, -, posted, rfl⟩ := Expense.createStatements_eq_ok done
  rw [← show _ = request php e db from congrArg Prod.snd served]
  exact ⟨rfl, ⟨_, rfl, rfl, rfl⟩, posted⟩

/-- An expense leaves its own day and every other one open to expenses. -/
theorem accepting_posted {key day : SqlVal} {amount : Rat} {t u : Table CashReconciliation}
    (posted : PostedOn day (.addExpense amount) (Expense.opening day amount) t u)
    (accepting : Accepting key t) : Accepting key u := by
  rcases posted with ⟨r, -, -, rfl⟩ | ⟨absent, rfl⟩
  · rcases accepting with ⟨s, member, isOpen⟩ | none
    · refine .inl ⟨_, Table.mem_modify.mpr ⟨s, member, rfl⟩, ?_⟩
      split <;> exact isOpen
    · refine .inr fun s member => ?_
      obtain ⟨old, oldMember, rfl⟩ := Table.mem_modify.mp member
      split <;> exact none old oldMember
  · by_cases same : day = key
    · refine .inl ⟨_, Table.mem_insert_self _ _, ?_⟩
      simp [isOpenOn, Expense.opening, openingDrawer, same]
    · rcases accepting with ⟨s, member, isOpen⟩ | none
      · exact .inl ⟨s, Table.mem_insert.mpr (.inl member), isOpen⟩
      · refine .inr fun s member => ?_
        rcases Table.mem_insert.mp member with old | rfl
        · exact none s old
        · simp [isOn, Expense.opening, openingDrawer, same]

theorem accepting_of_unclosed {key : SqlVal} {t : Table CashReconciliation}
    (unclosed : ∀ r ∈ t.rows, r.cols.reconciliationDate = key → r.cols.status = "open") :
    Accepting key t := by
  by_cases present : ∃ r ∈ t.rows, isOn key r = true
  · obtain ⟨r, member, on⟩ := present
    have date : r.cols.reconciliationDate = key := isOn_iff.mp on
    exact .inl ⟨r, member, by simp [isOpenOn, date, unclosed r member date]⟩
  · exact .inr fun r member => by simpa using fun on => present ⟨r, member, on⟩

end OneExpense

section ManyExpenses

variable {ι : Type} {php : Platform} {requests : ι → Writer php} {db : Db}

/-- What the logged requests have spent on a day. -/
def spentOn (requests : ι → Writer php) (d : SqlVal) (log : List ι) : Rat :=
  ((log.filter fun i => expenseDay (requests i).event = d).map
    fun i => amountOf (requests i).event).sum

/-- What is logged after a number of expenses. -/
structure LoggedSince (requests : ι → Writer php) (db : Db) (log : List ι) (after : Db) : Prop where
  users : after.users = db.users
  accepting : ∀ i, Accepting (expenseDay (requests i).event) after.cashReconciliation
  next : after.expenses.nextId = db.expenses.nextId + log.length
  rows : after.expenses.rows.length = db.expenses.rows.length + log.length
  spent : ∀ d, after.expenses.sumOver (fun x => x.cols.expenseDate = d) (fun x => x.cols.amount) =
    db.expenses.sumOver (fun x => x.cols.expenseDate = d) (fun x => x.cols.amount) +
      spentOn requests d log

theorem LoggedSince.step {log : List ι} {mid : Db} {i : ι}
    (loggable : Loggable php db.users (requests i).event) (logged : LoggedSince requests db log mid) :
    LoggedSince requests db (log ++ [i]) (request php (requests i).event mid) := by
  obtain ⟨-, posted⟩ := serve_loggable (logged.users ▸ loggable) (logged.accepting i)
  obtain ⟨x, amount, day, expenses⟩ := posted.row
  refine ⟨posted.users.trans logged.users,
    fun j => accepting_posted posted.drawer (logged.accepting j), ?_, ?_, fun d => ?_⟩
  · have grown : (mid.expenses.insert x).nextId = mid.expenses.nextId + 1 := rfl
    rw [expenses, grown, logged.next]
    simp [add_assoc]
  · rw [expenses, Table.insert_rows, List.length_append, logged.rows]
    simp [add_assoc]
  · rw [expenses, Table.sumOver_insert, logged.spent d, add_assoc]
    refine congrArg (_ + ·) ?_
    rw [spentOn, spentOn, List.filter_append, List.map_append, List.sum_append, day, amount]
    by_cases same : expenseDay (requests i).event = d <;> simp [same]

theorem inTurn_snoc (requests : ι → Writer php) (db : Db) (log : List ι) (i : ι) :
    inTurn requests db (log ++ [i]) = request php (requests i).event (inTurn requests db log) := by
  rw [inTurn, List.map_append, run_append]
  rfl

theorem loggedSince_inTurn (loggable : ∀ i, Loggable php db.users (requests i).event)
    (accepting : ∀ i, Accepting (expenseDay (requests i).event) db.cashReconciliation)
    (log : List ι) : LoggedSince requests db log (inTurn requests db log) := by
  induction log using List.reverseRecOn with
  | nil => exact ⟨rfl, accepting, rfl, rfl, fun d => by simp [inTurn, spentOn]⟩
  | append_singleton log i ih =>
    rw [inTurn_snoc]
    exact ih.step (loggable i)

variable [DecidableEq ι]

/-- From any state that the API can reach, expenses that are logged at the same time and
wait for the lock are all logged: whoever has an answer has the id of its own new row, no
request is posted twice, the day's expenses and its drawer grow by what was logged, and
every request still comes to its answer. -/
theorem simultaneous_expenses (php : Platform) (hash : String → String) (clock : Clock)
    (events : List Event) (requests : ι → Writer php) (schedule : List (ι × Bool))
    (loggable : ∀ i, Loggable php (afterRun php hash clock events).users (requests i).event)
    (unclosed : ∀ i, ∀ r ∈ (afterRun php hash clock events).cashReconciliation.rows,
      r.cols.reconciliationDate = expenseDay (requests i).event → r.cols.status = "open")
    (waits : ∀ slot ∈ schedule, slot.2 = true) :
    let before := afterRun php hash clock events
    let s := concurrently requests before schedule
    let after := s.shared.committed
    (∀ i response, Answers response (s.locals i) →
      ∃ earlier later, s.shared.log = earlier ++ i :: later ∧
        response = expenseLogged (before.expenses.nextId + earlier.length)) ∧
    s.shared.log.Nodup ∧
    after.expenses.rows.length = before.expenses.rows.length + s.shared.log.length ∧
    (∀ d, after.expenses.sumOver (fun x => x.cols.expenseDate = d) (fun x => x.cols.amount) =
      before.expenses.sumOver (fun x => x.cols.expenseDate = d) (fun x => x.cols.amount) +
        spentOn requests d s.shared.log) ∧
    (∀ r ∈ after.cashReconciliation.rows, r.cols.loggedExpenses =
      before.expenses.sumOver (fun x => x.cols.expenseDate = r.cols.reconciliationDate)
        (fun x => x.cols.amount) + spentOn requests r.cols.reconciliationDate s.shared.log) ∧
    ∀ members : List ι, ∃ more : List (ι × Bool), (∀ slot ∈ more, slot.2 = true) ∧
      ∀ i ∈ members, ∃ response,
        Answers response ((concurrently requests before (schedule ++ more)).locals i) := by
  intro before s after
  have linear := concurrently_linear (fun i => (loggable i).atomic.1) before schedule
  have logged := loggedSince_inTurn loggable fun i => accepting_of_unclosed (unclosed i)
  have replayed : after = inTurn requests before s.shared.log := by
    rw [← replay_eq]
    exact linear.replayed
  refine ⟨fun i response answered => ?_, linear.nodup, ?_, fun d => ?_, fun r member => ?_,
    interleave_progress _ before schedule⟩
  · cases linear.settled answered with
    | committed earlier later split first last alone =>
      rw [replay_eq, (requests i).alone_eq] at alone
      obtain ⟨answer, -⟩ := serve_loggable ((logged earlier).users ▸ loggable i)
        ((logged earlier).accepting i)
      rw [(logged earlier).next] at answer
      exact ⟨earlier, later, split, alone.symm.trans answer⟩
    | unwritten absent earlier past alone =>
      -- an expense that goes through adds a row
      rw [replay_eq, (requests i).alone_eq] at alone
      obtain ⟨-, posted⟩ := serve_loggable ((logged earlier).users ▸ loggable i)
        ((logged earlier).accepting i)
      obtain ⟨x, -, -, expenses⟩ := posted.row
      rw [show request php _ _ = _ from congrArg Prod.snd alone] at expenses
      exact absurd expenses.symm (Table.insert_ne_self _ _)
    | refused absent may refuses =>
      rcases of_decide_eq_true may with readsFirst | hurried
      · exact absurd readsFirst (loggable i).atomic.2
      · cases waits _ hurried
  · rw [replayed]
    exact (logged _).rows
  · rw [replayed]
    exact (logged _).spent d
  · have ledger : LedgerHolds after := by
      rw [replayed, inTurn, ← afterRun_append]
      exact ledger_holds php hash clock _
    have total : r.cols.loggedExpenses = after.expenses.sumOver
        (fun x => x.cols.expenseDate = r.cols.reconciliationDate) fun x => x.cols.amount :=
      ledger.spent r member
    rw [total, replayed]
    exact (logged _).spent _

end ManyExpenses

section Two

/-- The user of a token that passes, found in one go. -/
def userOf (php : Platform) (users : Table User) (e : Event) : Option Nat := do
  let payload ← (AuthMiddleware.check php e.clock e.request.headers
    [.admin, .receptionist, .stylist]).toOption
  let user ← foreignKey users (payload.field "id").key
  user

theorem passes_of_userOf {php : Platform} {users : Table User} {e : Event}
    (found : (userOf php users e).isSome = true) :
    ∃ payload user, Passes php e [.admin, .receptionist, .stylist] payload ∧
      foreignKey users (payload.field "id").key = some (some user) := by
  obtain ⟨user, found⟩ := Option.isSome_iff_exists.mp found
  obtain ⟨payload, checked, known⟩ := Option.bind_eq_some_iff.mp found
  obtain ⟨stored, known, rfl⟩ := Option.bind_eq_some_iff.mp known
  refine ⟨payload, user, ?_, known⟩
  rw [Passes]
  cases outcome : AuthMiddleware.check php e.clock e.request.headers
    [.admin, .receptionist, .stylist] with
  | error response =>
    rw [outcome] at checked
    cases checked
  | ok passed =>
    rw [outcome] at checked
    cases checked
    rfl

theorem supplies_loggable : Loggable recorded morningDb.users supplies where
  asked := by decide +kernel
  passes := passes_of_userOf (by decide +kernel)
  category := by decide +kernel
  positive := by decide +kernel
  dated := by decide +kernel

theorem meeting_log :
    (concurrently bothSupplies (afterRun recorded (fun _ => adminHash) morning []) meeting
      ).shared.log = [false, true] := by
  decide +kernel

/-- Both are logged. -/
theorem both_logged :
    (concurrently bothSupplies (afterRun recorded (fun _ => adminHash) morning []) meeting
      ).shared.committed.expenses.rows.length =
      (afterRun recorded (fun _ => adminHash) morning []).expenses.rows.length +
        [false, true].length := by
  rw [← meeting_log]
  exact (simultaneous_expenses recorded (fun _ => adminHash) morning [] bothSupplies meeting
    (fun _ => supplies_loggable) (by decide +kernel) (by decide +kernel)).2.2.1

end Two

end Saloon.Guarantees
