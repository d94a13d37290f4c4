import Saloon.Guarantees.Ledger

/-!
# Closing the drawer

The close is one UPDATE, and its success is the statement's, which a date
without an open drawer does not take away. With an open one, the close tells
the truth whenever the user it is logged under exists.
-/
namespace Saloon.Guarantees

open Lib Source

def closeDateOf (e : Event) : Val := argOr e "date" (.str e.clock.today)

def closingBalanceOf (e : Event) : Rat := (argOr e "closing_balance" (.float 0)).floatval

/-- The date of the request has an open drawer. -/
def DrawerOpen (e : Event) (db : Db) : Prop :=
  ∃ r ∈ db.cashReconciliation.rows, isOpenOn (closeDateOf e).key r = true

/-- The close answers success exactly for an open drawer; it closes that one with the
balance and the user given, and nothing happens where it answers an error. -/
structure ClosesTruly (php : Platform) (e : Event) (payload : Val) (db : Db) : Prop where
  truth : (serve php e db).response.status = 200 ↔ DrawerOpen e db
  closes : (serve php e db).response.status = 200 →
    ∃ r ∈ db.cashReconciliation.rows, isOpenOn (closeDateOf e).key r = true ∧
      ∃ closedBy, foreignKey db.users (payload.field "id").key = some closedBy ∧
        (serve php e db).db = db.setCashReconciliation (db.cashReconciliation.modify
          (fun s => s.id = r.id) (.close (closingBalanceOf e) closedBy e.clock.now))
  refuses : (serve php e db).response.status ≠ 200 → (serve php e db).db = db

section Requests

variable {php : Platform} {e : Event} {payload : Val} {db : Db}

theorem index_close (asked : Asks e "reconciliation_close" ["POST"]) :
    index php e = ReconciliationController.closeDrawer (e.env php) := (index_post asked).trans rfl

/-- What the model's one statement does, by what it meets. -/
theorem closeOf_run (e : Event) (payload : Val) (db : Db) :
    (¬ DrawerOpen e db ∧ closeOf e payload db = (.ok true, db)) ∨
    (DrawerOpen e db ∧ foreignKey db.users (payload.field "id").key = none ∧
      closeOf e payload db = (.error foreignKeyFailed, db)) ∨
    (DrawerOpen e db ∧ ∃ closedBy, foreignKey db.users (payload.field "id").key = some closedBy ∧
      closeOf e payload db = (.ok true, db.setCashReconciliation (db.cashReconciliation.modify
        (isOpenOn (closeDateOf e).key) (.close (closingBalanceOf e) closedBy e.clock.now)))) := by
  have any_iff : db.cashReconciliation.rows.any (isOpenOn (closeDateOf e).key) = true ↔
      DrawerOpen e db := List.any_eq_true
  rw [closeOf, Reconciliation.closeDrawer]
  by_cases drawer : DrawerOpen e db
  · have any := any_iff.mpr drawer
    rw [closeDateOf] at any
    rw [if_pos any]
    cases found : foreignKey db.users (payload.field "id").key with
    | none => exact .inr (.inl ⟨drawer, rfl, rfl⟩)
    | some closedBy => exact .inr (.inr ⟨drawer, closedBy, rfl, rfl⟩)
  · have none := fun any => drawer (any_iff.mp any)
    rw [closeDateOf] at none
    rw [if_neg none]
    exact .inl ⟨drawer, rfl⟩

/-- The action behind its check. -/
theorem close_action (checked : Passes php e [.admin, .receptionist] payload) :
    ReconciliationController.closeDrawer (e.env php) (.start db) =
      catchException
        (exec (closeOf e payload) >>= fun success =>
          if success then
            json (successBody "Cash drawer reconciled and closed successfully" []) 200
          else json
            (errorBody "Failed to close cash drawer. Make sure it is not already closed.") 400)
        (fun message => json (errorBody message) 400) (entered db payload) := by
  rw [ReconciliationController.closeDrawer, Prog.bind_of_ok (handle_run (e.env php) checked _)]
  rfl

variable {after : Db}

theorem serve_close_done (asked : Asks e "reconciliation_close" ["POST"])
    (checked : Passes php e [.admin, .receptionist] payload)
    (done : closeOf e payload db = (.ok true, after)) :
    (serve php e db).response.status = 200 ∧ (serve php e db).db = after := by
  rw [serve_response, serve_db, index_close asked, close_action checked, catchException,
    Prog.bind_run, exec_run, show (entered db payload).db = db from rfl, done]
  exact ⟨rfl, rfl⟩

theorem serve_close_failed (asked : Asks e "reconciliation_close" ["POST"])
    (checked : Passes php e [.admin, .receptionist] payload) {message : String}
    (failed : closeOf e payload db = (.error (.exception message), after)) :
    (serve php e db).response.status = 400 ∧ (serve php e db).db = after := by
  rw [serve_response, serve_db, index_close asked, close_action checked, catchException,
    Prog.bind_run, exec_run, show (entered db payload).db = db from rfl, failed]
  exact ⟨rfl, rfl⟩

/-- The open drawer of a date is one row. -/
theorem modify_open (unique : UniqueKey drawerKey db.cashReconciliation)
    {r : Row CashReconciliation} (member : r ∈ db.cashReconciliation.rows) {key : SqlVal}
    (isOpen : isOpenOn key r = true) (f : CashReconciliation → CashReconciliation) :
    db.cashReconciliation.modify (isOpenOn key) f =
      db.cashReconciliation.modify (fun s => s.id = r.id) f := by
  refine Table.modify_congr fun s sMember => ?_
  have date : r.cols.reconciliationDate = key := by simpa [isOn] using isOn_of_isOpenOn isOpen
  rw [Bool.eq_iff_iff, decide_eq_true_iff]
  constructor
  · intro sOpen
    have sDate : s.cols.reconciliationDate = key := by simpa [isOn] using isOn_of_isOpenOn sOpen
    rw [unique s sMember r member (sDate.trans date.symm)]
  · intro same
    rwa [db.cashReconciliation.eq_of_id_eq sMember member same]

end Requests

/-- After every run, a close by a user who passes tells the truth exactly when the date has
an open drawer and the user exists. -/
theorem drawer_close_iff {php : Platform} (hash : String → String) (clock : Clock)
    (events : List Event) {e : Event} {payload : Val}
    (asked : Asks e "reconciliation_close" ["POST"])
    (checked : Passes php e [.admin, .receptionist] payload) :
    ClosesTruly php e payload (afterRun php hash clock events) ↔
      DrawerOpen e (afterRun php hash clock events) ∧
        (foreignKey (afterRun php hash clock events).users (payload.field "id").key).isSome := by
  have unique := (ledger_holds php hash clock events).unique
  generalize afterRun php hash clock events = db at unique ⊢
  rcases closeOf_run e payload db with ⟨shut, done⟩ | ⟨drawer, unknown, failed⟩ |
    ⟨drawer, closedBy, known, done⟩
  · obtain ⟨success, -⟩ := serve_close_done asked checked done
    exact iff_of_false (fun truly => shut (truly.truth.mp success)) fun right => shut right.1
  · obtain ⟨refused, -⟩ := serve_close_failed asked checked failed
    refine iff_of_false (fun truly => ?_) fun right => by simp [unknown] at right
    cases refused.symm.trans (truly.truth.mpr drawer)
  · obtain ⟨success, closed⟩ := serve_close_done asked checked done
    refine iff_of_true ⟨iff_of_true success drawer, fun _ => ?_, fun refused => absurd success refused⟩
      ⟨drawer, by simp [known]⟩
    obtain ⟨r, member, isOpen⟩ := drawer
    refine ⟨r, member, isOpen, closedBy, known, ?_⟩
    rw [closed, modify_open unique member isOpen]

/-- The close of a day, and of the day before. -/
def closeDay (date : String) : Event := adminRequest "reconciliation_close" "POST"
  [("date", .str date), ("closing_balance", .int 200)]

theorem morning_close : ∃ payload,
    ClosesTruly recorded (closeDay "2026-06-10") payload
        (afterRun recorded (fun _ => adminHash) morning []) ↔
      DrawerOpen (closeDay "2026-06-10") (afterRun recorded (fun _ => adminHash) morning []) ∧
        (foreignKey (afterRun recorded (fun _ => adminHash) morning []).users
          (payload.field "id").key).isSome := by
  have passes : ∃ payload, Passes recorded (closeDay "2026-06-10") [.admin, .receptionist] payload :=
    exists_passes (by decide +kernel)
  obtain ⟨payload, checked⟩ := passes
  exact ⟨payload, drawer_close_iff _ morning [] (by decide) checked⟩

/-- The day before has no drawer, and its close answers success. -/
theorem absent_drawer_closed : ¬ ∀ events e payload, Asks e "reconciliation_close" ["POST"] →
    Passes recorded e [.admin, .receptionist] payload →
      ClosesTruly recorded e payload (afterRun recorded (fun _ => adminHash) morning events) := by
  intro truly
  have passes : ∃ payload, Passes recorded (closeDay "2026-06-09") [.admin, .receptionist] payload :=
    exists_passes (by decide +kernel)
  obtain ⟨payload, checked⟩ := passes
  have success : (serve recorded (closeDay "2026-06-09")
      (afterRun recorded (fun _ => adminHash) morning [])).response.status = 200 := by
    decide +kernel
  have shut : (afterRun recorded (fun _ => adminHash) morning []).cashReconciliation.rows.any
      (isOpenOn (closeDateOf (closeDay "2026-06-09")).key) = false := by decide +kernel
  obtain ⟨r, member, isOpen⟩ :=
    (truly [] (closeDay "2026-06-09") payload (by decide) checked).truth.mp success
  exact List.any_eq_false.mp shut r member isOpen

end Saloon.Guarantees
