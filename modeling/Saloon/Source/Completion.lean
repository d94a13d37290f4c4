import Saloon.Lib.Interleave
import Saloon.Source.Appointment

/-!
# A completion, transaction by transaction

Executable model of `Appointment::updateStatus` with 'completed'
(`api/models/Appointment.php:113-153`) and of the bill behind it
(`api/models/Invoice.php:159-193`), cut where another request can come in
between. The status is set in one transaction. "Check if already invoiced" finds
no row, so its SELECT is over, in autocommit, before the next one. The SELECT of
the appointment is not: its one row has been fetched but its statement is never
reset, so `createCheckout` begins on the same snapshot, and SQLite refuses the
first INSERT (SQLITE_BUSY_SNAPSHOT) when another request has committed since.
From that SELECT to COMMIT is one transaction. A refused transaction writes
nothing and ends its request; in a schedule such a request has no more turns.
-/
namespace Saloon.Source

open Lib

/-- One `updateStatus($id, 'completed', $loggedById)`. -/
structure Completion where
  clock : Clock
  id : Val
  loggedById : Val

namespace Completion

/-- Where a completion is. -/
inductive Phase where
  /-- before the transaction that sets the status -/
  | begin
  /-- before "Check if already invoiced" -/
  | check
  /-- before the SELECT of the appointment and its price, with the checkout behind it -/
  | bill
  | done

/-- The next transaction, or autocommit statement. -/
def act (c : Completion) : Phase → Db → Phase × Db
  | .begin, db =>
    match Appointment.statusStatements c.id (.str "completed") db with
    | (.ok (), after) => (.check, after)
    | (.error _, _) => (.done, db)
  | .check, db => (if Invoice.isInvoiced c.id.key db then .done else .bill, db)
  | .bill, db =>
    match Invoice.billable c.id.key db with
    | none => (.done, db)
    | some apt =>
      match Invoice.billStatements c.clock c.id (Appointment.billedBy c.loggedById) apt db with
      | (.ok _, after) => (.done, after)
      | (.error _, _) => (.done, db)
  | .done, db => (.done, db)

section Specs

variable {c : Completion} {db : Db}

theorem act_begin {staffId : Nat} (found : Appointment.assigned c.id.key db = some staffId) :
    c.act .begin db = (.check, Appointment.mark c.id (.str "completed") staffId db) := by
  simp only [act, Appointment.statusStatements_run, found]

theorem act_begin_missing (missing : Appointment.assigned c.id.key db = none) :
    c.act .begin db = (.done, db) := by
  simp only [act, Appointment.statusStatements_run, missing]

theorem act_bill {apt : Invoice.Billable} {invoiceId : Nat} {after : Db}
    (bill : Invoice.billable c.id.key db = some apt)
    (billed : Invoice.billStatements c.clock c.id (Appointment.billedBy c.loggedById) apt db =
      (.ok invoiceId, after)) : c.act .bill db = (.done, after) := by
  simp only [act, bill, billed]

/-- What a step does to the database: nothing, the status transaction, or the bill. -/
theorem act_cases (c : Completion) (phase : Phase) (db : Db) :
    (c.act phase db).2 = db ∨
      (∃ staffId, Appointment.assigned c.id.key db = some staffId ∧
        (c.act phase db).2 = Appointment.mark c.id (.str "completed") staffId db) ∨
      ∃ apt invoiceId, phase = .bill ∧ Invoice.billable c.id.key db = some apt ∧
        Invoice.billStatements c.clock c.id (Appointment.billedBy c.loggedById) apt db =
          (.ok invoiceId, (c.act phase db).2) := by
  cases phase with
  | begin =>
    cases found : Appointment.assigned c.id.key db with
    | none => exact .inl (by rw [act_begin_missing found])
    | some staffId => exact .inr (.inl ⟨staffId, rfl, by rw [act_begin found]⟩)
  | check => exact .inl rfl
  | bill =>
    cases bill : Invoice.billable c.id.key db with
    | none => exact .inl (by simp only [act, bill])
    | some apt =>
      rcases billed : Invoice.billStatements c.clock c.id (Appointment.billedBy c.loggedById) apt db
        with ⟨why | invoiceId, after⟩
      · exact .inl (by simp only [act, bill, billed])
      · exact .inr (.inr ⟨apt, invoiceId, rfl, rfl, by rw [act_bill bill billed, billed]⟩)
  | done => exact .inl rfl

theorem act_bill_done (c : Completion) (db : Db) : (c.act .bill db).1 = .done := by
  simp only [act]
  repeat' split
  all_goals rfl

/-- A completion comes to its check by setting the status of an appointment. -/
theorem act_eq_check {phase : Phase} (next : (c.act phase db).1 = .check) :
    ∃ staffId, Appointment.assigned c.id.key db = some staffId := by
  cases phase with
  | begin =>
    cases found : Appointment.assigned c.id.key db with
    | none => rw [act_begin_missing found] at next; cases next
    | some staffId => exact ⟨staffId, rfl⟩
  | check =>
    simp only [act] at next
    split at next <;> cases next
  | bill => cases next.symm.trans (act_bill_done c db)
  | done => cases next

/-- A completion comes to its bill by finding no invoice; that step writes nothing. -/
theorem act_eq_bill {phase : Phase} (next : (c.act phase db).1 = .bill) :
    phase = .check ∧ Invoice.isInvoiced c.id.key db = false ∧ (c.act phase db).2 = db := by
  cases phase with
  | begin =>
    cases found : Appointment.assigned c.id.key db with
    | none => rw [act_begin_missing found] at next; cases next
    | some staffId => rw [act_begin found] at next; cases next
  | check =>
    refine ⟨rfl, ?_, rfl⟩
    simp only [act] at next
    split at next
    · cases next
    · rename_i uninvoiced
      simpa using uninvoiced
  | bill => cases next.symm.trans (act_bill_done c db)
  | done => cases next

/-- The steps of a completion that nothing interrupts. -/
def alone (c : Completion) : Nat → Phase → Db → Db
  | 0, _, db => db
  | n + 1, phase, db => alone c n (c.act phase db).1 (c.act phase db).2

theorem alone_done (n : Nat) (db : Db) : c.alone n .done db = db := by
  induction n with
  | zero => rfl
  | succ n ih => exact ih

/-- Uninterrupted, the steps are the request that `updateStatus` serves. -/
theorem alone_eq (c : Completion) (s : Session) (idle : s.saved = none) :
    c.alone 3 .begin s.db =
      (Appointment.updateStatus c.clock c.id (.str "completed") c.loggedById s).2.close := by
  have unchanged : s.close = s.db := Session.close_of_idle idle
  cases found : Appointment.assigned c.id.key s.db with
  | none =>
    rw [Appointment.updateStatus_run_missing _ _ _ _ s idle found, unchanged, alone,
      act_begin_missing found]
    exact alone_done 2 s.db
  | some staffId =>
    rw [alone, act_begin found, alone]
    have close : ∀ db, ({ s with db } : Session).close = db := fun _ => Session.close_of_idle idle
    have outcome := Appointment.updateStatus_run c.clock c.id (.str "completed") c.loggedById s idle
      staffId found
    generalize marked : Appointment.mark c.id (.str "completed") staffId s.db = db at outcome ⊢
    rw [outcome, if_pos (show (Val.str "completed").is "completed" = true from rfl)]
    by_cases already : Invoice.isInvoiced c.id.key db = true
    · rw [Appointment.toBill, if_pos already, act, if_pos already]
      exact (alone_done 1 db).trans (close db).symm
    · rw [Appointment.toBill, if_neg already, act, if_neg already, alone, act]
      cases Invoice.billable c.id.key db with
      | none => exact (close db).symm
      | some apt =>
        simp only [alone]
        rcases Invoice.billStatements c.clock c.id (Appointment.billedBy c.loggedById) apt db with
          ⟨(m | m) | invoiceId, after⟩
        · exact (close db).symm
        · rfl
        · exact (close after).symm

end Specs

end Completion

end Saloon.Source
