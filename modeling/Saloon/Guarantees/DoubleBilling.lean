import Saloon.Guarantees.Billing
import Saloon.Source.Completion

/-!
# Concurrent completions

The question whether an appointment has an invoice is a statement of its own,
outside the transaction that follows it. Two completions that both ask before
either has billed both bill, and no constraint on the invoices stops the second.
-/
namespace Saloon.Guarantees

open Lib Source

/-- An appointment has at most one invoice. -/
def SingleInvoices (db : Db) : Prop :=
  ∀ r ∈ db.invoices.rows, ∀ s ∈ db.invoices.rows, ∀ a,
    r.cols.appointmentId = some a → s.cols.appointmentId = some a → r = s

section Sequential

theorem single_insert {invoices : Table Invoice} {i : Invoice}
    (single : ∀ r ∈ invoices.rows, ∀ s ∈ invoices.rows, ∀ a,
      r.cols.appointmentId = some a → s.cols.appointmentId = some a → r = s)
    (fresh : ∀ a, i.appointmentId = some a →
      ∀ r ∈ invoices.rows, r.cols.appointmentId ≠ some a) :
    ∀ r ∈ (invoices.insert i).rows, ∀ s ∈ (invoices.insert i).rows, ∀ a,
      r.cols.appointmentId = some a → s.cols.appointmentId = some a → r = s := by
  intro r rMember s sMember a rBills sBills
  rcases Table.mem_insert.mp rMember with rOld | rfl <;>
    rcases Table.mem_insert.mp sMember with sOld | rfl
  · exact single r rOld s sOld a rBills sBills
  · exact absurd rBills (fresh a sBills r rOld)
  · exact absurd sBills (fresh a rBills s sOld)
  · rfl

theorem not_mem_of_not_invoiced {db : Db} {a : Nat}
    (uninvoiced : Invoice.isInvoiced (.num a) db = false) :
    ∀ r ∈ db.invoices.rows, r.cols.appointmentId ≠ some a := by
  intro r member bills
  have invoiced := Invoice.isInvoiced_iff.mpr ⟨r, member, bills⟩
  rw [uninvoiced] at invoiced
  cases invoiced

/-- One request at a time bills no appointment twice. -/
theorem LedgerChange.single {php : Platform} {e : Event} {db after : Db}
    (change : LedgerChange php e db after) (single : SingleInvoices db) : SingleInvoices after := by
  unfold SingleInvoices at single ⊢
  cases change with
  | sale sale source hInvoices =>
    rw [hInvoices]
    refine single_insert single fun a bills => ?_
    rcases source with ⟨-, b, named, uninvoiced⟩ | ⟨-, -, -, none⟩
    · obtain rfl : b = a := Option.some.inj (named.symm.trans bills)
      exact not_mem_of_not_invoiced uninvoiced
    · cases none.symm.trans bills
  | same hInvoices | expense x hInvoices | view hInvoices | close key amount closedBy hInvoices =>
    rw [hInvoices]
    exact single

theorem single_of_run (php : Platform) (hash : String → String) (clock : Clock)
    (events : List Event) : SingleInvoices (afterRun php hash clock events) :=
  afterRun_keeps (fun _ _ _ member => by cases member)
    (fun _ _ _ _ served => served.ledger_cases.single) hash clock events

end Sequential

section Interleaved

variable {ι : Type} [DecidableEq ι] {requests : ι → Completion} {i : ι}
  {s : System ι Completion.Phase Db}

/-- One step of one of the requests. -/
def advance (requests : ι → Completion) (i : ι) (s : System ι Completion.Phase Db) :
    System ι Completion.Phase Db :=
  System.step (fun i => (requests i).act) i s

/-- A bill of a request that goes through although the appointment has got its invoice
since the request asked for it. -/
def BillsAgain (requests : ι → Completion) (i : ι) (s : System ι Completion.Phase Db) : Prop :=
  s.locals i = .bill ∧ Invoice.isInvoiced (requests i).id.key s.shared = true ∧
    Payment (requests i).clock (requests i).loggedById s.shared

/-- A request that asks while another one for the same appointment has asked and not
billed yet. -/
def AsksInside (requests : ι → Completion) (i : ι) (s : System ι Completion.Phase Db) : Prop :=
  s.locals i = .check ∧
    ∃ j, j ≠ i ∧ (requests j).id.key = (requests i).id.key ∧ s.locals j = .bill

/-- A request that has set the status has something to bill. -/
def Marked (c : Completion) (phase : Completion.Phase) (db : Db) : Prop :=
  ReferencesHold db ∧
    (phase = .check ∨ phase = .bill → ∃ apt, Invoice.billable c.id.key db = some apt)

/-- A step keeps the references and what any request is going to bill. -/
theorem act_keeps (c : Completion) (phase : Completion.Phase) {db : Db}
    (refs : ReferencesHold db) :
    ReferencesHold (c.act phase db).2 ∧
      ∀ k, Invoice.billable k (c.act phase db).2 = Invoice.billable k db := by
  rcases c.act_cases phase db with same | ⟨staffId, -, marked⟩ | ⟨apt, invoiceId, -, -, billed⟩
  · rw [same]
    exact ⟨refs, fun _ => rfl⟩
  · rw [marked]
    exact ⟨references_mark refs, fun k => Appointment.billable_mark k _ _ _ _⟩
  · obtain ⟨sale, drawers, -, -, post⟩ := Invoice.checkoutStatements_eq_ok billed
    rw [post]
    refine ⟨fun a member => ?_, fun _ => rfl⟩
    obtain ⟨⟨c, cMember, client⟩, staff, service⟩ := refs a member
    obtain ⟨c', cMember', same⟩ :=
      (keeps_credit _ sale.clientId sale.total db.clients).exists_id cMember
    exact ⟨⟨c', cMember', same ▸ client⟩, staff, service⟩

theorem act_marked (c : Completion) (phase : Completion.Phase) {db : Db}
    (marked : Marked c phase db) : Marked c (c.act phase db).1 (c.act phase db).2 := by
  obtain ⟨refs, there⟩ := marked
  obtain ⟨kept, billable⟩ := act_keeps c phase refs
  refine ⟨kept, fun next => ?_⟩
  rw [billable]
  rcases next with check | bill
  · obtain ⟨staffId, found⟩ := Completion.act_eq_check check
    obtain ⟨a, member, key, -⟩ := Appointment.appointment_of_assigned found
    obtain ⟨s, -, billed⟩ := billable_of_referenced member (refs a member)
    exact ⟨_, key ▸ billed⟩
  · exact there (.inl (Completion.act_eq_bill bill).1)

theorem advance_marked (all : ∀ j, Marked (requests j) (s.locals j) s.shared) (i : ι) :
    ∀ j, Marked (requests j) ((advance requests i s).locals j) (advance requests i s).shared := by
  refine System.step_keeps (fun j phase db marked => act_marked (requests j) phase marked)
    (fun j k phase other db _ marked there => ?_) all i
  obtain ⟨kept, billable⟩ := act_keeps (requests j) phase marked.1
  refine ⟨kept, fun under => ?_⟩
  rw [billable]
  exact there.2 under

/-- The appointment that a request is about to bill. -/
theorem appointment_of_billable {c : Completion} {apt : Invoice.Billable} {db : Db}
    (bill : Invoice.billable c.id.key db = some apt) :
    ∃ a ∈ db.appointments.rows, c.id.key = .num a.id := by
  obtain ⟨a, hit, -⟩ := Option.bind_eq_some_iff.mp bill
  obtain ⟨member, key⟩ := lookup_eq_some.mp hit
  exact ⟨a, member, key⟩

/-- The bill of a request adds one invoice, for its appointment. -/
theorem invoices_of_billed {c : Completion} {apt : Invoice.Billable} {invoiceId : Nat}
    {db after : Db} {a : Nat} (key : c.id.key = .num a)
    (billed : Invoice.billStatements c.clock c.id (Appointment.billedBy c.loggedById) apt db =
      (.ok invoiceId, after)) :
    ∃ i : Invoice, i.appointmentId = some a ∧ after.invoices = db.invoices.insert i := by
  obtain ⟨sale, drawers, -, charged, rfl⟩ := Invoice.checkoutStatements_eq_ok billed
  exact ⟨sale.invoice c.clock, charged.appointment_eq key, rfl⟩

/-- The invariant behind the invoices. -/
structure InvoicesHold (requests : ι → Completion) (s : System ι Completion.Phase Db) : Prop where
  marked : ∀ j, Marked (requests j) (s.locals j) s.shared
  single : SingleInvoices s.shared

theorem advance_single (holds : InvoicesHold requests s) (once : ¬ BillsAgain requests i s) :
    SingleInvoices (advance requests i s).shared := by
  have single := holds.single
  show SingleInvoices ((requests i).act (s.locals i) s.shared).2
  rcases (requests i).act_cases (s.locals i) s.shared with
    same | ⟨staffId, -, marked⟩ | ⟨apt, invoiceId, phase, bill, billed⟩
  · rwa [same]
  · rw [marked]
    exact single
  · obtain ⟨a, -, key⟩ := appointment_of_billable bill
    obtain ⟨invoice, bills, inserted⟩ := invoices_of_billed key billed
    unfold SingleInvoices at single ⊢
    rw [inserted]
    refine single_insert single fun b named => ?_
    obtain rfl : a.id = b := Option.some.inj (bills.symm.trans named)
    refine not_mem_of_not_invoiced (Bool.eq_false_iff.mpr fun invoiced => ?_)
    exact once ⟨phase, key ▸ invoiced, payment_of_billed billed⟩

theorem billed_again (holds : InvoicesHold requests s) (again : BillsAgain requests i s) :
    ¬ SingleInvoices (advance requests i s).shared := by
  obtain ⟨phase, invoiced, payment⟩ := again
  obtain ⟨refs, there⟩ := holds.marked i
  obtain ⟨apt, bill⟩ := there (.inr phase)
  obtain ⟨a, -, key⟩ := appointment_of_billable bill
  obtain ⟨invoiceId, after, billed⟩ := billed_of_payment refs bill payment
  obtain ⟨invoice, bills, inserted⟩ := invoices_of_billed key billed
  have result : (advance requests i s).shared = after := by
    rw [advance, System.step_shared, phase, Completion.act_bill bill billed]
  rw [key, Invoice.isInvoiced_iff] at invoiced
  obtain ⟨r, member, rBills⟩ := invoiced
  intro single
  rw [result, SingleInvoices, inserted] at single
  have same := single r (Table.mem_insert.mpr (.inl member)) _
    (Table.mem_insert_self s.shared.invoices invoice) a.id rBills bills
  exact s.shared.invoices.id_ne_nextId member (congrArg Row.id same)

/-- Requests about to bill are for different appointments, and these have no invoice. -/
structure Serial (requests : ι → Completion) (s : System ι Completion.Phase Db) : Prop where
  unbilled : ∀ j, s.locals j = .bill → Invoice.isInvoiced (requests j).id.key s.shared = false
  apart : ∀ j k, j ≠ k → s.locals j = .bill → s.locals k = .bill →
    (requests j).id.key ≠ (requests k).id.key

theorem isInvoiced_insert_other {k : SqlVal} {a : Nat} {invoice : Invoice} {db after : Db}
    (bills : invoice.appointmentId = some a) (other : k ≠ .num a)
    (inserted : after.invoices = db.invoices.insert invoice) :
    Invoice.isInvoiced k after = Invoice.isInvoiced k db := by
  simp [Invoice.isInvoiced, inserted, bills, other.symm]

/-- A request about to bill after a step was so before, or has just asked. -/
theorem inside_before {j : ι} (inside : (advance requests i s).locals j = .bill) :
    s.locals j = .bill ∨ j = i ∧ s.locals i = .check := by
  by_cases same : j = i
  · subst same
    rw [advance, System.step_self] at inside
    exact .inr ⟨rfl, (Completion.act_eq_bill inside).1⟩
  · rw [advance, System.step_other same] at inside
    exact .inl inside

/-- A bill is of no appointment that another request is about to bill. -/
theorem unbilled_advance {j : ι} (serial : Serial requests s)
    (inside : (advance requests i s).locals j = .bill) :
    Invoice.isInvoiced (requests j).id.key (advance requests i s).shared = false := by
  by_cases same : j = i
  · subst same
    rw [advance, System.step_self] at inside
    obtain ⟨-, uninvoiced, still⟩ := Completion.act_eq_bill inside
    rwa [advance, System.step_shared, still]
  · rw [advance, System.step_other same] at inside
    have unbilled := serial.unbilled j inside
    rw [advance, System.step_shared]
    rcases (requests i).act_cases (s.locals i) s.shared with
      still | ⟨staffId, -, marked⟩ | ⟨apt, invoiceId, phase, bill, billed⟩
    · rwa [still]
    · rw [marked]
      exact unbilled
    · obtain ⟨a, -, key⟩ := appointment_of_billable bill
      obtain ⟨invoice, bills, inserted⟩ := invoices_of_billed key billed
      have other := serial.apart j i same inside phase
      rwa [isInvoiced_insert_other bills (key ▸ other) inserted]

/-- A request that asks while no other one for its appointment is about to bill bills
what nobody has billed. -/
theorem serial_advance (serial : Serial requests s) (alone : ¬ AsksInside requests i s) :
    ¬ BillsAgain requests i s ∧ Serial requests (advance requests i s) := by
  refine ⟨?_, fun j => unbilled_advance serial, fun j k different jIn kIn same => ?_⟩
  · rintro ⟨phase, invoiced, -⟩
    rw [serial.unbilled i phase] at invoiced
    cases invoiced
  · rcases inside_before jIn with jBefore | ⟨rfl, asks⟩ <;>
      rcases inside_before kIn with kBefore | ⟨rfl, asks'⟩
    · exact serial.apart j k different jBefore kBefore same
    · exact alone ⟨asks', j, different, same, jBefore⟩
    · exact alone ⟨asks, k, different.symm, same.symm, kBefore⟩
    · exact different rfl

end Interleaved

section Schedules

variable {ι : Type} [DecidableEq ι]

/-- The requests arrive at a database that earlier requests have left. -/
def arrived (php : Platform) (hash : String → String) (clock : Clock) (events : List Event) :
    System ι Completion.Phase Db where
  shared := afterRun php hash clock events
  locals _ := .begin

/-- Under every schedule no appointment gets a second invoice exactly when no request's
bill goes through for an appointment that was billed since the request asked; that is so
when no request asks while another one for the same appointment is about to bill. -/
theorem single_invoices_iff (requests : ι → Completion) (php : Platform) (hash : String → String)
    (clock : Clock) (events : List Event) (schedule : List ι) :
    ((∀ first, first <+: schedule →
        SingleInvoices (run (advance requests) (arrived php hash clock events) first).shared) ↔
      Along (advance requests) (fun i s => ¬ BillsAgain requests i s)
        (arrived php hash clock events) schedule) ∧
    (Along (advance requests) (fun i s => ¬ AsksInside requests i s)
        (arrived php hash clock events) schedule →
      ∀ first, first <+: schedule →
        SingleInvoices (run (advance requests) (arrived php hash clock events) first).shared) := by
  have references : ReferencesHold (afterRun php hash clock events) :=
    references_hold php hash clock events
  have single : SingleInvoices (afterRun php hash clock events) :=
    single_of_run php hash clock events
  have marked : ∀ j, Marked (requests j) .begin (afterRun php hash clock events) := by
    refine fun j => ⟨references, fun under => ?_⟩
    rcases under with check | bill
    · cases check
    · cases bill
  have exactly : (∀ first, first <+: schedule →
        SingleInvoices (run (advance requests) (arrived php hash clock events) first).shared) ↔
      Along (advance requests) (fun i s => ¬ BillsAgain requests i s)
        (arrived php hash clock events) schedule :=
    always_iff_along (Q := InvoicesHold requests) (fun _ => InvoicesHold.single)
      (fun i s once holds => ⟨advance_marked holds.marked i, advance_single holds once⟩)
      (fun _ _ again holds => billed_again holds (not_not.mp again)) ⟨marked, single⟩ schedule
  have start : Serial requests (arrived php hash clock events) := by
    refine ⟨fun j inside => ?_, fun j k _ inside => ?_⟩ <;> cases inside
  refine ⟨exactly, fun serial => exactly.mpr ?_⟩
  exact serial.imp_of_keeps (P := Serial requests)
    (fun i s alone kept => serial_advance kept alone) start

end Schedules

/-- The administrator completes the first appointment, in two requests at once. -/
def completeTwice (_ : Bool) : Completion := ⟨morning, .int 1, .int 1⟩

/-- Both requests ask before either bills; the bills come one after the other. -/
theorem billed_twice :
    ¬ ∀ schedule, SingleInvoices
      (run (advance completeTwice) (arrived recorded (fun _ => adminHash) morning [])
        schedule).shared := by
  intro single
  have twice : ∃ r ∈ (run (advance completeTwice) (arrived recorded (fun _ => adminHash) morning [])
      [false, true, false, true, false, true]).shared.invoices.rows,
      ∃ s ∈ (run (advance completeTwice) (arrived recorded (fun _ => adminHash) morning [])
        [false, true, false, true, false, true]).shared.invoices.rows,
      r ≠ s ∧ r.cols.appointmentId = some 1 ∧ s.cols.appointmentId = some 1 := by decide +kernel
  obtain ⟨r, rMember, s, sMember, different, rBills, sBills⟩ := twice
  exact different (single _ r rMember s sMember 1 rBills sBills)

end Saloon.Guarantees
