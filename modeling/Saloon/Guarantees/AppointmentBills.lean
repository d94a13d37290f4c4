import Mathlib.Data.List.Induction
import Saloon.Guarantees.Books
import Saloon.Guarantees.DoubleBilling

/-!
# What an appointment is billed

A completion bills an appointment when no invoice is bound to it yet: one cash
invoice for its client, with its service at the price of that moment. Neither a
later status nor a later price touches that invoice.
-/
namespace Saloon.Guarantees

open Lib Source

/-- A status update of that appointment, by anyone. -/
def UpdatesStatus (e : Event) (appointmentId : Nat) : Prop :=
  Asks e "appointments_update" ["POST", "PUT"] ∧ (arg e "id").key = .num appointmentId

/-- The invoice is the bill of the appointment at that price. -/
structure BillOf (items : Table InvoiceItem) (a : Appointment) (service : Nat) (price : Rat)
    (i : Row Invoice) : Prop where
  method : i.cols.paymentMethod = "cash"
  client : i.cols.clientId = a.clientId
  served : a.serviceId = some service
  lines : ∃ id commission, items.rows.filter (fun x => x.cols.invoiceId = i.id) =
    [⟨id, i.id, "service", .num service, a.staffId, 1, price, commission⟩]

/-- What a request does to the invoices and their lines: nothing, a sale of the desk, or
the bill of an appointment that had none. -/
inductive BillChange (e : Event) (db after : Db) : Prop
  | same (invoices : after.invoices = db.invoices) (items : after.invoiceItems = db.invoiceItems)
  | desk (sale : Sale) (unbound : sale.appointmentId = none)
      (own : ∀ line ∈ sale.lines, line.invoiceId = db.invoices.nextId)
      (invoices : after.invoices = db.invoices.insert (sale.invoice e.clock))
      (items : after.invoiceItems = sale.lines.foldl Table.insert db.invoiceItems)
  | bill (a : Row Appointment) (member : a ∈ db.appointments.rows)
      (asked : UpdatesStatus e a.id) (completed : (statusOf e).is "completed" = true)
      (s : Row Service) (sMember : s ∈ db.services.rows) (service : a.cols.serviceId = some s.id)
      (i : Invoice) (method : i.paymentMethod = "cash") (client : i.clientId = a.cols.clientId)
      (bound : i.appointmentId = some a.id) (commission : Rat)
      (invoices : after.invoices = db.invoices.insert i)
      (items : after.invoiceItems = db.invoiceItems.insert
        ⟨db.invoices.nextId, "service", .num s.id, a.cols.staffId, 1, s.cols.price, commission⟩)

section Steps

variable {php : Platform} {e : Event} {user : Option Val} {db after : Db}

/-- The sale of an appointment's checkout. -/
theorem lines_of_charged {clock : Clock} {id loggedById : Val} {apt : Invoice.Billable} {sale : Sale}
    {drawers : Table CashReconciliation} {service : Nat} (named : apt.serviceId = some service)
    (charged : Invoice.Charged clock db (.ofId apt.clientId) loggedById (.str "cash")
      (.list [apt.item]) id sale drawers) :
    sale.clientId = apt.clientId ∧ ∃ commission, sale.lines =
      [⟨db.invoices.nextId, "service", .num service, apt.staffId, 1, apt.price, commission⟩] := by
  refine ⟨eq_of_foreignKey_ofId charged.client, ?_⟩
  have sold := charged.lines
  rw [Val.elems_list] at sold
  obtain ⟨line, rest, ⟨-, -, stylist, found, rfl⟩, none, lines⟩ := List.forall₂_cons_left_iff.mp sold
  obtain rfl := List.forall₂_nil_left_iff.mp none
  obtain rfl : stylist = apt.staffId := eq_of_foreignKey_ofId found
  have key : (Val.ofId apt.serviceId).key = .num service := by
    rw [named]
    simp [Val.ofId, Val.key]
  have line : Invoice.lineOf db db.invoices.nextId apt.item apt.staffId =
      ⟨db.invoices.nextId, "service", (Val.ofId apt.serviceId).key, apt.staffId, 1, apt.price,
        Invoice.commissionPaid db (.ofId apt.staffId) apt.price 1⟩ := rfl
  rw [key] at line
  exact ⟨_, lines.trans (congrArg (fun line => [line]) line)⟩

theorem Served.bill_cases (served : Served php e user db after) : BillChange e db after := by
  cases served with
  | complete asked checked passed allowed completed found pending billed =>
    obtain ⟨sale, drawers, -, charged, rfl⟩ := Invoice.checkoutStatements_eq_ok billed
    obtain ⟨a, member, key, -⟩ := Appointment.appointment_of_assigned found
    have bill := (Appointment.toBill_eq_some.mp pending).2
    rw [Appointment.billable_mark, Invoice.billable, lookup_eq_some.mpr ⟨member, key⟩,
      Option.bind_some] at bill
    obtain ⟨service, named, priced⟩ := Option.bind_eq_some_iff.mp bill
    obtain ⟨s, hit, rfl⟩ := Option.map_eq_some_iff.mp priced
    obtain ⟨sMember, same⟩ := lookup_eq_some.mp hit
    obtain rfl : service = s.id := by simpa using same
    obtain ⟨client, commission, lines⟩ := lines_of_charged named charged
    refine .bill a member ⟨asked, key⟩ completed s sMember named (sale.invoice e.clock) ?_ client
      (charged.appointment_eq key) commission rfl ?_
    · show sale.paymentMethod.strval = "cash"
      rw [charged.method]
      rfl
    · show sale.lines.foldl Table.insert db.invoiceItems = _
      rw [lines]
      rfl
  | checkout asked checked passed allowed method items done =>
    obtain ⟨sale, drawers, -, charged, rfl⟩ := Invoice.checkoutStatements_eq_ok done
    exact .desk sale (charged.appointment_none rfl) (sound_of_charged charged).invoice rfl rfl
  | nothing => exact .same rfl rfl
  | register allowed known done asked =>
    obtain ⟨users, staff, rfl⟩ := User.registerStatements_frame done
    exact .same rfl rfl
  | updateStaff allowed done asked =>
    obtain ⟨users, staff, rfl⟩ := User.updateStatements_frame done
    exact .same rfl rfl
  | availability passed allowed known => exact .same rfl rfl
  | addClient allowed asked => exact .same rfl rfl
  | clientOnly asked client =>
    rcases client_frame client with rfl | ⟨c, rfl⟩ <;> exact .same rfl rfl
  | book asked named client done =>
    obtain ⟨a, -, rfl⟩ := Appointment.createStatements_eq_ok done
    rcases client_frame client with rfl | ⟨c, rfl⟩ <;> exact .same rfl rfl
  | mark asked checked passed allowed known found unbilled => exact .same rfl rfl
  | addService allowed duration nonneg => exact .same rfl rfl
  | updateService allowed duration nonneg => exact .same rfl rfl
  | addProduct allowed asked => exact .same rfl rfl
  | updateStock allowed => exact .same rfl rfl
  | expense asked passed allowed positive done =>
    obtain ⟨loggedBy, drawers, -, -, rfl⟩ := Expense.createStatements_eq_ok done
    exact .same rfl rfl
  | viewDrawer allowed =>
    obtain ⟨drawers, viewed⟩ := Reconciliation.getTodayStatus_frame e.clock db
    rw [viewed]
    exact .same rfl rfl
  | closeDrawer passed allowed =>
    obtain ⟨drawers, closed⟩ := Reconciliation.closeDrawer_frame e.clock _ _ _ db
    rw [closeOf, closed]
    exact .same rfl rfl

/-- What an appointment is booked for stays. -/
theorem Served.keepsBookings (served : Served php e user db after) :
    db.appointments.KeepsColumn (fun a => (a.clientId, a.staffId, a.serviceId))
      after.appointments := by
  cases served.appointment_cases with
  | same appointments =>
    rw [appointments]
    exact .refl _
  | booked a client named booking result asked =>
    rw [result, Db.setAppointments_appointments, (client_appointments client).1]
    exact Table.keepsColumn_insert _ _
  | marked asked checked known found appointments bill =>
    rw [appointments]
    exact Table.keepsColumn_modify _ _ fun _ => rfl

/-- The lines of another invoice are no lines of this one. -/
theorem filter_lines (lines : List InvoiceItem) {items : Table InvoiceItem} {n i : Nat}
    (own : ∀ line ∈ lines, line.invoiceId = n) (other : i ≠ n) :
    (lines.foldl Table.insert items).rows.filter (fun x => x.cols.invoiceId = i) =
      items.rows.filter fun x => x.cols.invoiceId = i := by
  induction lines generalizing items with
  | nil => rfl
  | cons line lines ih =>
    have first : line.invoiceId ≠ i := (own line (by simp)) ▸ other.symm
    rw [List.foldl_cons, ih fun line member => own line (by simp [member]), Table.insert_rows,
      List.filter_append]
    simp [first]

/-- The first line of an invoice is its only one. -/
theorem filter_first_line {items : Table InvoiceItem} {line : InvoiceItem} {n : Nat}
    (own : line.invoiceId = n) (unlined : ∀ x ∈ items.rows, x.cols.invoiceId ≠ n) :
    (items.insert line).rows.filter (fun x => x.cols.invoiceId = n) = [⟨items.nextId, line⟩] := by
  rw [Table.insert_rows, List.filter_append,
    List.filter_eq_nil_iff.mpr fun x member => by simpa using unlined x member]
  simp [own]

theorem BillOf.mono {items items' : Table InvoiceItem} {a b : Appointment} {service : Nat}
    {price : Rat} {i : Row Invoice}
    (booked : (b.clientId, b.staffId, b.serviceId) = (a.clientId, a.staffId, a.serviceId))
    (lines : items'.rows.filter (fun x => x.cols.invoiceId = i.id) =
      items.rows.filter fun x => x.cols.invoiceId = i.id)
    (bill : BillOf items a service price i) : BillOf items' b service price i := by
  simp only [Prod.mk.injEq] at booked
  obtain ⟨client, staff, served⟩ := booked
  obtain ⟨id, commission, own⟩ := bill.lines
  refine ⟨bill.method, bill.client.trans client.symm, served.trans bill.served, id, commission, ?_⟩
  rw [lines, own, staff]

/-- A status update of an invoiced appointment leaves the books alone. -/
theorem sameBooks_of_invoiced {k : Nat} (asked : UpdatesStatus e k)
    (invoiced : Invoice.isInvoiced (.num k) db = true) : SameBooks db (request php e db) := by
  obtain ⟨asked, key⟩ := asked
  have same : SameBooks db db := ⟨rfl, rfl, rfl, rfl, rfl, rfl⟩
  have settled (staffId : Nat) : Appointment.toBill (arg e "id").key
      (Appointment.mark (arg e "id") (statusOf e) staffId db) = none := by
    rw [Appointment.toBill_mark, Appointment.toBill, key, if_pos invoiced]
  rw [request, serve_db, index_statusUpdate asked]
  refine ends_of_handle (P := fun t => SameBooks db t.close) same fun payload _ => ?_
  refine ends_of_ite (P := fun t => SameBooks db t.close) (fun _ => same) fun _ => ?_
  refine ends_of_ite (P := fun t => SameBooks db t.close) (fun _ => same) fun _ => ?_
  refine ends_of_attempt (P := fun t => SameBooks db t.close) ?_
  show SameBooks db (Appointment.updateStatus e.clock (arg e "id") (statusOf e)
    (payload.field "id") (entered db payload)).2.close
  cases found : Appointment.assigned (arg e "id").key db with
  | none =>
    rw [Appointment.updateStatus_run_missing _ _ _ _ _ rfl found]
    exact same
  | some staffId =>
    rw [Appointment.updateStatus_marked _ _ _ _ (entered db payload) rfl found
      fun _ => settled staffId]
    exact ⟨rfl, rfl, rfl, rfl, rfl, rfl⟩

end Steps

section Runs

variable {php : Platform} {hash : String → String} {clock : Clock} {events : List Event}

/-- A completion within the run made the invoice: it was not there before that request and
is there after it, at the price that the service had before it. -/
def BilledWithin (php : Platform) (hash : String → String) (clock : Clock) (events : List Event)
    (appointmentId : Nat) (i : Row Invoice) : Prop :=
  ∃ first e, first ++ [e] <+: events ∧ UpdatesStatus e appointmentId ∧
    (statusOf e).is "completed" = true ∧
    i ∉ (afterRun php hash clock first).invoices.rows ∧
    i ∈ (afterRun php hash clock (first ++ [e])).invoices.rows ∧
    ∃ a ∈ (afterRun php hash clock events).appointments.rows, a.id = appointmentId ∧
      ∃ s ∈ (afterRun php hash clock first).services.rows,
        BillOf (afterRun php hash clock events).invoiceItems a.cols s.id s.cols.price i

/-- A bill stays what it is when its lines do. -/
theorem BilledWithin.snoc {e : Event} {k : Nat} {i : Row Invoice}
    (lines : (afterRun php hash clock (events ++ [e])).invoiceItems.rows.filter
        (fun x => x.cols.invoiceId = i.id) =
      (afterRun php hash clock events).invoiceItems.rows.filter fun x => x.cols.invoiceId = i.id)
    (billed : BilledWithin php hash clock events k i) :
    BilledWithin php hash clock (events ++ [e]) k i := by
  obtain ⟨first, f, before, asked, completed, absent, made, a, member, same, s, sMember, bill⟩ :=
    billed
  have kept := (serve_served php e (afterRun php hash clock events)).keepsBookings
  obtain ⟨b, bMember, bId, booked⟩ := kept a member
  refine ⟨first, f, before.trans (List.prefix_append _ _), asked, completed, absent, made, b, ?_,
    bId.trans same, s, sMember, bill.mono booked lines⟩
  rw [afterRun_snoc]
  exact bMember

/-- Every invoice that is bound to an appointment was made by a completion of the run. -/
theorem billed_within (php : Platform) (hash : String → String) (clock : Clock)
    (events : List Event) : ∀ i ∈ (afterRun php hash clock events).invoices.rows, ∀ k,
      i.cols.appointmentId = some k → BilledWithin php hash clock events k i := by
  induction events using List.reverseRecOn with
  | nil =>
    intro i member
    cases member
  | append_singleton events e ih =>
    intro i member k bound
    have change := (serve_served php e (afterRun php hash clock events)).bill_cases
    have result := afterRun_snoc php hash clock events e
    rw [result] at member
    cases change with
    | same invoices items =>
      refine (ih i (invoices ▸ member) k bound).snoc ?_
      rw [result]
      exact congrArg (fun t => List.filter _ t.rows) items
    | desk sale unbound own invoices items =>
      rw [request, invoices] at member
      rcases Table.mem_insert.mp member with old | rfl
      · refine (ih i old k bound).snoc ?_
        rw [result, request, items]
        exact filter_lines _ own (Table.id_ne_nextId _ old)
      · cases unbound.symm.trans bound
    | bill a aMember asked completed s sMember served invoice method client own commission
        invoices items =>
      rw [request, invoices] at member
      rcases Table.mem_insert.mp member with old | rfl
      · refine (ih i old k bound).snoc ?_
        rw [result, request, items]
        exact filter_lines [_] (by simp) (Table.id_ne_nextId _ old)
      · obtain rfl : a.id = k := Option.some.inj (own.symm.trans bound)
        obtain ⟨b, bMember, bId, booked⟩ :=
          (serve_served php e (afterRun php hash clock events)).keepsBookings a aMember
        have unlined : ∀ x ∈ (afterRun php hash clock events).invoiceItems.rows,
            x.cols.invoiceId ≠ (afterRun php hash clock events).invoices.nextId := by
          intro x xMember same
          obtain ⟨j, jMember, jId⟩ := (books_hold php hash clock events).invoiced x xMember
          exact Table.id_ne_nextId _ jMember (jId.trans same)
        refine ⟨events, e, by simp, asked, completed, ?_, ?_, b, result ▸ bMember, bId, s, sMember,
          BillOf.mono booked rfl ⟨method, client, served,
            (afterRun php hash clock events).invoiceItems.nextId, commission, ?_⟩⟩
        · exact fun old => Table.id_ne_nextId _ old rfl
        · rw [result, request, invoices]
          exact Table.mem_insert_self _ _
        · rw [result, request, items]
          exact filter_first_line rfl unlined

end Runs

/-- In every run an appointment has at most one invoice; that one was made by one of its
completions in the run, in cash, for its client, with the one line of its service and
staff member at the price that the service had then; and once it is there, a status update
of the appointment leaves the books as they are. -/
theorem appointment_billed_once (php : Platform) (hash : String → String) (clock : Clock)
    (events : List Event) (k : Nat) :
    (∀ i ∈ (afterRun php hash clock events).invoices.rows,
      ∀ j ∈ (afterRun php hash clock events).invoices.rows,
        i.cols.appointmentId = some k → j.cols.appointmentId = some k → i = j) ∧
    (∀ i ∈ (afterRun php hash clock events).invoices.rows, i.cols.appointmentId = some k →
      BilledWithin php hash clock events k i) ∧
    ∀ first e, first ++ [e] <+: events → UpdatesStatus e k →
      (∃ i ∈ (afterRun php hash clock first).invoices.rows, i.cols.appointmentId = some k) →
      SameBooks (afterRun php hash clock first) (afterRun php hash clock (first ++ [e])) := by
  refine ⟨fun i iMember j jMember => single_of_run php hash clock events i iMember j jMember k,
    fun i member => billed_within php hash clock events i member k, ?_⟩
  intro first e before asked invoiced
  rw [afterRun_snoc]
  exact sameBooks_of_invoiced asked (Invoice.isInvoiced_iff.mpr invoiced)

end Saloon.Guarantees
