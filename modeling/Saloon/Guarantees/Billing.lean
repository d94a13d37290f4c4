import Saloon.Guarantees.Bookings
import Saloon.Guarantees.ClosedDay

/-!
# Completed appointments and their invoices

A completion commits the status first and bills in a second transaction. When
the bill fails, the status stays and the handler has nothing to roll back. The
bill fails exactly when today's drawer is closed or the user it is logged under
is missing: the appointment's own references always exist.
-/
namespace Saloon.Guarantees

open Lib Source

/-- Every completed appointment has an invoice. -/
def BillingComplete (db : Db) : Prop :=
  ∀ a ∈ db.appointments.rows, a.cols.status = "completed" →
    ∃ i ∈ db.invoices.rows, i.cols.appointmentId = some a.id

def UserExists (userId : Val) (db : Db) : Prop :=
  ∃ r ∈ db.users.rows, userId.key = .num r.id

/-- Today's drawer and the user let a bill through. -/
def Payment (clock : Clock) (loggedById : Val) (db : Db) : Prop :=
  Accepting (dateKey clock.today) db.cashReconciliation ∧
    UserExists (Appointment.billedBy loggedById) db

/-- A completion of an appointment without an invoice whose bill does not go through. -/
def LosesBill (php : Platform) (e : Event) (db : Db) : Prop :=
  Asks e "appointments_update" ["POST", "PUT"] ∧ (statusOf e).is "completed" = true ∧
    ∃ a ∈ db.appointments.rows, (arg e "id").key = .num a.id ∧
      Invoice.isInvoiced (.num a.id) db = false ∧
      ∃ payload, Passes php e [.admin, .receptionist, .stylist] payload ∧
        ¬ Payment e.clock (payload.field "id") db

section Bills

variable {clock : Clock} {id loggedById status : Val} {staffId : Nat} {db after : Db}

theorem foreignKey_of_mem {α : Type} {t : Table α} {k : SqlVal} {r : Row α} (member : r ∈ t.rows)
    (key : k = .num r.id) : foreignKey t k = some (some r.id) :=
  foreignKey_eq_some.mpr ⟨key, r, member, rfl⟩

/-- An appointment has a price to bill. -/
theorem billable_of_referenced {a : Row Appointment} (member : a ∈ db.appointments.rows)
    (refs : Referenced db a.cols) :
    ∃ s ∈ db.services.rows, Invoice.billable (.num a.id) db =
      some ⟨a.cols.clientId, a.cols.staffId, some s.id, s.cols.price⟩ := by
  obtain ⟨s, sMember, service⟩ := refs.service
  refine ⟨s, sMember, ?_⟩
  have found : lookup db.appointments (.num a.id) = some a := lookup_eq_some.mpr ⟨member, rfl⟩
  have price : lookup db.services (.num s.id) = some s := lookup_eq_some.mpr ⟨sMember, rfl⟩
  simp only [Invoice.billable, found, Option.bind_some, service, price, Option.map_some]

/-- What the checkout of an appointment asks for is there, but perhaps the user. -/
theorem payable_of_referenced {a : Row Appointment} {apt : Invoice.Billable}
    (member : a ∈ db.appointments.rows) (refs : Referenced db a.cols) (key : id.key = .num a.id)
    (user : UserExists loggedById db) (bill : Invoice.billable id.key db = some apt) :
    Invoice.Payable db (.ofId apt.clientId) loggedById (.list [apt.item]) id := by
  obtain ⟨s, sMember, billed⟩ := billable_of_referenced member refs
  rw [key, billed] at bill
  cases bill
  obtain ⟨c, cMember, client⟩ := refs.client
  obtain ⟨t, tMember, staff⟩ := refs.staff
  obtain ⟨u, uMember, userKey⟩ := user
  refine ⟨⟨_, foreignKey_of_mem cMember (by rw [client]; rfl)⟩,
    ⟨_, foreignKey_of_mem uMember userKey⟩, ⟨_, foreignKey_of_mem member key⟩, ?_⟩
  intro item one
  rw [show (Val.list [_]).elems = [_] from rfl, List.mem_singleton] at one
  subst one
  refine ⟨by simp [Invoice.Billable.item], ?_, ?_, _, foreignKey_of_mem tMember ?_⟩
  · show (Val.str "service").key ≠ .null
    decide +kernel
  · show (SqlVal.num ((s.id : Int) : Rat)) ≠ .null
    simp
  · show (Val.ofId a.cols.staffId).key = .num t.id
    rw [staff]
    rfl

theorem references_mark (refs : ReferencesHold db) :
    ReferencesHold (Appointment.mark id status staffId db) := by
  intro a member
  have rows : KeepsRows db (Appointment.mark id status staffId db) :=
    (writes_mark (Option.some_ne_none Val.null)).rows
  obtain ⟨old, oldMember, rfl⟩ := Table.mem_modify.mp member
  obtain ⟨client, staff, service⟩ := (refs old oldMember).mono rows
  split <;> exact ⟨client, staff, service⟩

/-- An appointment is billed when the drawer and the user are right. -/
theorem billed_of_payment {apt : Invoice.Billable} (refs : ReferencesHold db)
    (bill : Invoice.billable id.key db = some apt) (payment : Payment clock loggedById db) :
    ∃ invoiceId done, Invoice.billStatements clock id (Appointment.billedBy loggedById) apt db =
      (.ok invoiceId, done) := by
  obtain ⟨a, hit, -⟩ := Option.bind_eq_some_iff.mp bill
  obtain ⟨member, key⟩ := lookup_eq_some.mp hit
  exact Invoice.checkoutStatements_accepts
    (payable_of_referenced member (refs a member) key payment.2 bill) payment.1 _

/-- The bill of an appointment needs the drawer and the user. -/
theorem payment_of_billed {apt : Invoice.Billable} {invoiceId : Nat}
    (billed : Invoice.billStatements clock id (Appointment.billedBy loggedById) apt db =
      (.ok invoiceId, after)) : Payment clock loggedById db := by
  obtain ⟨sale, drawers, -, charged, -⟩ := Invoice.checkoutStatements_eq_ok billed
  obtain ⟨key, r, member, same⟩ := foreignKey_eq_some.mp charged.user
  exact ⟨accepting_of_posted charged.drawer, r, member, same ▸ key⟩

/-- A status update concerns neither the drawer nor the users. -/
theorem payment_mark :
    Payment clock loggedById (Appointment.mark id status staffId db) ↔
      Payment clock loggedById db := Iff.rfl

/-- Nothing is left to bill only for an appointment that has its invoice. -/
theorem isInvoiced_of_settled (refs : ReferencesHold db)
    (found : Appointment.assigned id.key db = some staffId)
    (settled : Appointment.toBill id.key db = none) : Invoice.isInvoiced id.key db = true := by
  obtain ⟨a, member, key, -⟩ := Appointment.appointment_of_assigned found
  obtain ⟨s, -, billed⟩ := billable_of_referenced member (refs a member)
  by_contra uninvoiced
  rw [Appointment.toBill, if_neg uninvoiced, key, billed] at settled
  cases settled

end Bills

section Runs

/-- The invariant behind the completed appointments. -/
structure BillingHolds (db : Db) : Prop where
  references : ReferencesHold db
  complete : BillingComplete db

variable {php : Platform} {e : Event} {user : Option Val} {db after : Db}

theorem isInvoiced_mono {id : SqlVal} (more : db.invoices.Extends after.invoices)
    (invoiced : Invoice.isInvoiced id db = true) : Invoice.isInvoiced id after = true := by
  simp only [Invoice.isInvoiced, List.any_eq_true] at invoiced ⊢
  obtain ⟨i, member, same⟩ := invoiced
  exact ⟨i, more.mem member, same⟩

/-- A request that loses no bill leaves no completed appointment without an invoice. -/
theorem Served.billing (served : Served php e user db after) (kept : ¬ LosesBill php e db)
    (holds : BillingHolds db) : BillingComplete after := by
  have more := served.writes.rows.invoices
  have invoiced : ∀ a ∈ db.appointments.rows, a.cols.status = "completed" →
      ∃ i ∈ after.invoices.rows, i.cols.appointmentId = some a.id := by
    intro a member completed
    obtain ⟨i, iMember, same⟩ := holds.complete a member completed
    exact ⟨i, more.mem iMember, same⟩
  cases served.appointment_cases with
  | same appointments =>
    intro a member
    exact invoiced a (appointments ▸ member)
  | booked a client named booking result asked =>
    obtain ⟨appointments, -, -⟩ := client_appointments client
    intro b member completed
    have row : b ∈ (db.appointments.insert a).rows := by
      rw [result] at member
      rw [← appointments]
      exact member
    rcases Table.mem_insert.mp row with old | rfl
    · exact invoiced b old completed
    · exact absurd (booking.status.symm.trans completed) (by decide)
  | @marked payload staffId asked checked known found appointments bill =>
    intro b member completed
    rw [appointments] at member
    obtain ⟨old, oldMember, rfl⟩ := Table.mem_modify.mp member
    by_cases hit : byId (arg e "id").key old = true
    · simp only [hit, if_true] at completed ⊢
      have key : SqlVal.num old.id = (arg e "id").key := byId_iff.mp hit
      have done : (statusOf e).is "completed" = true :=
        (is_iff_strval (by decide) (by decide)).mpr completed
      rw [← Invoice.isInvoiced_iff, key]
      rcases bill done with billed | unbilled
      · exact billed
      · have marked := Appointment.toBill_mark (arg e "id") (statusOf e) staffId db
        cases pending : Appointment.toBill (arg e "id").key db with
        | none => exact isInvoiced_mono more (isInvoiced_of_settled holds.references found pending)
        | some apt =>
          exfalso
          have uninvoiced := (Appointment.toBill_eq_some.mp pending).1
          rw [← key] at uninvoiced
          refine kept ⟨asked, done, old, oldMember, key.symm, uninvoiced, _, checked,
            fun payment => ?_⟩
          obtain ⟨invoiceId, after, billed⟩ := billed_of_payment (references_mark holds.references)
            (Appointment.toBill_eq_some.mp (marked.trans pending)).2 (payment_mark.mpr payment)
          exact unbilled apt (marked.trans pending) invoiceId after billed
    · simp only [hit] at completed ⊢
      exact invoiced old oldMember completed

/-- A completion of an appointment that has no invoice finds it, with a bill to make. -/
theorem completion_pending {payload : Val} {a : Row Appointment}
    (asked : Asks e "appointments_update" ["POST", "PUT"])
    (checked : Passes php e [.admin, .receptionist, .stylist] payload)
    (completed : (statusOf e).is "completed" = true) (member : a ∈ db.appointments.rows)
    (key : (arg e "id").key = .num a.id)
    (uninvoiced : Invoice.isInvoiced (.num a.id) db = false) (refs : ReferencesHold db) :
    ∃ staffId apt, Appointment.assigned (arg e "id").key db = some staffId ∧
      Appointment.toBill (arg e "id").key
        (Appointment.mark (arg e "id") (statusOf e) staffId db) = some apt ∧
      request php e db = (Appointment.updateStatus e.clock (arg e "id") (statusOf e)
        (payload.field "id") (entered db payload)).2.close := by
  obtain ⟨-, ⟨s, -, staff⟩, -⟩ := refs a member
  have named : (arg e "id").empty = false := by
    rw [Val.empty, truthy_of_key (db.appointments.ids_range a member).1 key]
    rfl
  obtain ⟨v, -, bill⟩ := billable_of_referenced member (refs a member)
  have pending := (Appointment.toBill_mark (arg e "id") (statusOf e) s.id db).trans
    (Appointment.toBill_eq_some.mpr ⟨key ▸ uninvoiced, key ▸ bill⟩)
  exact ⟨s.id, _, assigned_of_mem member key staff, pending,
    serve_statusUpdate asked checked named (isStatus_of_completed completed)⟩

/-- A lost bill leaves its appointment completed without an invoice. -/
theorem lost_bill (loses : LosesBill php e db) (refs : ReferencesHold db) :
    ¬ BillingComplete (request php e db) := by
  obtain ⟨asked, completed, a, member, key, uninvoiced, payload, checked, unpaid⟩ := loses
  obtain ⟨staffId, apt, found, pending, served⟩ :=
    completion_pending asked checked completed member key uninvoiced refs
  have result : request php e db = Appointment.mark (arg e "id") (statusOf e) staffId db := by
    rw [served]
    rcases billed : Invoice.billStatements e.clock (arg e "id")
      (Appointment.billedBy (payload.field "id")) apt
      (Appointment.mark (arg e "id") (statusOf e) staffId db) with ⟨why | invoiceId, after⟩
    · obtain ⟨thrown, t, outcome, ends, -⟩ := Appointment.updateStatus_unbilled _ _ _ _
        (entered db payload) rfl found completed pending billed
      rw [outcome, ends]
      rfl
    · exact absurd (payment_mark.mp (payment_of_billed billed)) unpaid
  intro complete
  have aThere : ⟨a.id, Appointment.setStatus (statusOf e).strval a.cols⟩ ∈
      (request php e db).appointments.rows := by
    rw [result]
    exact Table.mem_modify.mpr ⟨a, member, by simp [byId_iff.mpr key.symm]⟩
  have strval : (statusOf e).strval = "completed" :=
    (is_iff_strval (by decide) (by decide)).mp completed
  have invoiced := Invoice.isInvoiced_iff.mpr (complete _ aThere strval)
  rw [result] at invoiced
  exact absurd (uninvoiced.symm.trans invoiced) (by simp)

/-- A completion that is paid for adds the invoice of its appointment. -/
theorem request_bills {payload : Val} {a : Row Appointment}
    (asked : Asks e "appointments_update" ["POST", "PUT"])
    (checked : Passes php e [.admin, .receptionist, .stylist] payload)
    (completed : (statusOf e).is "completed" = true) (member : a ∈ db.appointments.rows)
    (key : (arg e "id").key = .num a.id)
    (uninvoiced : Invoice.isInvoiced (.num a.id) db = false) (refs : ReferencesHold db)
    (payment : Payment e.clock (payload.field "id") db) :
    ∃ i : Invoice, (request php e db).invoices = db.invoices.insert i ∧
      i.appointmentId = some a.id := by
  obtain ⟨staffId, apt, found, pending, served⟩ :=
    completion_pending asked checked completed member key uninvoiced refs
  obtain ⟨invoiceId, after, billed⟩ := billed_of_payment (references_mark refs)
    (Appointment.toBill_eq_some.mp pending).2 (payment_mark.mpr payment)
  have result : request php e db = after := by
    rw [served,
      Appointment.updateStatus_billed _ _ _ _ (entered db payload) rfl found completed pending billed]
    rfl
  obtain ⟨sale, drawers, -, charged, rfl⟩ := Invoice.checkoutStatements_eq_ok billed
  exact ⟨sale.invoice e.clock, by rw [result]; rfl, charged.appointment_eq key⟩

theorem billing_seed (hash : String → String) (clock : Clock) : BillingHolds (seed hash clock) where
  references := references_seed hash clock
  complete a member completed := by
    rcases List.mem_cons.mp member with rfl | rest
    · exact absurd (show "active" = "completed" from completed) (by decide)
    · rw [List.mem_singleton.mp rest] at completed
      exact absurd (show "upcoming" = "completed" from completed) (by decide)

end Runs

section Calls

variable {clock : Clock} {id loggedById : Val} {db : Db}

/-- One completion as a caller sees it: it succeeds and the appointment has an invoice,
or it reports an error and everything is as before. -/
def CallSettles (clock : Clock) (id loggedById : Val) (db : Db) : Prop :=
  let outcome := Appointment.updateStatus clock id (.str "completed") loggedById (.start db)
  outcome.1 = .ok () ∧ Invoice.isInvoiced id.key outcome.2.close = true ∨
    (∃ stop, outcome.1 = .error stop) ∧ outcome.2.close = db

/-- The status transaction of a completion would change nothing. -/
def AlreadyMarked (a : Row Appointment) (db : Db) : Prop :=
  a.cols.status = "completed" ∧
    ∀ s ∈ db.staff.rows, a.cols.staffId = some s.id → s.cols.status = "available"

theorem mark_eq_self_iff {a : Row Appointment} {staffId : Nat}
    (member : a ∈ db.appointments.rows) (key : id.key = .num a.id)
    (staff : a.cols.staffId = some staffId) :
    Appointment.mark id (.str "completed") staffId db = db ↔ AlreadyMarked a db := by
  constructor
  · intro same
    have appointments : db.appointments.modify (byId id.key)
        (Appointment.setStatus "completed") = db.appointments := congrArg Db.appointments same
    have staffs : db.staff.modify (byId (.num staffId)) (.setStatus "available") = db.staff :=
      congrArg Db.staff same
    refine ⟨?_, fun s sMember assigned => ?_⟩
    · have cols := Table.cols_of_modify_eq_self appointments member (byId_iff.mpr key.symm)
      exact (congrArg Appointment.status cols).symm
    · rw [staff, Option.some.injEq] at assigned
      have cols := Table.cols_of_modify_eq_self staffs sMember (byId_iff.mpr (by rw [assigned]))
      exact (congrArg Staff.status cols).symm
  · rintro ⟨completed, available⟩
    have appointments : db.appointments.modify (byId id.key)
        (Appointment.setStatus "completed") = db.appointments := by
      refine Table.modify_eq_self fun r rMember hit => ?_
      have same : SqlVal.num r.id = .num a.id := (byId_iff.mp hit).trans key
      obtain rfl := db.appointments.eq_of_id_eq rMember member (by simpa using same)
      exact congrArg (fun status => { r.cols with status }) completed.symm
    have staffs : db.staff.modify (byId (.num staffId)) (.setStatus "available") = db.staff := by
      refine Table.modify_eq_self fun s sMember hit => ?_
      have same : s.id = staffId := by simpa using byId_iff.mp hit
      have status := available s sMember (by rw [staff, same])
      exact congrArg (fun status => { s.cols with status }) status.symm
    ext1 <;> first | rfl | exact appointments | exact staffs

/-- A completion settles when there is no such appointment, or it has its invoice, or
the bill goes through, or there was nothing left to change. -/
def SettlesWhen (clock : Clock) (id loggedById : Val) (db : Db) : Prop :=
  ∀ a ∈ db.appointments.rows, id.key = .num a.id →
    Invoice.isInvoiced (.num a.id) db = true ∨ Payment clock loggedById db ∨ AlreadyMarked a db

/-- Of an appointment that has its invoice, a completion settles. -/
theorem callSettles_of_invoiced {staffId : Nat}
    (found : Appointment.assigned id.key (Session.start db).db = some staffId)
    (already : Invoice.isInvoiced id.key db = true) : CallSettles clock id loggedById db := by
  have settled : Appointment.toBill id.key db = none := by
    rw [Appointment.toBill, if_pos already]
  have marked := Appointment.toBill_mark id (.str "completed") staffId db
  rw [CallSettles, Appointment.updateStatus_marked clock id _ loggedById (.start db) rfl found
    fun _ => marked.trans settled]
  exact .inl ⟨rfl, already⟩

/-- Of one that has none, it settles when the bill goes through, or when there is nothing
else to change. -/
theorem callSettles_of_pending {a : Row Appointment} {staffId : Nat} (refs : ReferencesHold db)
    (member : a ∈ db.appointments.rows) (key : id.key = .num a.id)
    (staff : a.cols.staffId = some staffId)
    (found : Appointment.assigned id.key (Session.start db).db = some staffId)
    (missing : Invoice.isInvoiced id.key db = false) :
    CallSettles clock id loggedById db ↔ Payment clock loggedById db ∨ AlreadyMarked a db := by
  obtain ⟨v, -, bill⟩ := billable_of_referenced member (refs a member)
  have pending := (Appointment.toBill_mark id (.str "completed") staffId db).trans
    (Appointment.toBill_eq_some.mpr ⟨missing, key ▸ bill⟩)
  unfold CallSettles
  rcases billed : Invoice.billStatements clock id (Appointment.billedBy loggedById) _
    (Appointment.mark id (.str "completed") staffId db) with ⟨why | invoiceId, after⟩
  · have unpaid : ¬ Payment clock loggedById db := by
      intro payment
      obtain ⟨invoiceId, done, accepted⟩ := billed_of_payment (references_mark refs)
        (Appointment.toBill_eq_some.mp pending).2 (payment_mark.mpr payment)
      cases billed.symm.trans accepted
    obtain ⟨thrown, t, outcome, ends, -⟩ := Appointment.updateStatus_unbilled clock id _
      loggedById (.start db) rfl found rfl pending billed
    rw [outcome]
    have unchanged : t.close = db ↔ AlreadyMarked a db := by
      rw [ends]
      exact mark_eq_self_iff member key staff
    rw [← unchanged]
    simp [unpaid]
  · rw [Appointment.updateStatus_billed clock id _ loggedById (.start db) rfl found rfl pending
      billed]
    refine iff_of_true (.inl ⟨rfl, ?_⟩) (.inl (payment_mark.mp (payment_of_billed billed)))
    exact isInvoiced_of_billed ((Appointment.assigned_mark id _ staffId db).trans found) billed

theorem callSettles_iff (refs : ReferencesHold db) :
    CallSettles clock id loggedById db ↔ SettlesWhen clock id loggedById db := by
  cases hit : lookup db.appointments id.key with
  | none =>
    have missing : Appointment.assigned id.key (Session.start db).db = none := by
      rw [Appointment.assigned, show (Session.start db).db = db from rfl, hit]
      rfl
    rw [CallSettles,
      Appointment.updateStatus_run_missing clock id _ loggedById (.start db) rfl missing]
    refine iff_of_true (.inr ⟨⟨_, rfl⟩, rfl⟩) fun a member key => ?_
    exact absurd key.symm (lookup_eq_none.mp hit a member)
  | some a =>
    obtain ⟨member, key⟩ := lookup_eq_some.mp hit
    obtain ⟨-, ⟨s, -, staff⟩, -⟩ := refs a member
    have found : Appointment.assigned id.key (Session.start db).db = some s.id := by
      rw [Appointment.assigned, show (Session.start db).db = db from rfl, hit]
      exact staff
    -- the appointment of the call is the only one with its id
    have single : SettlesWhen clock id loggedById db ↔
        Invoice.isInvoiced (.num a.id) db = true ∨ Payment clock loggedById db ∨
          AlreadyMarked a db := by
      refine ⟨fun settles => settles a member key, fun settles b bMember bKey => ?_⟩
      have same : SqlVal.num b.id = .num a.id := bKey.symm.trans key
      obtain rfl := db.appointments.eq_of_id_eq bMember member (by simpa using same)
      exact settles
    rw [single, ← key]
    by_cases already : Invoice.isInvoiced id.key db = true
    · exact iff_of_true (callSettles_of_invoiced found already) (.inl already)
    · rw [callSettles_of_pending refs member key staff found (Bool.not_eq_true _ ▸ already)]
      simp [already]

end Calls

/-- In a run every completed appointment has an invoice in every state exactly when no
completion of the run loses its bill; and in every reachable state a completion settles
exactly when `SettlesWhen` says so. -/
theorem billing_complete_iff (php : Platform) (hash : String → String) (clock : Clock)
    (events : List Event) :
    ((∀ first, first <+: events → BillingComplete (afterRun php hash clock first)) ↔
      Along (request php) (fun e db => ¬ LosesBill php e db) (seed hash clock) events) ∧
    ∀ now id loggedById, CallSettles now id loggedById (afterRun php hash clock events) ↔
      SettlesWhen now id loggedById (afterRun php hash clock events) := by
  constructor
  · exact always_iff_along (fun _ => BillingHolds.complete)
      (fun e db kept holds =>
        ⟨(serve_served php e db).references holds.references,
          (serve_served php e db).billing kept holds⟩)
      (fun _ _ loses holds => lost_bill (not_not.mp loses) holds.references)
      (billing_seed hash clock) events
  · intro now id loggedById
    exact callSettles_iff (references_hold php hash clock events)

def completeFirst : Event := adminRequest "appointments_update" "POST"
  [("id", .int 1), ("status", .str "completed")]

/-- With the drawer closed for the day, a completion is kept and never billed. -/
theorem completed_after_close :
    ¬ ∀ events, BillingComplete (afterRun recorded (fun _ => adminHash) morning events) := by
  intro complete
  have uninvoiced : ∃ a ∈ (afterRun recorded (fun _ => adminHash) morning
      [closeMorning, completeFirst]).appointments.rows, a.cols.status = "completed" ∧
        ¬ ∃ i ∈ (afterRun recorded (fun _ => adminHash) morning
          [closeMorning, completeFirst]).invoices.rows, i.cols.appointmentId = some a.id := by
    decide +kernel
  obtain ⟨a, member, completed, none⟩ := uninvoiced
  exact none (complete _ a member completed)

end Saloon.Guarantees
