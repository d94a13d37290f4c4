import Saloon.Guarantees.Books

/-!
# Completed and cancelled appointments

No menu offers a way out of either status, and the app says so; the endpoint
behind the menus takes an appointment from any status to any other, invoiced
or not.
-/
namespace Saloon.Guarantees

open Lib Source

def Final (status : String) : Prop := status = "completed" ∨ status = "cancelled"

/-- Every appointment with a final status still has it. -/
def FinalKept (db after : Db) : Prop :=
  ∀ a ∈ db.appointments.rows, Final a.cols.status →
    ∃ b ∈ after.appointments.rows, b.id = a.id ∧ b.cols.status = a.cols.status

def InvoicedCompleted (db : Db) : Prop :=
  ∀ a ∈ db.appointments.rows, (∃ i ∈ db.invoices.rows, i.cols.appointmentId = some a.id) →
    a.cols.status = "completed"

/-- A status update that takes an appointment out of a final status. -/
def LeavesFinal (php : Platform) (e : Event) (db : Db) : Prop :=
  Asks e "appointments_update" ["POST", "PUT"] ∧
    (∃ payload, Passes php e [.admin, .receptionist, .stylist] payload) ∧
    isStatus (statusOf e) = true ∧
    ∃ a ∈ db.appointments.rows, (arg e "id").key = .num a.id ∧ Final a.cols.status ∧
      (statusOf e).strval ≠ a.cols.status

/-- The invariant behind the invoiced appointments: the invoices' side. -/
def BilledCompleted (db : Db) : Prop :=
  ∀ i ∈ db.invoices.rows, ∀ k, i.cols.appointmentId = some k →
    ∃ a ∈ db.appointments.rows, a.id = k ∧ a.cols.status = "completed"

section Steps

variable {php : Platform} {e : Event} {user : Option Val} {db mid after : Db}

theorem FinalKept.refl (db : Db) : FinalKept db db := fun a member _ => ⟨a, member, rfl, rfl⟩

theorem FinalKept.trans (first : FinalKept db mid) (second : FinalKept mid after) :
    FinalKept db after := by
  intro a member final
  obtain ⟨b, bMember, bId, bStatus⟩ := first a member final
  obtain ⟨c, cMember, cId, cStatus⟩ := second b bMember (bStatus ▸ final)
  exact ⟨c, cMember, cId.trans bId, cStatus.trans bStatus⟩

theorem BilledCompleted.invoiced (billed : BilledCompleted db) : InvoicedCompleted db := by
  rintro a member ⟨i, iMember, bound⟩
  obtain ⟨b, bMember, same, completed⟩ := billed i iMember a.id bound
  rwa [← db.appointments.eq_of_id_eq bMember member same]

theorem Served.finalKept (served : Served php e user db after) (kept : ¬ LeavesFinal php e db) :
    FinalKept db after := by
  intro a member final
  cases served.appointment_cases with
  | same appointments =>
    rw [appointments]
    exact ⟨a, member, rfl, rfl⟩
  | booked b client named booking result asked =>
    obtain ⟨appointments, -, -⟩ := client_appointments client
    rw [result]
    exact ⟨a, Table.mem_insert.mpr (.inl (appointments ▸ member)), rfl, rfl⟩
  | marked asked checked known found appointments bill =>
    rw [appointments]
    refine ⟨_, Table.mem_modify.mpr ⟨a, member, rfl⟩, ?_⟩
    by_cases hit : byId (arg e "id").key a = true
    · rw [if_pos hit]
      refine ⟨rfl, ?_⟩
      by_contra changed
      exact kept ⟨asked, ⟨_, checked⟩, known, a, member, (byId_iff.mp hit).symm, final, changed⟩
    · rw [if_neg hit]
      exact ⟨rfl, rfl⟩

/-- A new invoice of an appointment comes with its completion. -/
theorem Served.billedCompleted (served : Served php e user db after) (kept : FinalKept db after)
    (billed : BilledCompleted db) : BilledCompleted after := by
  have old : ∀ i ∈ db.invoices.rows, ∀ k, i.cols.appointmentId = some k →
      ∃ a ∈ after.appointments.rows, a.id = k ∧ a.cols.status = "completed" := by
    intro i member k bound
    obtain ⟨a, aMember, aId, completed⟩ := billed i member k bound
    obtain ⟨b, bMember, bId, bStatus⟩ := kept a aMember (.inl completed)
    exact ⟨b, bMember, bId.trans aId, bStatus.trans completed⟩
  cases served.books_cases with
  | same invoices | client c unspent invoices | product asked p stocked invoices
    | stock asked checked invoices =>
    intro i member
    rw [invoices] at member
    exact old i member
  | sale sale sound source invoices items clients products =>
    intro i member k bound
    rw [invoices] at member
    rcases Table.mem_insert.mp member with before | rfl
    · exact old i before k bound
    · cases source with
      | checkout asked accepted unbound appointments => cases unbound.symm.trans bound
      | completion a aMember asked completed key own services appointments stylists uninvoiced checked payment =>
        rw [appointments]
        refine ⟨_, Table.mem_modify.mpr ⟨a, aMember, rfl⟩, ?_⟩
        rw [if_pos (byId_iff.mpr key.symm)]
        refine ⟨Option.some.inj (own.symm.trans bound), ?_⟩
        exact (is_iff_strval (by decide) (by decide)).mp completed

/-- An appointment that is taken out of a final status has lost it. -/
theorem final_lost (leaves : LeavesFinal php e db) (refs : ReferencesHold db) :
    ¬ FinalKept db (request php e db) := by
  obtain ⟨asked, ⟨payload, checked⟩, known, a, member, key, final, other⟩ := leaves
  intro kept
  obtain ⟨b, bMember, bId, bStatus⟩ := kept a member final
  rw [request_marks asked checked known member key refs] at bMember
  obtain ⟨c, cMember, rfl⟩ := Table.mem_modify.mp bMember
  have same : c = a := by
    refine db.appointments.eq_of_id_eq cMember member ?_
    split at bId <;> exact bId
  rw [same, if_pos (byId_iff.mpr key.symm)] at bStatus
  exact other bStatus

end Steps

section Runs

variable {php : Platform} {hash : String → String} {clock : Clock} {first second : List Event}

theorem finalKept_of_along
    (along : Along (request php) (fun e db => ¬ LeavesFinal php e db)
      (afterRun php hash clock first) second) :
    FinalKept (afterRun php hash clock first) (afterRun php hash clock (first ++ second)) := by
  rw [afterRun_append]
  exact along.keeps (fun e db kept so => so.trans ((serve_served php e db).finalKept kept)) (.refl _)

theorem billedCompleted_of_along
    (along : Along (request php) (fun e db => ¬ LeavesFinal php e db) (seed hash clock) first) :
    BilledCompleted (afterRun php hash clock first) :=
  along.keeps
    (fun e db kept so =>
      (serve_served php e db).billedCompleted ((serve_served php e db).finalKept kept) so)
    fun _ member => by cases member

end Runs

/-- In a run every completed or cancelled appointment stays so, and every invoiced one is
completed, in every state, exactly when no status update of the run takes an appointment
out of one of the two. -/
theorem final_statuses_iff (php : Platform) (hash : String → String) (clock : Clock)
    (events : List Event) :
    ((∀ first second, first ++ second <+: events →
        FinalKept (afterRun php hash clock first) (afterRun php hash clock (first ++ second))) ∧
      ∀ first, first <+: events → InvoicedCompleted (afterRun php hash clock first)) ↔
      Along (request php) (fun e db => ¬ LeavesFinal php e db) (seed hash clock) events := by
  rw [along_iff]
  constructor
  · rintro ⟨kept, -⟩ first e before leaves
    refine final_lost leaves (references_hold php hash clock first) ?_
    have one := kept first [e] before
    rwa [afterRun_append] at one
  · intro each
    constructor
    · intro first second before
      refine finalKept_of_along (along_iff.mpr fun more e within => ?_)
      rw [← afterRun_append]
      refine each (first ++ more) e (List.IsPrefix.trans ?_ before)
      rw [List.append_assoc]
      exact (List.prefix_append_right_inj first).mpr within
    · intro first before
      refine (billedCompleted_of_along (along_iff.mpr fun more e within => ?_)).invoiced
      exact each more e (within.trans before)

/-- An appointment is completed and billed, and then cancelled with its invoice in the books. -/
theorem cancelled_with_invoice :
    (¬ ∀ first second, FinalKept (afterRun recorded (fun _ => adminHash) morning first)
      (afterRun recorded (fun _ => adminHash) morning (first ++ second))) ∧
    ¬ ∀ events, InvoicedCompleted (afterRun recorded (fun _ => adminHash) morning events) := by
  have cancelled : ∃ a ∈ (afterRun recorded (fun _ => adminHash) morning
      [completeFirst, cancelFirst]).appointments.rows,
      (∃ i ∈ (afterRun recorded (fun _ => adminHash) morning
        [completeFirst, cancelFirst]).invoices.rows, i.cols.appointmentId = some a.id) ∧
        a.cols.status = "cancelled" := by decide +kernel
  have lost : ∃ a ∈ (afterRun recorded (fun _ => adminHash) morning [completeFirst]).appointments.rows,
      a.cols.status = "completed" ∧ ¬ ∃ b ∈ (afterRun recorded (fun _ => adminHash) morning
        ([completeFirst] ++ [cancelFirst])).appointments.rows,
        b.id = a.id ∧ b.cols.status = a.cols.status := by
    decide +kernel
  constructor
  · intro kept
    obtain ⟨a, member, completed, gone⟩ := lost
    exact gone (kept [completeFirst] [cancelFirst] a member (.inl completed))
  · intro completed
    obtain ⟨a, member, invoiced, status⟩ := cancelled
    exact absurd (status.symm.trans (completed _ a member invoiced)) (by decide)

end Saloon.Guarantees
