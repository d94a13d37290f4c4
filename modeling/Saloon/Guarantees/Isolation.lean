import Saloon.Guarantees.Books
import Saloon.Guarantees.Correspondence

/-!
# What a stylist writes

The lists a stylist is shown are filtered by the stylist's own staff row. The
status update takes any appointment id, and writes the appointment, the staff
row it is assigned to, and the invoice with its line.
-/
namespace Saloon.Guarantees

open Lib Source

/-- The staff row is the one that the lists of this payload's user are filtered by. -/
def Owns (payload : Val) (db : Db) (staffId : Option Nat) : Prop :=
  staffId ≠ none ∧ AppointmentController.ownStaff payload db = staffId

/-- Every row that is changed or added belongs to the payload's own staff row. -/
structure Isolated (payload : Val) (db after : Db) : Prop where
  appointments : ∀ a ∈ after.appointments.rows, a ∉ db.appointments.rows →
    Owns payload db a.cols.staffId
  staff : ∀ s ∈ after.staff.rows, s ∉ db.staff.rows → Owns payload db (some s.id)
  lines : ∀ x ∈ after.invoiceItems.rows, x ∉ db.invoiceItems.rows →
    Owns payload db x.cols.stylistId
  invoices : ∀ i ∈ after.invoices.rows, i ∉ db.invoices.rows →
    ∃ a ∈ db.appointments.rows, i.cols.appointmentId = some a.id ∧ Owns payload db a.cols.staffId

/-- A stylist's token passes for one of the two actions. -/
def StylistWrites (php : Platform) (e : Event) (payload : Val) : Prop :=
  payload.field "role" = .str "stylist" ∧
    (Asks e "appointments_update" ["POST", "PUT"] ∧
        Passes php e [.admin, .receptionist, .stylist] payload ∨
      Asks e "staff_update_status" ["POST"] ∧ Passes php e [.stylist] payload)

/-- A status update of another staff member's appointment that changes its status, or
that staff member's, or has the appointment billed. -/
def Intrudes (e : Event) (payload : Val) (db : Db) : Prop :=
  Asks e "appointments_update" ["POST", "PUT"] ∧ isStatus (statusOf e) = true ∧
    ∃ a ∈ db.appointments.rows, (arg e "id").key = .num a.id ∧ ¬ Owns payload db a.cols.staffId ∧
      ((statusOf e).strval ≠ a.cols.status ∨
        (∃ s ∈ db.staff.rows, a.cols.staffId = some s.id ∧
          s.cols.status ≠ Appointment.staffStatus (statusOf e)) ∨
        (statusOf e).is "completed" = true ∧ Invoice.isInvoiced (.num a.id) db = false ∧
          Payment e.clock (payload.field "id") db)

section Steps

variable {php : Platform} {e : Event} {payload : Val} {db : Db}

theorem passes_unique {roles : List Role} {payload' : Val} (first : Passes php e roles payload)
    (second : Passes php e roles payload') : payload' = payload := by
  rw [Passes] at first second
  exact Except.ok.inj (second.symm.trans first)

/-- A row that a modification changed was selected, and is another than before. -/
theorem changed_of_modify {α : Type} {t : Table α} {p : Row α → Bool} {f : α → α} {r : Row α}
    (member : r ∈ (t.modify p f).rows) (new : r ∉ t.rows) :
    ∃ old ∈ t.rows, p old = true ∧ r = { old with cols := f old.cols } ∧ f old.cols ≠ old.cols := by
  obtain ⟨old, oldMember, rfl⟩ := Table.mem_modify.mp member
  by_cases hit : p old = true
  · rw [if_pos hit] at new ⊢
    refine ⟨old, oldMember, hit, rfl, fun same => new ?_⟩
    rw [same]
    exact oldMember
  · rw [if_neg hit] at new
    exact absurd oldMember new

/-- The row of the staff member that a stylist's toggle names is the stylist's own. -/
theorem owns_of_hasUserId (roster : RosterHolds db) {s : Row Staff} (member : s ∈ db.staff.rows)
    (own : hasUserId (payload.field "id").key s = true) : Owns payload db (some s.id) := by
  refine ⟨by simp, ?_⟩
  rw [AppointmentController.ownStaff, Table.find?_of_unique member own fun t tMember tOwn => ?_]
  · rfl
  · unfold hasUserId at own tOwn
    refine roster.single t tMember s member ?_
    split at own
    · rename_i u user
      split at tOwn
      · rename_i v tUser
        simp only [decide_eq_true_eq] at own tOwn
        rw [user, tUser, Option.some.injEq]
        simpa using tOwn.trans own.symm
      · cases tOwn
    · cases own

theorem not_booking {action : String} {methods : List String} (asked : Asks e action methods)
    (other : action ≠ "appointments" ∧ action ≠ "book_online") : ¬ AsksBooking e := by
  rintro (asks | asks)
  · exact asked.ne other.1 asks
  · exact asked.ne other.2 asks

theorem not_roster {action : String} {methods : List String} (asked : Asks e action methods)
    (other : action ≠ "register" ∧ action ≠ "staff" ∧ action ≠ "staff_update") :
    ¬ AsksRoster e := by
  rintro ((asks | asks) | asks)
  · exact asked.ne other.1 asks
  · exact asked.ne other.2.1 asks
  · exact asked.ne other.2.2 asks

/-- The bill of a status update that does not intrude is for an own appointment. -/
theorem bill_of_statusUpdate (asked : Asks e "appointments_update" ["POST", "PUT"])
    (checked : Passes php e [.admin, .receptionist, .stylist] payload)
    (polite : ¬ Intrudes e payload db) :
    ((request php e db).invoiceItems = db.invoiceItems ∧
        (request php e db).invoices = db.invoices) ∨
      ∃ sale : Sale, ∃ a ∈ db.appointments.rows, Owns payload db a.cols.staffId ∧
        sale.appointmentId = some a.id ∧ (∀ line ∈ sale.lines, line.stylistId = a.cols.staffId) ∧
        (request php e db).invoiceItems = sale.lines.foldl Table.insert db.invoiceItems ∧
        (request php e db).invoices = db.invoices.insert (sale.invoice e.clock) := by
  have change : BooksChange php e db (request php e db) := (serve_served php e db).books_cases
  cases change with
  | same invoices items clients products => exact .inl ⟨items, invoices⟩
  | client c unspent invoices items clients products => exact .inl ⟨items, invoices⟩
  | product asks p stocked invoices items clients products => exact .inl ⟨items, invoices⟩
  | stock asks _ invoices items clients products => exact .inl ⟨items, invoices⟩
  | sale sale sound source invoices items clients products =>
    cases source with
    | checkout asks accepted unbound appointments => exact absurd asks (asked.ne (by decide))
    | completion a member _ completed key bound services appointments stylists uninvoiced passed
        payment =>
      refine .inr ⟨sale, a, member, ?_, bound, stylists, items, invoices⟩
      by_contra foreign
      rw [passes_unique checked passed] at payment
      exact polite ⟨asked, isStatus_of_completed completed, a, member, key, foreign,
        .inr (.inr ⟨completed, uninvoiced, payment⟩)⟩

/-- A status update that does not intrude stays with the payload's own rows. -/
theorem isolated_statusUpdate (asked : Asks e "appointments_update" ["POST", "PUT"])
    (checked : Passes php e [.admin, .receptionist, .stylist] payload)
    (polite : ¬ Intrudes e payload db) : Isolated payload db (request php e db) where
  appointments r member new := by
    have change : AppointmentChange php e db (request php e db) :=
      (serve_served php e db).appointment_cases
    cases change with
    | same appointments => exact absurd (appointments ▸ member) new
    | booked a client named booking result asks =>
      exact absurd asks (not_booking asked (by decide))
    | marked _ _ known found appointments bill =>
      rw [appointments] at member
      obtain ⟨a, aMember, hit, rfl, changed⟩ := changed_of_modify member new
      by_contra foreign
      refine polite ⟨asked, known, a, aMember, (byId_iff.mp hit).symm, foreign, .inl fun same => ?_⟩
      exact changed (congrArg (fun status => { a.cols with status }) same)
  staff r member new := by
    have change : RosterChange php e db (request php e db) := (serve_served php e db).roster_cases
    cases change with
    | same users staff busy => exact absurd (staff ▸ member) new
    | registered asks row other fresh users staff appointments =>
      exact absurd (staff ▸ member) new
    | hired asks row name specializations stylist named fresh users staff appointments =>
      exact absurd asks (not_roster asked (by decide))
    | edited asks free users staff appointments => exact absurd asks (not_roster asked (by decide))
    | toggled asks _ known users staff appointments => exact absurd asks (asked.ne (by decide))
    | marked _ _ known found users staff appointments =>
      obtain ⟨a, aMember, key, aStaff⟩ := Appointment.appointment_of_assigned found
      rw [staff] at member
      obtain ⟨s, sMember, hit, rfl, changed⟩ := changed_of_modify member new
      have assigned : a.cols.staffId = some s.id := by
        rw [aStaff, Option.some.injEq]
        simpa using (byId_iff.mp hit).symm
      by_contra foreign
      refine polite ⟨asked, known, a, aMember, key, assigned ▸ foreign,
        .inr (.inl ⟨s, sMember, assigned, fun same => ?_⟩)⟩
      exact changed (congrArg (fun status => { s.cols with status }) same.symm)
  lines x member new := by
    rcases bill_of_statusUpdate asked checked polite with
      ⟨items, -⟩ | ⟨sale, a, aMember, own, bound, stylists, items, -⟩
    · exact absurd (items ▸ member) new
    · rw [items] at member
      rw [stylists _ ((Table.mem_foldl_insert member).resolve_left new)]
      exact own
  invoices i member new := by
    rcases bill_of_statusUpdate asked checked polite with
      ⟨-, invoices⟩ | ⟨sale, a, aMember, own, bound, stylists, -, invoices⟩
    · exact absurd (invoices ▸ member) new
    · rw [invoices] at member
      obtain rfl := (Table.mem_insert.mp member).resolve_left new
      exact ⟨a, aMember, bound, own⟩

/-- A stylist's toggle writes the stylist's own staff row. -/
theorem isolated_toggle (roster : RosterHolds db) (asked : Asks e "staff_update_status" ["POST"])
    (checked : Passes php e [.stylist] payload) : Isolated payload db (request php e db) := by
  have unbilled : (request php e db).invoiceItems = db.invoiceItems ∧
      (request php e db).invoices = db.invoices := by
    have change : BooksChange php e db (request php e db) := (serve_served php e db).books_cases
    cases change with
    | same invoices items clients products => exact ⟨items, invoices⟩
    | client c unspent invoices items clients products => exact ⟨items, invoices⟩
    | product asks p stocked invoices items clients products => exact ⟨items, invoices⟩
    | stock asks _ invoices items clients products => exact ⟨items, invoices⟩
    | sale sale sound source invoices items clients products =>
      cases source with
      | checkout asks => exact absurd asks (asked.ne (by decide))
      | completion a member asks => exact absurd asks (asked.ne (by decide))
  refine ⟨fun r member new => ?_, fun r member new => ?_,
    fun x member new => absurd (unbilled.1 ▸ member) new,
    fun i member new => absurd (unbilled.2 ▸ member) new⟩
  · have change : AppointmentChange php e db (request php e db) :=
      (serve_served php e db).appointment_cases
    cases change with
    | same appointments => exact absurd (appointments ▸ member) new
    | booked a client named booking result asks =>
      exact absurd asks (not_booking asked (by decide))
    | marked asks => exact absurd asks (asked.ne (by decide))
  · have change : RosterChange php e db (request php e db) := (serve_served php e db).roster_cases
    cases change with
    | same users staff busy => exact absurd (staff ▸ member) new
    | registered asks row other fresh users staff appointments => exact absurd (staff ▸ member) new
    | hired asks => exact absurd asks (not_roster asked (by decide))
    | edited asks => exact absurd asks (not_roster asked (by decide))
    | toggled _ passed known users staff appointments =>
      rw [staff] at member
      obtain ⟨s, sMember, hit, rfl, -⟩ := changed_of_modify member new
      rw [passes_unique checked passed] at hit
      have own : Owns payload db (some s.id) := owns_of_hasUserId roster sMember hit
      exact own
    | marked asks => exact absurd asks (asked.ne (by decide))

/-- An update that intrudes leaves a row of another staff member changed or added. -/
theorem not_isolated (checked : Passes php e [.admin, .receptionist, .stylist] payload)
    (refs : ReferencesHold db) (intrudes : Intrudes e payload db) :
    ¬ Isolated payload db (request php e db) := by
  obtain ⟨asked, known, a, member, key, foreign, effect⟩ := intrudes
  obtain ⟨-, ⟨s, sMember, assigned⟩, -⟩ := refs a member
  obtain ⟨appointments, staff⟩ := request_mark asked checked known
    (assigned_of_mem member key assigned)
  intro isolated
  rcases effect with status | ⟨t, tMember, tAssigned, tStatus⟩ | ⟨completed, uninvoiced, payment⟩
  · have there : ⟨a.id, Appointment.setStatus (statusOf e).strval a.cols⟩ ∈
        (request php e db).appointments.rows := by
      rw [appointments]
      exact Table.mem_modify.mpr ⟨a, member, by simp [byId_iff.mpr key.symm]⟩
    have own := isolated.appointments _ there fun old => status
      (congrArg (fun r => r.cols.status) (db.appointments.eq_of_id_eq old member rfl))
    exact foreign own
  · obtain rfl : s = t := by
      refine db.staff.eq_of_id_eq sMember tMember ?_
      exact Option.some.inj (assigned.symm.trans tAssigned)
    have there : ⟨s.id, Staff.setStatus (Appointment.staffStatus (statusOf e)) s.cols⟩ ∈
        (request php e db).staff.rows := by
      rw [staff]
      exact Table.mem_modify.mpr ⟨s, sMember, by simp⟩
    have own := isolated.staff _ there fun old => tStatus
      (congrArg (fun r => r.cols.status) (db.staff.eq_of_id_eq sMember old rfl))
    exact foreign (assigned ▸ own)
  · obtain ⟨i, invoices, bound⟩ := request_bills asked checked completed member key uninvoiced refs
      payment
    have there : ⟨db.invoices.nextId, i⟩ ∈ (request php e db).invoices.rows := by
      rw [invoices]
      exact Table.mem_insert_self _ _
    obtain ⟨b, bMember, bBound, own⟩ := isolated.invoices _ there fun old =>
      db.invoices.id_ne_nextId old rfl
    have same : a.id = b.id := Option.some.inj (bound.symm.trans bBound)
    rw [← db.appointments.eq_of_id_eq member bMember same] at own
    exact foreign own

/-- A stylist's write stays with the stylist's own rows exactly when it does not intrude. -/
theorem isolated_iff (refs : ReferencesHold db) (roster : RosterHolds db)
    (writes : StylistWrites php e payload) :
    Isolated payload db (request php e db) ↔ ¬ Intrudes e payload db := by
  obtain ⟨-, ⟨asked, checked⟩ | ⟨asked, checked⟩⟩ := writes
  · exact ⟨fun isolated intrudes => not_isolated checked refs intrudes isolated,
      isolated_statusUpdate asked checked⟩
  · exact iff_of_true (isolated_toggle roster asked checked)
      fun intrudes => asked.ne (by decide) intrudes.1

end Steps

/-- After every run, a status update or a toggle by a stylist changes and adds only rows of
the stylist's own staff row exactly when it is not an update of another staff member's
appointment that has an effect. -/
theorem stylist_isolation_iff (php : Platform) (hash : String → String) (clock : Clock)
    (events : List Event) (e : Event) (payload : Val) (writes : StylistWrites php e payload) :
    Isolated payload (afterRun php hash clock events) (request php e (afterRun php hash clock events)) ↔
      ¬ Intrudes e payload (afterRun php hash clock events) :=
  isolated_iff (references_hold php hash clock events) (roster_holds php hash clock events) writes

section Recorded

/-! The built-ins with the token of a stylist's login that morning. -/

def emmaPayload : Val :=
  .arr [("id", .int 3), ("username", .str "emma"), ("role", .str "stylist"),
    ("name", .str "Emma Watson"), ("exp", .int 1781164800)]

def emmaJson : Bytes := utf8
  "\x7b\"id\":3,\"username\":\"emma\",\"role\":\"stylist\",\"name\":\"Emma Watson\",\"exp\":1781164800\x7d"

def emmaMessage : Bytes := utf8
  "eyJhbGciOiJIUzI1NiIsInR5cCI6IkpXVCJ9.eyJpZCI6MywidXNlcm5hbWUiOiJlbW1hIiwicm9sZSI6InN0eWxpc3QiLCJuYW1lIjoiRW1tYSBXYXRzb24iLCJleHAiOjE3ODExNjQ4MDB9"

def emmaTag : Bytes :=
  [77, 94, 136, 57, 84, 38, 30, 76, 183, 158, 69, 61, 234, 19, 237, 78, 159, 156, 219, 44, 133, 203,
    161, 148, 229, 167, 175, 190, 130, 141, 248, 209]

def recordedEmma : Platform :=
  { recorded with
    hmac := fun m => if m = emmaMessage then emmaTag else recorded.hmac m
    jsonEncode := fun v =>
      match v with
      | .arr (("id", .int 3) :: _) => emmaJson
      | v => recorded.jsonEncode v
    jsonDecode := fun b => if b = emmaJson then emmaPayload else recorded.jsonDecode b }

def emmaRequest (action method : String) (body : List (String × Val)) : Event where
  clock := morning
  salt := 0
  request :=
    { action
      method
      headers :=
        { authorization := some (utf8 "Bearer " ++ JWT.token recordedEmma emmaMessage)
          lowercase := none
          server := none
          redirect := none }
      body := .arr body }

/-- The second appointment is the other stylist's. -/
def emmaCompletesSecond : Event := emmaRequest "appointments_update" "POST"
  [("id", .int 2), ("status", .str "completed")]

theorem emma_writes :
    ∃ payload, StylistWrites recordedEmma emmaCompletesSecond payload ∧
      (payload.field "id").key = .num 3 := by
  obtain ⟨payload, checked⟩ : ∃ payload, Passes recordedEmma emmaCompletesSecond
      [.admin, .receptionist, .stylist] payload := exists_passes (by decide +kernel)
  have claims : (AuthMiddleware.check recordedEmma morning emmaCompletesSecond.request.headers
      [.admin, .receptionist, .stylist]).toOption.map
      (fun p => ((p.field "role").is "stylist", (p.field "id").key)) = some (true, .num 3) := by
    decide +kernel
  have passed : AuthMiddleware.check recordedEmma morning emmaCompletesSecond.request.headers
      [.admin, .receptionist, .stylist] = .ok payload := checked
  rw [passed] at claims
  have both := Option.some.inj claims
  refine ⟨payload, ⟨?_, .inl ⟨⟨rfl, by decide⟩, checked⟩⟩, congrArg Prod.snd both⟩
  have role : (payload.field "role").is "stylist" = true := congrArg Prod.fst both
  cases text : payload.field "role" with
  | str t =>
    rw [text] at role
    exact congrArg Val.str (by simpa [Val.is] using role)
  | _ => rw [text] at role; cases role

theorem emma_isolated_iff :
    ∃ payload, StylistWrites recordedEmma emmaCompletesSecond payload ∧
      (Isolated payload (afterRun recordedEmma (fun _ => adminHash) morning [])
          (request recordedEmma emmaCompletesSecond
            (afterRun recordedEmma (fun _ => adminHash) morning [])) ↔
        ¬ Intrudes emmaCompletesSecond payload
          (afterRun recordedEmma (fun _ => adminHash) morning [])) := by
  obtain ⟨payload, writes, -⟩ := emma_writes
  exact ⟨payload, writes, stylist_isolation_iff recordedEmma (fun _ => adminHash) morning []
    emmaCompletesSecond payload writes⟩

/-- A stylist completes another stylist's appointment, and has it billed. -/
theorem other_stylists_appointment :
    ¬ ∀ e payload, StylistWrites recordedEmma e payload →
      Isolated payload morningDb (request recordedEmma e morningDb) := by
  intro isolated
  obtain ⟨payload, writes, own⟩ := emma_writes
  have foreign : ∃ a ∈ (request recordedEmma emmaCompletesSecond morningDb).appointments.rows,
      a ∉ morningDb.appointments.rows ∧ a.cols.staffId = some 2 := by decide +kernel
  obtain ⟨a, member, changed, staff⟩ := foreign
  have owns := ((isolated _ payload writes).appointments a member changed).2
  have first : (morningDb.staff.find? (hasUserId (.num 3))).map Row.id = some 1 := by decide +kernel
  rw [AppointmentController.ownStaff, own, staff, first] at owns
  exact absurd owns (by decide)

end Recorded

end Saloon.Guarantees
