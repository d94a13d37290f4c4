import Saloon.Guarantees.Correspondence

/-!
# The busy flag

A staff row's status is written from the one appointment that is being updated,
and from the stylist's own toggle. Neither looks at the other appointments of
the staff member.
-/
namespace Saloon.Guarantees

open Lib Source

/-- A staff member is in service exactly with an active appointment. -/
def BusyFlag (db : Db) : Prop :=
  ∀ s ∈ db.staff.rows, s.cols.status = "in_service" ↔ Busy db s.id

/-- The foreign key of the appointments' staff. -/
def StaffReferences (db : Db) : Prop :=
  ∀ a ∈ db.appointments.rows, ∀ i, a.cols.staffId = some i → ∃ s ∈ db.staff.rows, s.id = i

/-- A status update that frees a staff member who has another active appointment. -/
def FreesBusy (php : Platform) (e : Event) (db : Db) : Prop :=
  Asks e "appointments_update" ["POST", "PUT"] ∧
    (∃ payload, Passes php e [.admin, .receptionist, .stylist] payload) ∧
    isStatus (statusOf e) = true ∧ (statusOf e).strval ≠ "active" ∧
    ∃ a ∈ db.appointments.rows, (arg e "id").key = .num a.id ∧
      ∃ i, a.cols.staffId = some i ∧
        ∃ b ∈ db.appointments.rows, b ≠ a ∧ b.cols.staffId = some i ∧ b.cols.status = "active"

/-- A toggle by a stylist who has an active appointment. -/
def TogglesBusy (php : Platform) (e : Event) (db : Db) : Prop :=
  Asks e "staff_update_status" ["POST"] ∧
    (availabilityOf e).inArray ["available", "off"] = true ∧
    ∃ payload, Passes php e [.stylist] payload ∧
      ∃ s ∈ db.staff.rows, hasUserId (payload.field "id").key s = true ∧ Busy db s.id

def Desyncs (php : Platform) (e : Event) (db : Db) : Prop :=
  FreesBusy php e db ∨ TogglesBusy php e db

section Statuses

/-- No toggle sets the status of a service. -/
theorem toggled_ne_inService {status : Val}
    (known : status.inArray ["available", "off"] = true) : status.strval ≠ "in_service" := by
  intro same
  have is := (is_iff_strval (by decide) (by decide)).mpr same
  cases status with
  | str s =>
    obtain rfl : s = "in_service" := by simpa [Val.is] using is
    revert known
    decide +kernel
  | _ => cases is

theorem staffStatus_of_active {status : Val} (active : status.strval = "active") :
    Appointment.staffStatus status = "in_service" :=
  if_pos ((is_iff_strval (by decide) (by decide)).mpr active)

theorem staffStatus_of_not_active {status : Val} (other : status.strval ≠ "active") :
    Appointment.staffStatus status = "available" :=
  if_neg fun is => other ((is_iff_strval (by decide) (by decide)).mp is)

end Statuses

section Steps

variable {php : Platform} {e : Event} {user : Option Val} {db after : Db}

theorem busy_congr (appointments : after.appointments = db.appointments) (i : Nat) :
    Busy after i ↔ Busy db i := by
  rw [Busy, appointments, Busy]

theorem Served.staffReferences (served : Served php e user db after)
    (refs : StaffReferences db) : StaffReferences after := by
  have kept : ∀ i, (∃ s ∈ db.staff.rows, s.id = i) → ∃ s ∈ after.staff.rows, s.id = i := by
    rintro i ⟨s, member, rfl⟩
    exact served.writes.rows.staff.exists_id member
  intro a member i staff
  cases served.appointment_cases with
  | same appointments =>
    rw [appointments] at member
    exact kept i (refs a member i staff)
  | booked b client named booking result asked =>
    obtain ⟨appointments, staffSame, -⟩ := client_appointments client
    rw [result] at member
    rcases Table.mem_insert.mp member with old | rfl
    · exact kept i (refs a (appointments ▸ old) i staff)
    · obtain ⟨-, s, sMember, sId⟩ := foreignKey_eq_some.mp (staff ▸ booking.staff)
      exact kept i ⟨s, staffSame ▸ sMember, sId⟩
  | marked asked checked known found appointments bill =>
    rw [appointments] at member
    obtain ⟨old, oldMember, rfl⟩ := Table.mem_modify.mp member
    refine kept i (refs old oldMember i ?_)
    split at staff <;> exact staff

/-- Who is busy after a status update of `a`, among the others and for its own staff member. -/
theorem busy_marked {a : Row Appointment} {staffId : Nat} (member : a ∈ db.appointments.rows)
    (key : (arg e "id").key = .num a.id) (staff : a.cols.staffId = some staffId)
    (appointments : after.appointments = db.appointments.modify (byId (arg e "id").key)
      (Appointment.setStatus (statusOf e).strval)) (i : Nat) :
    Busy after i ↔ (i = staffId ∧ (statusOf e).strval = "active") ∨
      ∃ b ∈ db.appointments.rows, b ≠ a ∧ b.cols.staffId = some i ∧ b.cols.status = "active" := by
  have hit : ∀ b ∈ db.appointments.rows, byId (arg e "id").key b = true ↔ b = a := by
    intro b bMember
    rw [byId_iff, key]
    refine ⟨fun same => db.appointments.eq_of_id_eq bMember member (by simpa using same), ?_⟩
    rintro rfl
    rfl
  rw [Busy, appointments]
  constructor
  · rintro ⟨r, rMember, rStaff, active⟩
    obtain ⟨b, bMember, rfl⟩ := Table.mem_modify.mp rMember
    by_cases same : b = a
    · rw [if_pos ((hit b bMember).mpr same)] at rStaff active
      subst same
      exact .inl ⟨Option.some.inj (rStaff.symm.trans staff), active⟩
    · rw [if_neg fun selected => same ((hit b bMember).mp selected)] at rStaff active
      exact .inr ⟨b, bMember, same, rStaff, active⟩
  · rintro (⟨rfl, active⟩ | ⟨b, bMember, other, bStaff, active⟩)
    · refine ⟨_, Table.mem_modify.mpr ⟨a, member, rfl⟩, ?_⟩
      rw [if_pos ((hit a member).mpr rfl)]
      exact ⟨staff, active⟩
    · refine ⟨_, Table.mem_modify.mpr ⟨b, bMember, rfl⟩, ?_⟩
      rw [if_neg fun selected => other ((hit b bMember).mp selected)]
      exact ⟨bStaff, active⟩

/-- Staff rows that only change other columns, and as many active appointments. -/
theorem BusyFlag.frame (statuses : ∀ s ∈ after.staff.rows, ∃ old ∈ db.staff.rows,
      old.id = s.id ∧ old.cols.status = s.cols.status)
    (busy : ∀ i, Busy after i ↔ Busy db i) (holds : BusyFlag db) : BusyFlag after := by
  intro s member
  obtain ⟨old, oldMember, sameId, sameStatus⟩ := statuses s member
  rw [busy, ← sameId, ← sameStatus]
  exact holds old oldMember

/-- A new staff row is available, and has no appointments yet. -/
theorem BusyFlag.newStaff {row : Staff} (available : row.status = "available")
    (refs : StaffReferences db) (staff : after.staff = db.staff.insert row)
    (appointments : after.appointments = db.appointments) (holds : BusyFlag db) :
    BusyFlag after := by
  intro s member
  rw [busy_congr appointments]
  rw [staff] at member
  rcases Table.mem_insert.mp member with old | rfl
  · exact holds s old
  · refine iff_of_false (by rw [available]; decide) ?_
    rintro ⟨a, aMember, aStaff, -⟩
    obtain ⟨t, tMember, tId⟩ := refs a aMember _ aStaff
    exact db.staff.id_ne_nextId tMember tId

/-- A toggle keeps the flag, unless it is by a stylist who is busy. -/
theorem BusyFlag.toggled {key : SqlVal}
    (known : (availabilityOf e).inArray ["available", "off"] = true)
    (free : ∀ s ∈ db.staff.rows, hasUserId key s = true → ¬ Busy db s.id)
    (staff : after.staff = db.staff.modify (hasUserId key) (Staff.setStatus (availabilityOf e).strval))
    (appointments : after.appointments = db.appointments) (holds : BusyFlag db) :
    BusyFlag after := by
  intro s member
  rw [staff] at member
  obtain ⟨old, oldMember, rfl⟩ := Table.mem_modify.mp member
  rw [busy_congr appointments]
  by_cases own : hasUserId key old = true
  · rw [if_pos own]
    exact iff_of_false (toggled_ne_inService known) (free old oldMember own)
  · rw [if_neg own]
    exact holds old oldMember

/-- A status update keeps the flag, unless it frees a staff member with another active
appointment. -/
theorem BusyFlag.marked {a : Row Appointment} {staffId : Nat}
    (member : a ∈ db.appointments.rows) (key : (arg e "id").key = .num a.id)
    (assigned : a.cols.staffId = some staffId)
    (last : (statusOf e).strval ≠ "active" → ∀ b ∈ db.appointments.rows, b ≠ a →
      b.cols.staffId = some staffId → b.cols.status ≠ "active")
    (staff : after.staff = db.staff.modify (byId (.num staffId))
      (Staff.setStatus (Appointment.staffStatus (statusOf e))))
    (appointments : after.appointments = db.appointments.modify (byId (arg e "id").key)
      (Appointment.setStatus (statusOf e).strval)) (holds : BusyFlag db) : BusyFlag after := by
  intro s sMember
  rw [staff] at sMember
  obtain ⟨old, oldMember, rfl⟩ := Table.mem_modify.mp sMember
  by_cases own : old.id = staffId
  · rw [if_pos (byId_iff.mpr (by rw [own])), busy_marked member key assigned appointments]
    by_cases active : (statusOf e).strval = "active"
    · exact iff_of_true (staffStatus_of_active active) (.inl ⟨own, active⟩)
    · have free : Appointment.staffStatus (statusOf e) ≠ "in_service" := by
        rw [staffStatus_of_not_active active]
        decide
      refine iff_of_false free ?_
      rintro (⟨-, same⟩ | ⟨b, bMember, other, bStaff, bActive⟩)
      · exact active same
      · exact last active b bMember other (own ▸ bStaff) bActive
  · have miss : ¬ byId (.num staffId) old = true := fun selected =>
      own (by simpa using byId_iff.mp selected)
    rw [if_neg miss, busy_marked member key assigned appointments, holds old oldMember]
    constructor
    · rintro ⟨b, bMember, bStaff, bActive⟩
      refine .inr ⟨b, bMember, ?_, bStaff, bActive⟩
      rintro rfl
      exact own (Option.some.inj (bStaff.symm.trans assigned))
    · rintro (⟨same, -⟩ | ⟨b, bMember, -, bStaff, bActive⟩)
      · exact absurd same own
      · exact ⟨b, bMember, bStaff, bActive⟩

/-- A request of no other kind keeps the flag. -/
theorem Served.busyFlag (served : Served php e user db after) (synced : ¬ Desyncs php e db)
    (refs : StaffReferences db) (holds : BusyFlag db) : BusyFlag after := by
  cases served.roster_cases with
  | same users staff busy =>
    exact holds.frame (fun s member => ⟨s, staff ▸ member, rfl, rfl⟩) busy
  | registered asked row other fresh users staff appointments =>
    exact holds.frame (fun s member => ⟨s, staff ▸ member, rfl, rfl⟩) (busy_congr appointments)
  | hired asked row name specializations stylist named fresh users staff appointments =>
    exact holds.newStaff rfl refs staff appointments
  | edited asked free users staff appointments =>
    cases staff with
    | other noStylist staff =>
      exact holds.frame (fun s member => ⟨s, staff ▸ member, rfl, rfl⟩) (busy_congr appointments)
    | renamed u uMember uId stylist staff =>
      refine holds.frame (fun s member => ?_) (busy_congr appointments)
      rw [staff] at member
      obtain ⟨old, oldMember, rfl⟩ := Table.mem_modify.mp member
      refine ⟨old, oldMember, ?_⟩
      split <;> exact ⟨rfl, rfl⟩
    | added u uMember uId stylist none staff => exact holds.newStaff rfl refs staff appointments
  | @toggled payload asked checked known users staff appointments =>
    refine holds.toggled known (fun s member own busy => synced (.inr ?_)) staff appointments
    exact ⟨asked, known, payload, checked, s, member, own, busy⟩
  | @marked payload staffId asked checked known found users staff appointments =>
    obtain ⟨a, aMember, key, aStaff⟩ := Appointment.appointment_of_assigned found
    refine holds.marked aMember key aStaff (fun active b bMember other bStaff bActive =>
      synced (.inl ?_)) staff appointments
    exact ⟨asked, ⟨payload, checked⟩, known, active, a, aMember, key, staffId, aStaff, b, bMember,
      other, bStaff, bActive⟩

/-- The staff member has an active appointment left, and is shown as free. -/
theorem freed_busy (frees : FreesBusy php e db) (refs : StaffReferences db) :
    ¬ BusyFlag (request php e db) := by
  obtain ⟨asked, ⟨payload, checked⟩, known, inactive, a, aMember, key, i, aStaff, b, bMember, other,
    bStaff, bActive⟩ := frees
  obtain ⟨s, sMember, rfl⟩ := refs a aMember i aStaff
  obtain ⟨appointments, staff⟩ := request_mark asked checked known
    (assigned_of_mem aMember key aStaff)
  intro flag
  have busy : Busy (request php e db) s.id :=
    (busy_marked aMember key aStaff appointments s.id).mpr
      (.inr ⟨b, bMember, other, bStaff, bActive⟩)
  have there : ⟨s.id, Staff.setStatus (Appointment.staffStatus (statusOf e)) s.cols⟩ ∈
      (request php e db).staff.rows := by
    rw [staff]
    exact Table.mem_modify.mpr ⟨s, sMember, by simp⟩
  have free : Appointment.staffStatus (statusOf e) = "in_service" := (flag _ there).mpr busy
  rw [staffStatus_of_not_active inactive] at free
  exact absurd free (by decide)

theorem toggled_busy (toggles : TogglesBusy php e db) : ¬ BusyFlag (request php e db) := by
  obtain ⟨asked, known, payload, checked, s, sMember, own, busy⟩ := toggles
  have result : request php e db =
      (Staff.updateStatus (availabilityOf e) (payload.field "id") db).2 :=
    serve_availability asked checked known
  intro flag
  have there : ⟨s.id, Staff.setStatus (availabilityOf e).strval s.cols⟩ ∈
      (request php e db).staff.rows := by
    rw [result]
    exact Table.mem_modify.mpr ⟨s, sMember, by simp [own]⟩
  have still : Busy (request php e db) s.id := by
    rw [result]
    exact busy
  exact toggled_ne_inService known ((flag _ there).mpr still)

/-- One request keeps the flag exactly when it is of neither kind. -/
theorem busyFlag_request_iff (refs : StaffReferences db) (holds : BusyFlag db) :
    BusyFlag (request php e db) ↔ ¬ Desyncs php e db := by
  constructor
  · rintro flag (frees | toggles)
    · exact freed_busy frees refs flag
    · exact toggled_busy toggles flag
  · exact fun synced => (serve_served php e db).busyFlag synced refs holds

end Steps

/-- From a database with the flag right, one request keeps it exactly when it neither frees
a staff member with another active appointment nor is the toggle of a stylist with an
active one; and a run keeps it in every state exactly when all its requests do. -/
theorem busy_flag_iff (php : Platform) (db : Db) (refs : StaffReferences db)
    (holds : BusyFlag db) :
    (∀ e, BusyFlag (request php e db) ↔ ¬ Desyncs php e db) ∧
    ∀ events, (∀ first, first <+: events → BusyFlag (run (request php) db first)) ↔
      Along (request php) (fun e db => ¬ Desyncs php e db) db events := by
  refine ⟨fun e => busyFlag_request_iff refs holds, ?_⟩
  exact always_iff_along (Q := fun db => StaffReferences db ∧ BusyFlag db) (fun _ holds => holds.2)
    (fun e db synced holds => ⟨(serve_served php e db).staffReferences holds.1,
      (busyFlag_request_iff holds.1 holds.2).mpr synced⟩)
    (fun e db desyncs holds flag => desyncs ((busyFlag_request_iff holds.1 holds.2).mp flag))
    ⟨refs, holds⟩

def startFirst : Event := adminRequest "appointments_update" "POST"
  [("id", .int 1), ("status", .str "active")]

/-- A haircut by the other stylist, before the one that is planned. -/
def bookDavid : Event := adminRequest "appointments" "POST"
  [("client_name", .str "Jane Roe"), ("staff_id", .int 2), ("service_id", .int 2),
    ("date", .str "2026-06-10"), ("time", .str "11:00")]

def startThird : Event := adminRequest "appointments_update" "POST"
  [("id", .int 3), ("status", .str "active")]

def cancelSecond : Event := adminRequest "appointments_update" "POST"
  [("id", .int 2), ("status", .str "cancelled")]

/-- The first appointment is under way, and so is the stylist who serves it. -/
def startedDb : Db := afterRun recorded (fun _ => adminHash) morning [startFirst]

theorem started_references : StaffReferences startedDb := by
  unfold StaffReferences
  decide +kernel

theorem started_flag : BusyFlag startedDb := by
  unfold BusyFlag Busy
  decide +kernel

theorem started_booking :
    BusyFlag (request recorded bookDavid startedDb) ↔ ¬ Desyncs recorded bookDavid startedDb :=
  (busy_flag_iff recorded startedDb started_references started_flag).1 bookDavid

/-- A later appointment of a stylist is cancelled while the stylist serves another client. -/
theorem freed_in_service : ¬ ∀ db e, BusyFlag db → BusyFlag (request recorded e db) := by
  intro keeps
  have flag : BusyFlag (run (request recorded) startedDb [bookDavid, startThird]) := by
    unfold BusyFlag Busy
    decide +kernel
  have freed : ∃ s ∈ (request recorded cancelSecond
      (run (request recorded) startedDb [bookDavid, startThird])).staff.rows,
      s.cols.status ≠ "in_service" ∧ ∃ a ∈ (request recorded cancelSecond
        (run (request recorded) startedDb [bookDavid, startThird])).appointments.rows,
        a.cols.staffId = some s.id ∧ a.cols.status = "active" := by decide +kernel
  obtain ⟨s, member, free, busy⟩ := freed
  exact free ((keeps _ cancelSecond flag s member).mpr busy)

end Saloon.Guarantees
