import Saloon.Guarantees.Availability
import Saloon.Guarantees.Isolation

/-!
# Off duty

A stylist who goes off duty is put back by every update of one of their
appointments, whatever its date: the update writes the staff row without looking
at it. Only the move to 'active', and the stylist's own toggle, are meant to.
-/
namespace Saloon.Guarantees

open Lib Source

def OffDuty (staffId : Nat) (db : Db) : Prop :=
  ∃ s ∈ db.staff.rows, s.id = staffId ∧ s.cols.status = "off"

/-- The stylist's own toggle, with a status that passes its check. -/
def Toggles (php : Platform) (staffId : Nat) (e : Event) (db : Db) : Prop :=
  Asks e "staff_update_status" ["POST"] ∧
    (availabilityOf e).inArray ["available", "off"] = true ∧
    ∃ payload, Passes php e [.stylist] payload ∧
      ∃ s ∈ db.staff.rows, s.id = staffId ∧ hasUserId (payload.field "id").key s = true

/-- A status update, let through, of an appointment of this staff member. -/
def Updates (php : Platform) (staffId : Nat) (e : Event) (db : Db) : Prop :=
  Asks e "appointments_update" ["POST", "PUT"] ∧
    (∃ payload, Passes php e [.admin, .receptionist, .stylist] payload) ∧
    isStatus (statusOf e) = true ∧
    ∃ a ∈ db.appointments.rows, (arg e "id").key = .num a.id ∧ a.cols.staffId = some staffId

/-- The stylist says to be available, or one of their appointments is set to 'active'; it may
have been active before. -/
def Releases (php : Platform) (staffId : Nat) (e : Event) (db : Db) : Prop :=
  Toggles php staffId e db ∧ (availabilityOf e).strval = "available" ∨
    Updates php staffId e db ∧ (statusOf e).strval = "active"

/-- An appointment of a staff member who is off is set to another status than 'active', or
such a stylist sends a status that is neither of the two. -/
def Wakes (php : Platform) (e : Event) (db : Db) : Prop :=
  ∃ staffId, OffDuty staffId db ∧
    (Updates php staffId e db ∧ (statusOf e).strval ≠ "active" ∨
      Toggles php staffId e db ∧ (availabilityOf e).strval ≠ "available" ∧
        (availabilityOf e).strval ≠ "off")

section Steps

variable {php : Platform} {e : Event} {db after : Db} {staffId : Nat}

theorem OffDuty.insert {row : Staff} (off : OffDuty staffId db)
    (staff : after.staff = db.staff.insert row) : OffDuty staffId after := by
  obtain ⟨s, member, id, status⟩ := off
  exact ⟨s, by rw [staff]; exact Table.mem_insert.mpr (.inl member), id, status⟩

/-- A modification of the staff keeps who is off, if it does so for the rows that it meets. -/
theorem OffDuty.modify {p : Row Staff → Bool} {f : Staff → Staff} (off : OffDuty staffId db)
    (staff : after.staff = db.staff.modify p f)
    (kept : ∀ s ∈ db.staff.rows, s.id = staffId → s.cols.status = "off" → p s = true →
      (f s.cols).status = "off") : OffDuty staffId after := by
  obtain ⟨s, member, id, status⟩ := off
  refine ⟨_, by rw [staff]; exact Table.mem_modify.mpr ⟨s, member, rfl⟩, ?_⟩
  split
  · rename_i selected
    exact ⟨id, kept s member id status selected⟩
  · exact ⟨id, status⟩

/-- A request that is neither kind keeps a staff member off. -/
theorem offDuty_kept (sleeps : ¬ Wakes php e db) (off : OffDuty staffId db)
    (unreleased : ¬ Releases php staffId e db) : OffDuty staffId (request php e db) := by
  have change : RosterChange php e db (request php e db) := (serve_served php e db).roster_cases
  cases change with
  | same users staff busy | registered asked row other fresh users staff appointments =>
    rw [OffDuty, staff]
    exact off
  | hired asked row name specializations stylist named fresh users staff appointments =>
    exact off.insert staff
  | edited asked free users staff appointments =>
    cases staff with
    | other noStylist staff =>
      rw [OffDuty, staff]
      exact off
    | renamed u uMember uId stylist staff => exact off.modify staff fun s _ _ status _ => status
    | added u uMember uId stylist none staff => exact off.insert staff
  | @toggled payload asked checked known users staff appointments =>
    refine off.modify staff fun s member id _ own => ?_
    have toggles : Toggles php staffId e db := ⟨asked, known, payload, checked, s, member, id, own⟩
    by_contra other
    refine sleeps ⟨staffId, off, .inr ⟨toggles, fun available => ?_, other⟩⟩
    exact unreleased (.inl ⟨toggles, available⟩)
  | @marked payload marked asked checked known found users staff appointments =>
    refine off.modify staff fun s member id _ own => ?_
    obtain ⟨a, aMember, key, aStaff⟩ := Appointment.appointment_of_assigned found
    have same : s.id = marked := by simpa using byId_iff.mp own
    have updates : Updates php staffId e db :=
      ⟨asked, ⟨payload, checked⟩, known, a, aMember, key, by rw [aStaff, ← same, id]⟩
    by_cases active : (statusOf e).strval = "active"
    · exact absurd (.inr ⟨updates, active⟩) unreleased
    · exact absurd ⟨staffId, off, .inl ⟨updates, active⟩⟩ sleeps

theorem not_releases_of_update (updates : Updates php staffId e db)
    (inactive : (statusOf e).strval ≠ "active") : ¬ Releases php staffId e db := by
  rintro (⟨toggles, -⟩ | ⟨-, active⟩)
  · exact updates.1.ne (by decide) toggles.1
  · exact inactive active

theorem not_releases_of_toggle (toggles : Toggles php staffId e db)
    (unavailable : (availabilityOf e).strval ≠ "available") : ¬ Releases php staffId e db := by
  rintro (⟨-, available⟩ | ⟨updates, -⟩)
  · exact unavailable available
  · exact toggles.1.ne (by decide) updates.1

/-- Any other update writes 'available', whatever was there. -/
theorem awake_of_update (updates : Updates php staffId e db)
    (inactive : (statusOf e).strval ≠ "active") : ¬ OffDuty staffId (request php e db) := by
  obtain ⟨asked, ⟨payload, checked⟩, known, a, aMember, key, aStaff⟩ := updates
  obtain ⟨-, staff⟩ := request_mark asked checked known (assigned_of_mem aMember key aStaff)
  rintro ⟨t, tMember, tId, tOff⟩
  rw [staff] at tMember
  obtain ⟨s, sMember, rfl⟩ := Table.mem_modify.mp tMember
  have own : byId (.num staffId) s = true := by
    rw [byId_iff]
    split at tId <;> rw [← tId]
  rw [if_pos own] at tOff
  have free : Appointment.staffStatus (statusOf e) = "off" := tOff
  rw [staffStatus_of_not_active inactive] at free
  exact absurd free (by decide)

/-- A status that is neither of the two is stored all the same. -/
theorem awake_of_toggle (toggles : Toggles php staffId e db)
    (other : (availabilityOf e).strval ≠ "off") : ¬ OffDuty staffId (request php e db) := by
  obtain ⟨asked, known, payload, checked, s, sMember, sId, own⟩ := toggles
  have result : request php e db =
      (Staff.updateStatus (availabilityOf e) (payload.field "id") db).2 :=
    serve_availability asked checked known
  rintro ⟨t, tMember, tId, tOff⟩
  rw [result] at tMember
  obtain ⟨r, rMember, rfl⟩ := Table.mem_modify.mp tMember
  have same : r = s := by
    refine db.staff.eq_of_id_eq rMember sMember (Eq.trans ?_ sId.symm)
    split at tId <;> exact tId
  rw [same, if_pos own] at tOff
  exact other tOff

/-- One request keeps everyone off who is not released, exactly when it wakes nobody. -/
theorem offDuty_request_iff (php : Platform) (e : Event) (db : Db) :
    (∀ staffId, OffDuty staffId db → ¬ Releases php staffId e db →
      OffDuty staffId (request php e db)) ↔ ¬ Wakes php e db := by
  constructor
  · rintro stays ⟨staffId, off, ⟨updates, inactive⟩ | ⟨toggles, unavailable, other⟩⟩
    · exact awake_of_update updates inactive
        (stays staffId off (not_releases_of_update updates inactive))
    · exact awake_of_toggle toggles other
        (stays staffId off (not_releases_of_toggle toggles unavailable))
  · exact fun sleeps staffId off unreleased => offDuty_kept sleeps off unreleased

end Steps

/-- In every run, everyone who is off stays off until released, exactly when no request of
the run updates an appointment of someone who is off, other than to 'active', and no one
who is off toggles to a status that is none. -/
theorem off_duty_iff (php : Platform) (hash : String → String) (clock : Clock)
    (events : List Event) :
    (∀ staffId, StaysUntil (request php) (OffDuty staffId) (Releases php staffId)
      (seed hash clock) events) ↔
      Along (request php) (fun e db => ¬ Wakes php e db) (seed hash clock) events := by
  simp only [staysUntil_iff_along, along_forall, offDuty_request_iff]

def emmaLeaves : Event := emmaRequest "staff_update_status" "POST" [("status", .str "off")]

/-- Emma goes off duty, and the first appointment, which is hers, is cancelled. -/
theorem cancelled_back_on_duty : ¬ ∀ events staffId,
    StaysUntil (request recordedEmma) (OffDuty staffId) (Releases recordedEmma staffId)
      (seed (fun _ => adminHash) morning) events := by
  intro stays
  have off : OffDuty 1 (run (request recordedEmma) (seed (fun _ => adminHash) morning)
      [emmaLeaves]) := by
    unfold OffDuty
    decide +kernel
  have awake : ¬ OffDuty 1 (run (request recordedEmma) (seed (fun _ => adminHash) morning)
      ([emmaLeaves] ++ [cancelFirst])) := by
    unfold OffDuty
    decide +kernel
  refine awake (stays [emmaLeaves, cancelFirst] 1 [emmaLeaves] [cancelFirst] (by simp) off
    ⟨?_, trivial⟩)
  rintro (⟨toggles, -⟩ | ⟨-, active⟩)
  · exact absurd toggles.1 (by decide)
  · exact absurd active (by decide)

end Saloon.Guarantees
