import Saloon.Guarantees.Bookings
import Saloon.Guarantees.ClosedDay

/-!
# Users, staff and who is busy

What a request does to the users and the staff. A stylist's user and staff row
are written in one transaction, so that the two tables stay in correspondence.
-/
namespace Saloon.Guarantees

open Lib Source

/-- An active appointment of the staff member. -/
def Busy (db : Db) (staffId : Nat) : Prop :=
  ∃ a ∈ db.appointments.rows, a.cols.staffId = some staffId ∧ a.cols.status = "active"

/-- The requests that register or edit a member of the staff. -/
def AsksRoster (e : Event) : Prop := AsksRegister e ∨ Asks e "staff_update" ["POST"]

/-- What an accepted edit of a user leaves of the staff. -/
inductive StaffEdit (userId : Int) (name specializations : Val) (users : Table User)
    (staff after : Table Staff) : Prop
  | other (noStylist : ∀ u ∈ users.rows, (u.id : Int) = userId → u.cols.role ≠ "stylist")
      (same : after = staff)
  | renamed (u : Row User) (member : u ∈ users.rows) (uId : (u.id : Int) = userId)
      (stylist : u.cols.role = "stylist")
      (renamed : after = staff.modify (hasUserId (.num userId)) (.rename name specializations))
  | added (u : Row User) (member : u ∈ users.rows) (uId : (u.id : Int) = userId)
      (stylist : u.cols.role = "stylist")
      (none : ∀ s ∈ staff.rows, hasUserId (.num userId) s = false)
      (added : after = staff.insert (.ofStylist u.id name specializations))

/-- What a request can do to users and staff, and to who is busy. -/
inductive RosterChange (php : Platform) (e : Event) (db after : Db) : Prop
  | same (users : after.users = db.users) (staff : after.staff = db.staff)
      (busy : ∀ i, Busy after i ↔ Busy db i)
  | registered (asked : AsksRoster e) (row : User) (other : row.role ≠ "stylist")
      (fresh : ∀ r ∈ db.users.rows, r.cols.username ≠ row.username)
      (users : after.users = db.users.insert row) (staff : after.staff = db.staff)
      (appointments : after.appointments = db.appointments)
  | hired (asked : AsksRoster e) (row : User) (name specializations : Val) (stylist : row.role = "stylist")
      (named : row.name = name.strval)
      (fresh : ∀ r ∈ db.users.rows, r.cols.username ≠ row.username)
      (users : after.users = db.users.insert row)
      (staff : after.staff = db.staff.insert (.ofStylist db.users.nextId name specializations))
      (appointments : after.appointments = db.appointments)
  | edited {userId : Int} {name username commissionType specializations : Val}
      {passwordHash : Option String} {commissionRate : Rat} (asked : AsksRoster e)
      (free : (∃ r ∈ db.users.rows, (r.id : Int) = userId) →
        ∀ s ∈ db.users.rows, (s.id : Int) ≠ userId → s.cols.username ≠ username.strval)
      (users : after.users = db.users.modify (byId (.num userId))
        (User.edit name username passwordHash commissionRate commissionType))
      (staff : StaffEdit userId name specializations db.users db.staff after.staff)
      (appointments : after.appointments = db.appointments)
  | toggled {payload : Val} (asked : Asks e "staff_update_status" ["POST"])
      (checked : Passes php e [.stylist] payload)
      (known : (availabilityOf e).inArray ["available", "off"] = true)
      (users : after.users = db.users)
      (staff : after.staff = db.staff.modify (hasUserId (payload.field "id").key)
        (.setStatus (availabilityOf e).strval))
      (appointments : after.appointments = db.appointments)
  | marked {payload : Val} {staffId : Nat} (asked : Asks e "appointments_update" ["POST", "PUT"])
      (checked : Passes php e [.admin, .receptionist, .stylist] payload)
      (known : isStatus (statusOf e) = true)
      (found : Appointment.assigned (arg e "id").key db = some staffId)
      (users : after.users = db.users)
      (staff : after.staff = db.staff.modify (byId (.num staffId))
        (.setStatus (Appointment.staffStatus (statusOf e))))
      (appointments : after.appointments = db.appointments.modify (byId (arg e "id").key)
        (Appointment.setStatus (statusOf e).strval))

section Cases

variable {php : Platform} {e : Event} {user : Option Val} {db after : Db}

theorem RosterChange.quiet (users : after.users = db.users) (staff : after.staff = db.staff)
    (appointments : after.appointments = db.appointments) : RosterChange php e db after :=
  .same users staff fun i => by rw [Busy, appointments, Busy]

/-- A booking is not active yet. -/
theorem busy_booked {a : Appointment} (upcoming : a.status = "upcoming")
    (appointments : after.appointments = db.appointments.insert a) (i : Nat) :
    Busy after i ↔ Busy db i := by
  unfold Busy
  rw [appointments]
  constructor
  · rintro ⟨r, member, staff, active⟩
    rcases Table.mem_insert.mp member with old | rfl
    · exact ⟨r, old, staff, active⟩
    · exact absurd (upcoming.symm.trans active) (by decide)
  · rintro ⟨r, member, staff, active⟩
    exact ⟨r, Table.mem_insert.mpr (.inl member), staff, active⟩

theorem roster_of_edit {userId : Int} {name username password commissionType specializations : Val}
    {commissionRate : Rat} (asked : AsksRoster e)
    (done : User.updateStatements php e.salt userId name username password commissionRate
      commissionType specializations db = (.ok (), after)) : RosterChange php e db after := by
  obtain ⟨passwordHash, mid, updated, staffed⟩ := User.updateStatements_eq_ok done
  obtain ⟨free, rfl⟩ := User.update_eq_ok updated
  obtain ⟨final, outcome, effect⟩ := User.updateStaffRow_run userId name specializations
    (db.setUsers (db.users.modify (byId (.num userId))
      (User.edit name username passwordHash commissionRate commissionType)))
  obtain rfl : after = final := congrArg Prod.snd (staffed.symm.trans outcome)
  -- the edit leaves ids and roles
  have roles : ∀ u ∈ (db.users.modify (byId (.num userId))
      (User.edit name username passwordHash commissionRate commissionType)).rows,
      ∃ old ∈ db.users.rows, old.id = u.id ∧ old.cols.role = u.cols.role := by
    intro u member
    obtain ⟨old, oldMember, rfl⟩ := Table.mem_modify.mp member
    refine ⟨old, oldMember, ?_⟩
    split <;> exact ⟨rfl, rfl⟩
  have frame : after.users = db.users.modify (byId (.num userId))
      (User.edit name username passwordHash commissionRate commissionType) ∧
      after.appointments = db.appointments := by
    rcases effect with ⟨-, rfl⟩ | ⟨_, _, _, _, ⟨-, rfl⟩ | ⟨-, rfl⟩⟩ <;> exact ⟨rfl, rfl⟩
  have staff : StaffEdit userId name specializations db.users db.staff after.staff := by
    rcases effect with ⟨other, rfl⟩ | ⟨u, member, uId, stylist, ⟨-, rfl⟩ | ⟨none, rfl⟩⟩
    · refine .other (fun old oldMember oldId => ?_) rfl
      have edited := other _ (Table.mem_modify.mpr ⟨old, oldMember, rfl⟩)
      split at edited <;> exact edited oldId
    · obtain ⟨old, oldMember, same, role⟩ := roles u member
      exact .renamed old oldMember (same ▸ uId) (role.trans stylist) rfl
    · obtain ⟨old, oldMember, same, role⟩ := roles u member
      refine .added old oldMember (same ▸ uId) (role.trans stylist) none ?_
      rw [same]
      rfl
  exact .edited asked free frame.1 staff frame.2

theorem Served.roster_cases (served : Served php e user db after) : RosterChange php e db after := by
  cases served with
  | nothing => exact .quiet rfl rfl rfl
  | @register name username password role commissionType specializations commissionRate userId after
      allowed known done asked =>
    obtain ⟨row, named, -, roled, fresh, -, rfl⟩ := User.registerStatements_eq_ok done
    have stylist : role.is "stylist" = true ↔ row.role = "stylist" := by
      rw [roled]
      exact is_iff_strval (by decide) (by decide)
    split
    · rename_i is
      exact .hired (.inl asked) row name specializations (stylist.mp is) named fresh rfl rfl rfl
    · rename_i other
      exact .registered (.inl asked) row (fun same => other (stylist.mpr same)) fresh rfl rfl rfl
  | updateStaff allowed done asked => exact roster_of_edit (.inr asked) done
  | availability passed allowed known asked checked => exact .toggled asked checked known rfl rfl rfl
  | addClient allowed asked => exact .quiet rfl rfl rfl
  | clientOnly asked client =>
    rcases client_frame client with rfl | ⟨c, rfl⟩ <;> exact .quiet rfl rfl rfl
  | book asked named client done =>
    obtain ⟨a, booking, rfl⟩ := Appointment.createStatements_eq_ok done
    rcases client_frame client with rfl | ⟨c, rfl⟩ <;>
      exact .same rfl rfl (busy_booked booking.status rfl)
  | mark asked checked passed allowed known found unbilled =>
    exact .marked asked checked known found rfl rfl rfl
  | complete asked checked passed allowed completed found pending billed =>
    obtain ⟨sale, drawers, -, -, rfl⟩ := Invoice.checkoutStatements_eq_ok billed
    exact .marked asked checked (isStatus_of_completed completed) found rfl rfl rfl
  | addService allowed duration nonneg => exact .quiet rfl rfl rfl
  | updateService allowed duration nonneg => exact .quiet rfl rfl rfl
  | addProduct allowed asked => exact .quiet rfl rfl rfl
  | updateStock allowed => exact .quiet rfl rfl rfl
  | checkout asked checked passed allowed method items done =>
    obtain ⟨sale, drawers, -, -, rfl⟩ := Invoice.checkoutStatements_eq_ok done
    exact .quiet rfl rfl rfl
  | expense asked passed allowed positive done =>
    obtain ⟨loggedBy, drawers, -, -, rfl⟩ := Expense.createStatements_eq_ok done
    exact .quiet rfl rfl rfl
  | viewDrawer allowed =>
    obtain ⟨drawers, viewed⟩ := Reconciliation.getTodayStatus_frame e.clock db
    rw [viewed]
    exact .quiet rfl rfl rfl
  | closeDrawer passed allowed =>
    obtain ⟨drawers, closed⟩ := Reconciliation.closeDrawer_frame e.clock _ _ _ db
    rw [closeOf, closed]
    exact .quiet rfl rfl rfl

end Cases

section Pairing

/-- Usernames are distinct, and the stylists among the users have a staff row each. -/
structure Paired (users : Table User) (staff : Table Staff) : Prop where
  usernames : UniqueKey User.username users
  profiles : ∀ u ∈ users.rows, u.cols.role = "stylist" →
    ∃ s ∈ staff.rows, s.cols.userId = some u.id ∧ s.cols.name = u.cols.name
  single : UniqueKey Staff.userId staff
  owners : ∀ s ∈ staff.rows, ∃ u ∈ users.rows, s.cols.userId = some u.id ∧ u.cols.role = "stylist"

def RosterHolds (db : Db) : Prop := Paired db.users db.staff

variable {users : Table User} {staff : Table Staff}

theorem hasUserId_iff {userId : Int} {s : Row Staff} :
    hasUserId (.num userId) s = true ↔ ∃ u, s.cols.userId = some u ∧ (u : Int) = userId := by
  unfold hasUserId
  cases s.cols.userId with
  | none => simp
  | some u =>
    simp only [decide_eq_true_eq, SqlVal.num.injEq, Option.some.injEq, exists_eq_left']
    norm_cast

theorem byId_num {α : Type} {n : Int} {r : Row α} :
    byId (.num (n : Rat)) r = true ↔ (r.id : Int) = n := by
  rw [byId_iff, SqlVal.num.injEq]
  norm_cast

theorem Paired.statuses {p : Row Staff → Bool} {status : String} (paired : Paired users staff) :
    Paired users (staff.modify p (.setStatus status)) where
  usernames := paired.usernames
  profiles u member stylist := by
    obtain ⟨s, sMember, userId, name⟩ := paired.profiles u member stylist
    refine ⟨_, Table.mem_modify.mpr ⟨s, sMember, rfl⟩, ?_⟩
    split <;> exact ⟨userId, name⟩
  single := paired.single.modify fun _ => rfl
  owners s member := by
    obtain ⟨old, oldMember, rfl⟩ := Table.mem_modify.mp member
    obtain ⟨u, uMember, userId, stylist⟩ := paired.owners old oldMember
    refine ⟨u, uMember, ?_, stylist⟩
    split <;> exact userId

theorem Paired.registered {row : User} (other : row.role ≠ "stylist")
    (fresh : ∀ r ∈ users.rows, r.cols.username ≠ row.username) (paired : Paired users staff) :
    Paired (users.insert row) staff where
  usernames := paired.usernames.insert fresh
  profiles u member stylist := by
    rcases Table.mem_insert.mp member with old | rfl
    · exact paired.profiles u old stylist
    · exact absurd stylist other
  single := paired.single
  owners s member := by
    obtain ⟨u, uMember, owner⟩ := paired.owners s member
    exact ⟨u, Table.mem_insert.mpr (.inl uMember), owner⟩

theorem Paired.hired {row : User} {name specializations : Val} (stylist : row.role = "stylist")
    (named : row.name = name.strval) (fresh : ∀ r ∈ users.rows, r.cols.username ≠ row.username)
    (paired : Paired users staff) :
    Paired (users.insert row) (staff.insert (.ofStylist users.nextId name specializations)) where
  usernames := paired.usernames.insert fresh
  profiles u member role := by
    rcases Table.mem_insert.mp member with old | rfl
    · obtain ⟨s, sMember, profile⟩ := paired.profiles u old role
      exact ⟨s, Table.mem_insert.mpr (.inl sMember), profile⟩
    · exact ⟨_, Table.mem_insert_self _ _, rfl, named.symm⟩
  single := by
    refine paired.single.insert fun s member same => ?_
    obtain ⟨u, uMember, userId, -⟩ := paired.owners s member
    have new : some u.id = some users.nextId := userId.symm.trans same
    exact users.id_ne_nextId uMember (Option.some.inj new)
  owners s member := by
    rcases Table.mem_insert.mp member with old | rfl
    · obtain ⟨u, uMember, owner⟩ := paired.owners s old
      exact ⟨u, Table.mem_insert.mpr (.inl uMember), owner⟩
    · exact ⟨_, Table.mem_insert_self _ _, rfl, stylist⟩

/-- An edit that the UNIQUE username lets through keeps usernames distinct. -/
theorem usernames_edited {userId : Int} {name username commissionType : Val}
    {passwordHash : Option String} {commissionRate : Rat}
    (free : (∃ r ∈ users.rows, (r.id : Int) = userId) →
      ∀ s ∈ users.rows, (s.id : Int) ≠ userId → s.cols.username ≠ username.strval)
    (distinct : UniqueKey User.username users) :
    UniqueKey User.username (users.modify (byId (.num userId))
      (User.edit name username passwordHash commissionRate commissionType)) := by
  refine distinct.rekey (fun r rMember s sMember rHit sHit => ?_)
    fun r rMember rHit s sMember sMiss => ?_
  · have same := (byId_num.mp rHit).trans (byId_num.mp sHit).symm
    exact users.eq_of_id_eq rMember sMember (by exact_mod_cast same)
  · refine free ⟨r, rMember, byId_num.mp rHit⟩ s sMember fun same => ?_
    rw [byId_num.mpr same] at sMiss
    cases sMiss

/-- The staff row of a user is hit exactly when the user is. -/
theorem hasUserId_iff_byId {userId : Int} {u : Row User} {s : Row Staff}
    (sUser : s.cols.userId = some u.id) :
    hasUserId (.num userId) s = true ↔ byId (.num (userId : Rat)) u = true := by
  rw [hasUserId_iff, byId_num]
  constructor
  · rintro ⟨i, sUser', same⟩
    rwa [Option.some.inj (sUser.symm.trans sUser')]
  · exact fun same => ⟨u.id, sUser, same⟩

/-- An edit makes and unmakes no stylist. -/
theorem stylist_edited {userId : Int} {name username commissionType : Val}
    {passwordHash : Option String} {commissionRate : Rat} {i : Option Nat}
    (owned : ∃ u ∈ users.rows, i = some u.id ∧ u.cols.role = "stylist") :
    ∃ u ∈ (users.modify (byId (.num userId))
      (User.edit name username passwordHash commissionRate commissionType)).rows,
      i = some u.id ∧ u.cols.role = "stylist" := by
  obtain ⟨u, member, same, stylist⟩ := owned
  refine ⟨_, Table.mem_modify.mpr ⟨u, member, rfl⟩, ?_⟩
  split <;> exact ⟨same, stylist⟩

/-- A stylist is renamed in both tables; nobody else has a name in the second. -/
theorem Paired.edited {userId : Int} {name username commissionType specializations : Val}
    {passwordHash : Option String} {commissionRate : Rat} {after : Table Staff}
    (free : (∃ r ∈ users.rows, (r.id : Int) = userId) →
      ∀ s ∈ users.rows, (s.id : Int) ≠ userId → s.cols.username ≠ username.strval)
    (edit : StaffEdit userId name specializations users staff after)
    (paired : Paired users staff) :
    Paired (users.modify (byId (.num userId))
      (User.edit name username passwordHash commissionRate commissionType)) after := by
  have usernames : UniqueKey User.username (users.modify (byId (.num userId))
      (User.edit name username passwordHash commissionRate commissionType)) :=
    usernames_edited free paired.usernames
  cases edit with
  | other noStylist same =>
    subst same
    refine ⟨usernames, fun u member stylist => ?_, paired.single,
      fun s member => stylist_edited (paired.owners s member)⟩
    obtain ⟨old, oldMember, rfl⟩ := Table.mem_modify.mp member
    by_cases hit : byId (.num (userId : Rat)) old = true
    · simp only [hit, if_true] at stylist
      exact absurd stylist (noStylist old oldMember (byId_num.mp hit))
    · simp only [hit] at stylist ⊢
      exact paired.profiles old oldMember stylist
  | renamed u member uId stylist result =>
    subst result
    refine ⟨usernames, fun v vMember vStylist => ?_, paired.single.modify fun _ => rfl,
      fun s sMember => ?_⟩
    · obtain ⟨old, oldMember, rfl⟩ := Table.mem_modify.mp vMember
      have oldStylist : old.cols.role = "stylist" := by
        split at vStylist <;> exact vStylist
      obtain ⟨s, sMember, sUser, sName⟩ := paired.profiles old oldMember oldStylist
      refine ⟨_, Table.mem_modify.mpr ⟨s, sMember, rfl⟩, ?_⟩
      by_cases hit : byId (.num (userId : Rat)) old = true
      · simp only [hit, (hasUserId_iff_byId sUser).mpr hit, if_true]
        exact ⟨sUser, rfl⟩
      · simp only [hit, mt (hasUserId_iff_byId sUser).mp hit]
        exact ⟨sUser, sName⟩
    · obtain ⟨old, oldMember, rfl⟩ := Table.mem_modify.mp sMember
      split <;> exact stylist_edited (paired.owners old oldMember)
  | added u member uId stylist none result =>
    -- a stylist always has a staff row already
    obtain ⟨s, sMember, sUser, -⟩ := paired.profiles u member stylist
    have owner := (hasUserId_iff_byId sUser).mpr (byId_num.mpr uId)
    rw [none s sMember] at owner
    cases owner

theorem RosterChange.keeps {php : Platform} {e : Event} {db after : Db}
    (change : RosterChange php e db after) (holds : RosterHolds db) : RosterHolds after := by
  unfold RosterHolds at holds ⊢
  cases change with
  | same users staff busy => rwa [users, staff]
  | registered asked row other fresh users staff appointments =>
    rw [users, staff]
    exact holds.registered other fresh
  | hired asked row name specializations stylist named fresh users staff appointments =>
    rw [users, staff]
    exact holds.hired stylist named fresh
  | edited asked free users staff appointments =>
    rw [users]
    exact holds.edited free staff
  | toggled asked checked known users staff appointments =>
    rw [users, staff]
    exact holds.statuses
  | marked asked checked known found users staff appointments =>
    rw [users, staff]
    exact holds.statuses

theorem roster_seed (hash : String → String) (clock : Clock) : RosterHolds (seed hash clock) where
  usernames := uniqueKey_of_nodup (show ["admin", "recep", "emma", "david"].Nodup by decide)
  profiles u member stylist := by
    rcases List.mem_cons.mp member with rfl | member
    · exact absurd (show "admin" = "stylist" from stylist) (by decide)
    · rcases List.mem_cons.mp member with rfl | member
      · exact absurd (show "receptionist" = "stylist" from stylist) (by decide)
      · rcases List.mem_cons.mp member with rfl | member
        · exact ⟨_, .head _, rfl, rfl⟩
        · rw [List.mem_singleton.mp member]
          exact ⟨_, .tail _ (.head _), rfl, rfl⟩
  single := uniqueKey_of_nodup (show [some 3, some 4].Nodup by decide)
  owners s member := by
    rcases List.mem_cons.mp member with rfl | member
    · exact ⟨_, .tail _ (.tail _ (.head _)), rfl, rfl⟩
    · rw [List.mem_singleton.mp member]
      exact ⟨_, .tail _ (.tail _ (.tail _ (.head _))), rfl, rfl⟩

theorem roster_holds (php : Platform) (hash : String → String) (clock : Clock)
    (events : List Event) : RosterHolds (afterRun php hash clock events) :=
  afterRun_keeps roster_seed (fun _ _ _ _ served => served.roster_cases.keeps) hash clock events

end Pairing

section Errors

/-! A registration or an edit that answers with an error leaves what it found. -/

variable {db : Db} {s : Session} {α : Type}

/-- An answer other than 200 leaves the database of the closed session at `db`. -/
def ErrorKeeps (db : Db) (outcome : Except Stop Unit × Session) : Prop :=
  (responseOf outcome.1).status ≠ 200 → outcome.2.close = db

theorem errorKeeps_of_handle {env : Env} {roles : List Role} {k : Val → Php Unit}
    (same : s.close = db)
    (passed : ∀ payload, ErrorKeeps db (k payload { s with user := some payload })) :
    ErrorKeeps db ((env.handle roles >>= k) s) := by
  rcases handle_cases env roles s with ⟨response, -, run⟩ | ⟨payload, -, run⟩
  · rw [Prog.bind_of_error run]
    exact fun _ => same
  · rw [Prog.bind_of_ok run]
    exact passed payload

theorem errorKeeps_of_ite {c : Prop} [Decidable c] {x y : Php Unit} (yes : ErrorKeeps db (x s))
    (no : ErrorKeeps db (y s)) : ErrorKeeps db ((if c then x else y) s) := by
  split
  · exact yes
  · exact no

/-- A transaction that is answered with an error was rolled back. -/
theorem errorKeeps_of_transaction {statements : Sql α} {answer : α → Val} (idle : s.saved = none)
    (same : s.db = db) : ErrorKeeps db (attempt (transaction statements) answer s) := by
  rcases outcome : transaction statements s with ⟨why | a, t⟩
  · obtain ⟨⟨thrown, rfl⟩, closed⟩ := transaction_failed idle outcome
    intro _
    rw [attempt_state, outcome, closed, same]
  · intro error
    have run : (transaction statements >>= fun a => (json (answer a) 200 : Php Unit)) s =
        (.error (.exit ⟨200, some (answer a)⟩), t) := Prog.bind_of_ok outcome
    rw [attempt, catchException, run] at error
    exact absurd rfl error

theorem register_errorKeeps (env : Env) :
    ErrorKeeps db (AuthController.register env (.start db)) := by
  refine errorKeeps_of_handle rfl fun payload => ?_
  refine errorKeeps_of_ite (fun _ => rfl) ?_
  refine errorKeeps_of_ite (fun _ => rfl) ?_
  exact errorKeeps_of_transaction rfl rfl

theorem updateStaff_errorKeeps (env : Env) :
    ErrorKeeps db (AuthController.updateStaff env (.start db)) := by
  refine errorKeeps_of_handle rfl fun payload => ?_
  refine errorKeeps_of_ite (fun _ => rfl) ?_
  exact errorKeeps_of_transaction rfl rfl

theorem serve_errorKeeps {php : Platform} {e : Event} (asked : AsksRoster e)
    (error : (serve php e db).response.status ≠ 200) : (serve php e db).db = db := by
  have keeps : ErrorKeeps db (index php e (.start db)) := by
    rcases asked with (register | staff) | update
    · rw [index_post register]
      exact register_errorKeeps (e.env php)
    · rw [index_post staff]
      exact register_errorKeeps (e.env php)
    · rw [index_post update]
      exact updateStaff_errorKeeps (e.env php)
  exact keeps error

end Errors

/-- After every run usernames are distinct, each stylist has one staff row, under the
stylist's name, and each staff row is a stylist's; a registration or an edit that is
answered with an error leaves users and staff as they were. -/
theorem users_match_staff (php : Platform) (hash : String → String) (clock : Clock)
    (events : List Event) :
    let db := afterRun php hash clock events
    (∀ r ∈ db.users.rows, ∀ s ∈ db.users.rows, r.cols.username = s.cols.username → r = s) ∧
    (∀ u ∈ db.users.rows, u.cols.role = "stylist" →
      ∃ s ∈ db.staff.rows, s.cols.userId = some u.id ∧ s.cols.name = u.cols.name ∧
        ∀ t ∈ db.staff.rows, t.cols.userId = some u.id → t = s) ∧
    (∀ s ∈ db.staff.rows, ∃ u ∈ db.users.rows, s.cols.userId = some u.id ∧
      u.cols.role = "stylist") ∧
    ∀ e, AsksRoster e → (serve php e db).response.status ≠ 200 →
      (serve php e db).db.users = db.users ∧ (serve php e db).db.staff = db.staff := by
  intro db
  have holds : RosterHolds db := roster_holds php hash clock events
  refine ⟨holds.usernames, fun u member stylist => ?_, holds.owners, fun e asked error => ?_⟩
  · obtain ⟨s, sMember, userId, name⟩ := holds.profiles u member stylist
    exact ⟨s, sMember, userId, name,
      fun t tMember same => holds.single t tMember s sMember (same.trans userId.symm)⟩
  · rw [serve_errorKeeps asked error]
    exact ⟨rfl, rfl⟩

end Saloon.Guarantees
