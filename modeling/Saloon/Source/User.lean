import Saloon.Lib.Query
import Saloon.Source.Session

/-!
# Users, staff and clients

`models/User.php:6-150`, `models/Client.php:6-30`, and the staff status toggle of
`AuthController::updateStatus` (`controllers/AuthController.php:106-123`). A stylist is
a user with a staff row.
-/
namespace Saloon.Source

open Lib

/-- `username = :username`. -/
def hasUsername (username : String) (r : Row User) : Bool := r.cols.username = username

/-- `user_id = :user_id`. -/
def hasUserId (userId : SqlVal) (r : Row Staff) : Bool :=
  match r.cols.userId with
  | some u => SqlVal.num u = userId
  | none => false

/-- An argument that a built-in declares as a string. -/
def stringArgument (v : Val) : Sql String :=
  match v with
  | .arr _ => fatal "Argument must be of type string, array given"
  | _ => pure v.strval

namespace User

def authenticate (php : Platform) (username password : Val) : Sql (Option (Row User)) := do
  let user ← .read fun db => db.users.find? (hasUsername username.strval)
  match user with
  | none => pure none
  | some user => do
    let password ← stringArgument password
    if php.passwordVerify password user.cols.passwordHash then pure (some user) else pure none

/-- `password_hash($password, PASSWORD_BCRYPT)`. -/
def hashPassword (php : Platform) (salt : Nat) (password : Val) : Sql String := do
  let password ← stringArgument password
  if password.toList.contains '\x00' then fatal "Bcrypt password must not contain null character"
  else pure (php.passwordHash salt password)

/-- INSERT INTO users, under the UNIQUE username. -/
def insert (row : User) : Sql Nat := fun db =>
  if db.users.rows.any (hasUsername row.username) then (.error (uniqueFailed "users.username"), db)
  else (.ok db.users.nextId, db.setUsers (db.users.insert row))

end User

namespace Staff

/-- The staff row a stylist gets. -/
def ofStylist (userId : Nat) (name specializations : Val) : Staff where
  userId := some userId
  name := name.strval
  role := "Stylist"
  specializations := specializations.strval
  status := "available"

/-- INSERT INTO staff for a user that was just written or read. -/
def insert (row : Staff) : Sql Unit := .update fun db => db.setStaff (db.staff.insert row)

def rename (name specializations : Val) (s : Staff) : Staff :=
  { s with name := name.strval, specializations := specializations.strval }

def setStatus (status : String) (s : Staff) : Staff := { s with status }

end Staff

namespace User

/-- "If user is stylist, insert into staff table". -/
def addStaffRow (role : Val) (userId : Nat) (name specializations : Val) : Sql Unit :=
  if role.is "stylist" then Staff.insert (.ofStylist userId name specializations) else pure ()

def registerStatements (php : Platform) (salt : Nat) (clock : Clock)
    (name username password role : Val) (commissionRate : Rat)
    (commissionType specializations : Val) : Sql Nat := do
  let taken ← .read fun db => db.users.rows.any (hasUsername username.strval)
  if taken then raise "Username already exists"
  else do
    let passwordHash ← hashPassword php salt password
    let userId ← insert
      { name := name.strval
        username := username.strval
        passwordHash
        role := role.strval
        commissionRate
        commissionType := commissionType.strval
        createdAt := clock.now }
    addStaffRow role userId name specializations
    pure userId

def register (php : Platform) (salt : Nat) (clock : Clock) (name username password role : Val)
    (commissionRate : Rat) (commissionType specializations : Val) : Php Nat :=
  transaction (registerStatements php salt clock name username password role commissionRate
    commissionType specializations)

/-- The columns of `users` that `updateStaffDetails` sets. -/
def edit (name username : Val) (passwordHash : Option String) (commissionRate : Rat)
    (commissionType : Val) (u : User) : User :=
  { u with
    name := name.strval
    username := username.strval
    passwordHash := passwordHash.getD u.passwordHash
    commissionRate
    commissionType := commissionType.strval }

/-- UPDATE users WHERE id = :id, under the UNIQUE username. -/
def update (userId : Int) (username : Val) (f : User → User) : Sql Unit := fun db =>
  if (lookup db.users (.num userId)).isSome &&
      db.users.rows.any (fun r => !byId (.num userId) r && hasUsername username.strval r) then
    (.error (uniqueFailed "users.username"), db)
  else (.ok (), db.setUsers (db.users.modify (byId (.num userId)) f))

/-- "Update staff table if user is stylist". -/
def updateStaffRow (userId : Int) (name specializations : Val) : Sql Unit := do
  let user ← .read fun db => lookup db.users (.num userId)
  match user with
  | none => pure ()
  | some user =>
    if user.cols.role = "stylist" then do
      let entry ← .read fun db => db.staff.rows.any (hasUserId (.num userId))
      if entry then
        .update fun db => db.setStaff
          (db.staff.modify (hasUserId (.num userId)) (.rename name specializations))
      else Staff.insert (.ofStylist user.id name specializations)
    else pure ()

/-- The new hash, unless the password is empty. -/
def newHash (php : Platform) (salt : Nat) (password : Val) : Sql (Option String) :=
  if password.empty then pure none
  else do
    let hash ← hashPassword php salt password
    pure (some hash)

def updateStatements (php : Platform) (salt : Nat) (userId : Int) (name username password : Val)
    (commissionRate : Rat) (commissionType specializations : Val) : Sql Unit := do
  let passwordHash ← newHash php salt password
  update userId username (edit name username passwordHash commissionRate commissionType)
  updateStaffRow userId name specializations

def updateStaffDetails (php : Platform) (salt : Nat) (userId : Int)
    (name username password : Val) (commissionRate : Rat) (commissionType specializations : Val) :
    Php Unit :=
  transaction (updateStatements php salt userId name username password commissionRate
    commissionType specializations)

/-- A row of `getAllStaff`: the user's columns, and those of the staff row if there is one. -/
def staffEntry (u : Row User) (s : Option (Row Staff)) : Val :=
  .arr [("user_id", .int u.id), ("name", .str u.cols.name), ("username", .str u.cols.username),
    ("role", .str u.cols.role), ("commission_rate", .float u.cols.commissionRate),
    ("commission_type", .str u.cols.commissionType),
    ("staff_id", .ofId (s.map Row.id)),
    ("specializations", .ofText (s.map fun r => r.cols.specializations)),
    ("status", .ofText (s.map fun r => r.cols.status))]

/-- `users u LEFT JOIN staff s ON u.id = s.user_id ORDER BY u.role ASC, u.name ASC`. -/
def getAllStaff (db : Db) : List Val :=
  (orderBy
    (compareLex (compareOn fun p => p.1.cols.role) (compareOn fun p => p.1.cols.name))
    (leftJoin db.users.rows db.staff.rows fun u s => s.cols.userId = some u.id)).map
    fun p => staffEntry p.1 p.2

end User

namespace Staff

def entry (s : Row Staff) : Val :=
  .arr [("id", .int s.id), ("user_id", .ofId s.cols.userId), ("name", .str s.cols.name),
    ("role", .str s.cols.role), ("specializations", .str s.cols.specializations),
    ("status", .str s.cols.status)]

/-- `SELECT * FROM staff ORDER BY name ASC`, the staff list without a token. -/
def getAll (db : Db) : List Val :=
  (orderBy (compareOn fun s => s.cols.name) db.staff.rows).map entry

/-- `UPDATE staff SET status = :status WHERE user_id = :user_id`. -/
def updateStatus (status userId : Val) : Sql Unit :=
  .update fun db =>
    db.setStaff (db.staff.modify (hasUserId userId.key) (setStatus status.strval))

end Staff

namespace Client

def create (clock : Clock) (name email phone : Val) : Sql Nat := fun db =>
  (.ok db.clients.nextId,
    db.setClients (db.clients.insert
      { name := name.strval
        email := email.strval
        phone := phone.strval
        totalSpent := 0
        lastVisit := .null
        createdAt := clock.now }))

/-- The row that `findOrCreate` looks for: an email or a phone that is not empty matches. -/
def reachedBy (email phone : Val) (r : Row Client) : Bool :=
  (r.cols.email = email.strval && email.strval ≠ "") ||
    (r.cols.phone = phone.strval && phone.strval ≠ "")

def findOrCreate (clock : Clock) (name email phone : Val) : Sql Nat := do
  let found ← .read fun db => db.clients.find? (reachedBy email phone)
  match found with
  | some r => pure r.id
  | none => create clock name email phone

def entry (r : Row Client) : Val :=
  .arr [("id", .int r.id), ("name", .str r.cols.name), ("email", .str r.cols.email),
    ("phone", .str r.cols.phone), ("created_at", .ofDateTime r.cols.createdAt),
    ("total_spent", .float r.cols.totalSpent), ("last_visit", r.cols.lastVisit.fetch)]

def getAll (db : Db) : List Val :=
  (orderBy (compareOn fun r => r.cols.name) db.clients.rows).map entry

end Client

section Specs

theorem hasUserId_num {userId : Nat} {s : Row Staff} :
    hasUserId (.num userId) s = true ↔ s.cols.userId = some userId := by
  rw [hasUserId]
  cases s.cols.userId with
  | none => simp
  | some u => simp

theorem stringArgument_state (v : Val) (db : Db) : (stringArgument v db).2 = db := by
  cases v <;> rfl

/-- Checking a password writes nothing, and finds a row of the table. -/
theorem User.authenticate_run (php : Platform) (username password : Val) (db : Db) :
    (authenticate php username password db).2 = db ∧
      ∀ user, (authenticate php username password db).1 = .ok (some user) → user ∈ db.users.rows := by
  rw [authenticate, Prog.read_bind_run]
  cases found : db.users.find? (hasUsername username.strval) with
  | none => exact ⟨rfl, fun user result => by cases result⟩
  | some row =>
    dsimp only
    have state := stringArgument_state password db
    rw [Prog.bind_run]
    generalize stringArgument password db = outcome at state ⊢
    rcases outcome with ⟨why | text, after⟩
    · exact ⟨state, fun user result => by cases result⟩
    · cases state
      dsimp only
      rw [Prog.ite_run]
      split
      · refine ⟨rfl, fun user result => ?_⟩
        cases result
        exact (Table.mem_of_find? found).1
      · exact ⟨rfl, fun user result => by cases result⟩

/-- `findOrCreate` never fails: it reads a client, or adds one. -/
theorem Client.findOrCreate_run (clock : Clock) (name email phone : Val) (db : Db) :
    (∃ r ∈ db.clients.rows, reachedBy email phone r = true ∧
      findOrCreate clock name email phone db = (.ok r.id, db)) ∨
    ((∀ r ∈ db.clients.rows, reachedBy email phone r = false) ∧
      findOrCreate clock name email phone db = create clock name email phone db) := by
  rw [findOrCreate, Prog.read_bind_run]
  cases found : db.clients.find? (reachedBy email phone) with
  | some r =>
    obtain ⟨member, reached⟩ := Table.mem_of_find? found
    exact .inl ⟨r, member, reached, rfl⟩
  | none => exact .inr ⟨Table.find?_eq_none.mp found, rfl⟩

theorem User.insert_eq_ok {row : User} {userId : Nat} {db after : Db}
    (success : insert row db = (.ok userId, after)) :
    (∀ r ∈ db.users.rows, r.cols.username ≠ row.username) ∧ userId = db.users.nextId ∧
      after = db.setUsers (db.users.insert row) := by
  unfold insert at success
  split at success
  · cases success
  · rename_i free
    have returned := congrArg Prod.fst success
    simp only [Except.ok.injEq] at returned
    refine ⟨fun r member same => free ?_, returned.symm, (congrArg Prod.snd success).symm⟩
    exact List.any_eq_true.mpr ⟨r, member, by simp [hasUsername, same]⟩

theorem User.hashPassword_state (php : Platform) (salt : Nat) (password : Val) (db : Db) :
    (hashPassword php salt password db).2 = db := by
  have state := stringArgument_state password db
  rw [hashPassword, Prog.bind_run]
  generalize stringArgument password db = outcome at state ⊢
  rcases outcome with ⟨why | text, after⟩
  · exact state
  · cases state
    dsimp only
    rw [Prog.ite_run]
    split <;> rfl

/-- A registration that went through: a user under a name that was free, and a staff
row when the role is stylist. -/
theorem User.registerStatements_eq_ok {php : Platform} {salt : Nat} {clock : Clock}
    {name username password role commissionType specializations : Val} {commissionRate : Rat}
    {userId : Nat} {db after : Db}
    (success : registerStatements php salt clock name username password role commissionRate
      commissionType specializations db = (.ok userId, after)) :
    ∃ row : User, row.name = name.strval ∧ row.username = username.strval ∧
      row.role = role.strval ∧ (∀ r ∈ db.users.rows, r.cols.username ≠ row.username) ∧
      userId = db.users.nextId ∧
      after =
        if role.is "stylist" then
          (db.setUsers (db.users.insert row)).setStaff
            (db.staff.insert (.ofStylist db.users.nextId name specializations))
        else db.setUsers (db.users.insert row) := by
  rw [registerStatements, Prog.read_bind_run, Prog.ite_run] at success
  split at success
  · cases success
  · obtain ⟨passwordHash, mid, hashed, rest⟩ := Prog.bind_eq_ok.mp success
    obtain rfl : mid = db :=
      (congrArg Prod.snd hashed).symm.trans (hashPassword_state php salt password db)
    obtain ⟨newId, inserted, insertion, rest⟩ := Prog.bind_eq_ok.mp rest
    obtain ⟨free, rfl, added⟩ := insert_eq_ok insertion
    obtain ⟨_, final, staffing, returned⟩ := Prog.bind_eq_ok.mp rest
    have last : final = after := congrArg Prod.snd returned
    have same : mid.users.nextId = userId := by simpa using congrArg Prod.fst returned
    refine ⟨_, rfl, rfl, rfl, free, same.symm, ?_⟩
    have state : (addStaffRow role mid.users.nextId name specializations inserted).2 = final :=
      congrArg Prod.snd staffing
    rw [addStaffRow, Prog.ite_run] at state
    by_cases stylist : role.is "stylist" = true
    · rw [if_pos stylist] at state ⊢
      rw [← last, ← state, added]
      rfl
    · rw [if_neg stylist] at state ⊢
      rw [← last, ← state, added]
      rfl

theorem User.update_eq_ok {userId : Int} {username : Val} {f : User → User} {db after : Db}
    (success : update userId username f db = (.ok (), after)) :
    ((∃ r ∈ db.users.rows, (r.id : Int) = userId) →
      ∀ s ∈ db.users.rows, (s.id : Int) ≠ userId → s.cols.username ≠ username.strval) ∧
    after = db.setUsers (db.users.modify (byId (.num userId)) f) := by
  unfold update at success
  split at success
  · cases success
  · rename_i free
    refine ⟨fun present s member other same => free ?_, (congrArg Prod.snd success).symm⟩
    obtain ⟨r, rMember, rfl⟩ := present
    have found : lookup db.users (.num ((r.id : Int) : Rat)) = some r :=
      lookup_eq_some.mpr ⟨rMember, by simp⟩
    have different : s.id ≠ r.id := fun equal => other (congrArg Nat.cast equal)
    rw [found, Option.isSome_some, Bool.true_and, List.any_eq_true]
    exact ⟨s, member, by simp [hasUsername, same, byId, different]⟩

/-- What `updateStaffRow` does to the staff: nothing, unless the user is a stylist;
then it renames the stylist's rows, or adds one where there is none. -/
theorem User.updateStaffRow_run (userId : Int) (name specializations : Val) (db : Db) :
    ∃ after, updateStaffRow userId name specializations db = (.ok (), after) ∧
      ((∀ user ∈ db.users.rows, (user.id : Int) = userId → user.cols.role ≠ "stylist") ∧ after = db ∨
        ∃ user ∈ db.users.rows, (user.id : Int) = userId ∧ user.cols.role = "stylist" ∧
          ((∃ s ∈ db.staff.rows, hasUserId (.num userId) s = true) ∧
              after = db.setStaff
                (db.staff.modify (hasUserId (.num userId)) (.rename name specializations)) ∨
            (∀ s ∈ db.staff.rows, hasUserId (.num userId) s = false) ∧
              after = db.setStaff
                (db.staff.insert (.ofStylist user.id name specializations)))) := by
  rw [updateStaffRow, Prog.read_bind_run]
  cases found : lookup db.users (.num userId) with
  | none =>
    refine ⟨db, rfl, .inl ⟨fun user member same => ?_, rfl⟩⟩
    exact absurd (by rw [← same]; simp) (lookup_eq_none.mp found user member)
  | some user =>
    obtain ⟨member, key⟩ := lookup_eq_some.mp found
    have same : (user.id : Int) = userId := by
      simp only [SqlVal.num.injEq] at key
      exact_mod_cast key.symm
    dsimp only
    rw [Prog.ite_run]
    split
    · rename_i stylist
      rw [Prog.read_bind_run, Prog.ite_run]
      split
      · rename_i entry
        exact ⟨_, rfl, .inr ⟨user, member, same, stylist, .inl ⟨by simpa using entry, rfl⟩⟩⟩
      · rename_i entry
        exact ⟨_, rfl, .inr ⟨user, member, same, stylist, .inr ⟨by simpa using entry, rfl⟩⟩⟩
    · rename_i other
      refine ⟨db, rfl, .inl ⟨fun u uMember uId => ?_, rfl⟩⟩
      rwa [db.users.eq_of_id_eq uMember member (by exact_mod_cast uId.trans same.symm)]

/-- An edit that went through: the user's columns, and the staff as `updateStaffRow` leaves it. -/
theorem User.updateStatements_eq_ok {php : Platform} {salt : Nat} {userId : Int}
    {name username password commissionType specializations : Val} {commissionRate : Rat}
    {db after : Db}
    (success : updateStatements php salt userId name username password commissionRate
      commissionType specializations db = (.ok (), after)) :
    ∃ passwordHash mid,
      update userId username (edit name username passwordHash commissionRate commissionType) db =
        (.ok (), mid) ∧
      updateStaffRow userId name specializations mid = (.ok (), after) := by
  obtain ⟨passwordHash, start, hashed, rest⟩ := Prog.bind_eq_ok.mp success
  have unchanged : start = db := by
    have state := congrArg Prod.snd hashed
    rw [newHash, Prog.ite_run] at state
    split at state
    · exact state.symm
    · rw [Prog.bind_run] at state
      have hashState := hashPassword_state php salt password db
      generalize hashPassword php salt password db = outcome at state hashState
      rcases outcome with ⟨why | hash, t⟩
      · exact state.symm.trans hashState
      · exact state.symm.trans hashState
  obtain ⟨_, mid, updated, staffed⟩ := Prog.bind_eq_ok.mp rest
  exact ⟨passwordHash, mid, unchanged ▸ updated, staffed⟩

/-- A registration touches the users and the staff only. -/
theorem User.registerStatements_frame {php : Platform} {salt : Nat} {clock : Clock}
    {name username password role commissionType specializations : Val} {commissionRate : Rat}
    {userId : Nat} {db after : Db}
    (success : registerStatements php salt clock name username password role commissionRate
      commissionType specializations db = (.ok userId, after)) :
    ∃ users staff, after = (db.setUsers users).setStaff staff := by
  obtain ⟨row, -, -, -, -, -, rfl⟩ := registerStatements_eq_ok success
  split
  · exact ⟨_, _, rfl⟩
  · exact ⟨_, db.staff, rfl⟩

/-- An edit touches the users and the staff only. -/
theorem User.updateStatements_frame {php : Platform} {salt : Nat} {userId : Int}
    {name username password commissionType specializations : Val} {commissionRate : Rat}
    {db after : Db}
    (success : updateStatements php salt userId name username password commissionRate
      commissionType specializations db = (.ok (), after)) :
    ∃ users staff, after = (db.setUsers users).setStaff staff := by
  obtain ⟨passwordHash, mid, updated, staffed⟩ := updateStatements_eq_ok success
  obtain ⟨-, rfl⟩ := update_eq_ok updated
  obtain ⟨final, outcome, effect⟩ := updateStaffRow_run userId name specializations
    (db.setUsers (db.users.modify (byId (.num userId))
      (edit name username passwordHash commissionRate commissionType)))
  obtain rfl : final = after := congrArg Prod.snd (outcome.symm.trans staffed)
  rcases effect with ⟨-, rfl⟩ | ⟨_, _, _, _, ⟨_, rfl⟩ | ⟨_, rfl⟩⟩
  · exact ⟨_, db.staff, rfl⟩
  · exact ⟨_, _, rfl⟩
  · exact ⟨_, _, rfl⟩

end Specs

end Saloon.Source
