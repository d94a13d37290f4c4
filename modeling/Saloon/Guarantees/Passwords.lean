import Saloon.Guarantees.SideBySide

/-!
# What the API tells about a password hash

Two databases that differ in nothing but the hashes of their users, where the
hashes of one user verify the same of the passwords that are tried. Every run of
requests that tries no other password answers the same on both.
-/
namespace Saloon.Guarantees

open Lib Source

/-- One user under two hashes that answer alike to the passwords of `tried`. -/
def Rehashed (php : Platform) (tried : String → Prop) (r s : Row User) : Prop :=
  ∃ hash, s = { r with cols := { r.cols with passwordHash := hash } } ∧
    ∀ text, tried text → php.passwordVerify text r.cols.passwordHash = php.passwordVerify text hash

def SameButHashes (php : Platform) (tried : String → Prop) (db other : Db) : Prop :=
  ∃ users, other = db.setUsers users ∧ users.seq = db.users.seq ∧
    List.Forall₂ (Rehashed php tried) db.users.rows users.rows

/-- The password texts that the logins among the requests bring. -/
def Tries (events : List Event) (text : String) : Prop :=
  ∃ e ∈ events, Asks e "login" ["POST"] ∧ (argOr e "password" (.str "")).strval = text

section Users

variable {php : Platform} {tried : String → Prop} {r s : Row User} {users others : Table User}

theorem Rehashed.refl (r : Row User) : Rehashed php tried r r := ⟨_, rfl, fun _ _ => rfl⟩

theorem Rehashed.byId (same : Rehashed php tried r s) (k : SqlVal) : byId k r = byId k s := by
  obtain ⟨hash, rfl, -⟩ := same
  rfl

theorem Rehashed.hasUsername (same : Rehashed php tried r s) (username : String) :
    hasUsername username r = hasUsername username s := by
  obtain ⟨hash, rfl, -⟩ := same
  rfl

/-- An edit that writes a hash writes the same one, and one that does not keeps both. -/
theorem Rehashed.edit (same : Rehashed php tried r s) (name username : Val)
    (passwordHash : Option String) (commissionRate : Rat) (commissionType : Val) :
    Rehashed php tried
      { r with cols := User.edit name username passwordHash commissionRate commissionType r.cols }
      { s with cols := User.edit name username passwordHash commissionRate commissionType s.cols } := by
  obtain ⟨hash, rfl, verdicts⟩ := same
  cases passwordHash with
  | none => exact ⟨hash, rfl, verdicts⟩
  | some fresh => exact ⟨fresh, rfl, fun _ _ => rfl⟩

/-- The tables of the two databases. -/
abbrev Rows (php : Platform) (tried : String → Prop) (users others : Table User) : Prop :=
  List.Forall₂ (Rehashed php tried) users.rows others.rows

theorem lookup_rows (rows : Rows php tried users others) (k : SqlVal) :
    Option.Rel (Rehashed php tried) (lookup users k) (lookup others k) :=
  find?_of_forall₂ (fun _ _ same => same.byId k) rows

theorem foreignKey_rows (rows : Rows php tried users others) (k : SqlVal) :
    foreignKey users k = foreignKey others k := by
  rw [foreignKey, foreignKey]
  have found := lookup_rows rows k
  generalize lookup users k = left at found ⊢
  generalize lookup others k = right at found ⊢
  cases found with
  | none => rfl
  | some same =>
    obtain ⟨hash, rfl, -⟩ := same
    rfl

/-- The commission of a line comes from the other columns of its stylist's user. -/
theorem commissionPaid_rows {db : Db} (rows : Rows php tried db.users others) (stylistId : Val)
    (price : Rat) (quantity : Int) :
    Invoice.commissionPaid db stylistId price quantity =
      Invoice.commissionPaid (db.setUsers others) stylistId price quantity := by
  have profile : Option.Rel (fun u v : User => v = { u with passwordHash := v.passwordHash })
      (Invoice.commissionProfile db stylistId.key)
      (Invoice.commissionProfile (db.setUsers others) stylistId.key) := by
    rw [Invoice.commissionProfile, Invoice.commissionProfile]
    show Option.Rel _ _ ((lookup db.staff stylistId.key).bind fun s => s.cols.userId.bind fun u =>
      (lookup others (.num u)).map Row.cols)
    cases lookup db.staff stylistId.key with
    | none => exact .none
    | some s =>
      show Option.Rel _ (s.cols.userId.bind _) (s.cols.userId.bind _)
      cases s.cols.userId with
      | none => exact .none
      | some u =>
        show Option.Rel _ ((lookup db.users (.num u)).map _) ((lookup others (.num u)).map _)
        have found := lookup_rows rows (.num u)
        generalize lookup db.users (.num u) = left at found ⊢
        generalize lookup others (.num u) = right at found ⊢
        cases found with
        | none => exact .none
        | some same =>
          obtain ⟨hash, rfl, -⟩ := same
          exact .some rfl
  rw [Invoice.commissionPaid, Invoice.commissionPaid]
  generalize Invoice.commissionProfile db stylistId.key = left at profile ⊢
  generalize Invoice.commissionProfile (db.setUsers others) stylistId.key = right at profile ⊢
  cases profile with
  | none => rfl
  | some same => rw [same]

end Users

section Statements

variable {php : Platform} {tried : String → Prop} {α : Type}

/-- Statements that write no user, and read of the users what the hashes have no part in. -/
theorem blind_of_frame {x : Sql α}
    (frame : ∀ db users, Rows php tried db.users users →
      x (db.setUsers users) = ((x db).1, (x db).2.setUsers users)) :
    Prog.Blind (SameButHashes php tried) x := by
  rintro db _ ⟨users, rfl, seq, rows⟩
  have kept : (x db).2.users = db.users :=
    congrArg (fun outcome => outcome.2.users)
      (frame db db.users (List.forall₂_same.mpr fun r _ => .refl r))
  rw [frame db users rows]
  exact ⟨sameOutcome_eq.mpr rfl, users, rfl, seq.trans (by rw [kept]), by rw [kept]; exact rows⟩

theorem blind_read {f : Db → α} (frame : ∀ db users, f (db.setUsers users) = f db) :
    Prog.Blind (SameButHashes php tried) (.read f : Sql α) :=
  blind_of_frame fun db users _ =>
    congrArg (fun a => (Except.ok a, db.setUsers users)) (frame db users)

theorem blind_staffStatus (status userId : Val) :
    Prog.Blind (SameButHashes php tried) (Staff.updateStatus status userId) :=
  blind_of_frame fun _ _ _ => rfl

theorem blind_staffInsert (row : Staff) : Prog.Blind (SameButHashes php tried) (Staff.insert row) :=
  blind_of_frame fun _ _ _ => rfl

theorem blind_clientCreate (clock : Clock) (name email phone : Val) :
    Prog.Blind (SameButHashes php tried) (Client.create clock name email phone) :=
  blind_of_frame fun _ _ _ => rfl

theorem blind_findOrCreate (clock : Clock) (name email phone : Val) :
    Prog.Blind (SameButHashes php tried) (Client.findOrCreate clock name email phone) := by
  refine Prog.blind_bind (blind_read fun _ _ => rfl) fun found => ?_
  cases found with
  | none => exact blind_clientCreate _ _ _ _
  | some r => exact Prog.inStep_pure rfl

theorem blind_booking (clock : Clock) (clientId staffId serviceId date startTime clientType : Val) :
    Prog.Blind (SameButHashes php tried) (Appointment.createStatements php clock clientId staffId
      serviceId date startTime clientType) := by
  refine Prog.blind_bind (blind_read fun _ _ => rfl) fun duration => ?_
  refine Prog.blind_ite (fun _ => Prog.inStep_stop _) fun _ => ?_
  refine Prog.blind_ite (fun _ => Prog.inStep_stop _) fun _ => ?_
  refine Prog.blind_bind (blind_read fun _ _ => rfl) fun conflictCount => ?_
  refine Prog.blind_ite (fun _ => Prog.inStep_stop _) fun _ => blind_of_frame fun db users _ => ?_
  rw [Appointment.insert, Appointment.insert]
  split
  · rfl
  · simp only [Db.setUsers_clients, Db.setUsers_staff, Db.setUsers_services]
    generalize foreignKey db.clients clientId.key = client
    generalize foreignKey db.staff staffId.key = staff
    generalize foreignKey db.services serviceId.key = service
    cases client <;> cases staff <;> cases service <;> rfl

theorem blind_status (id status : Val) :
    Prog.Blind (SameButHashes php tried) (Appointment.statusStatements id status) := by
  refine Prog.blind_bind (blind_read fun _ _ => rfl) fun staffId => ?_
  cases staffId with
  | none => exact Prog.inStep_stop _
  | some staffId =>
    exact Prog.blind_bind (blind_of_frame fun _ _ _ => rfl) fun _ => blind_of_frame fun _ _ _ => rfl

theorem blind_insertDrawer (row : CashReconciliation) :
    Prog.Blind (SameButHashes php tried) (insertDrawer row) := by
  refine blind_of_frame fun db users _ => ?_
  simp only [insertDrawer, Db.setUsers_cashReconciliation]
  split <;> rfl

theorem blind_postOn (key : SqlVal) (f : CashReconciliation → CashReconciliation)
    (fresh : CashReconciliation) :
    Prog.Blind (SameButHashes php tried) (postOn key f fresh) := by
  refine Prog.blind_bind (blind_read fun _ _ => rfl) fun recon => ?_
  cases recon with
  | some recon => exact blind_of_frame fun _ _ _ => rfl
  | none => exact blind_insertDrawer fresh

theorem blind_offset (v : Val) (k : String) : Prog.Blind (SameButHashes php tried) (v.offset k) := by
  cases v with
  | str s => exact Prog.inStep_stop _
  | _ => exact Prog.inStep_pure rfl

theorem blind_addItems (totalAmount : Rat) (items : List Val) :
    Prog.Blind (SameButHashes php tried) (Invoice.addItems totalAmount items) := by
  induction items generalizing totalAmount with
  | nil => exact Prog.inStep_pure rfl
  | cons item items ih =>
    exact Prog.blind_bind (blind_offset _ _) fun _ => Prog.blind_bind (blind_offset _ _) fun _ => ih _

theorem blind_invoiceInsert (clock : Clock) (clientId loggedById paymentMethod : Val)
    (totalAmount : Rat) (appointmentId : Val) :
    Prog.Blind (SameButHashes php tried)
      (Invoice.insert clock clientId loggedById paymentMethod totalAmount appointmentId) := by
  refine blind_of_frame fun db users rows => ?_
  simp only [Invoice.insert, Db.setUsers_clients, Db.setUsers_users, Db.setUsers_appointments,
    ← foreignKey_rows rows]
  generalize foreignKey db.clients clientId.key = client
  generalize foreignKey db.users loggedById.key = user
  generalize foreignKey db.appointments appointmentId.key = appointment
  rcases client with _ | client <;> rcases user with _ | _ | user <;>
    rcases appointment with _ | appointment <;> rfl

theorem blind_insertItem (invoiceId : Nat) (itemType itemId stylistId : Val) (quantity : Int)
    (price commission : Rat) :
    Prog.Blind (SameButHashes php tried)
      (Invoice.insertItem invoiceId itemType itemId stylistId quantity price commission) := by
  refine blind_of_frame fun db users _ => ?_
  simp only [Invoice.insertItem, Db.setUsers_staff]
  generalize foreignKey db.staff stylistId.key = stylist
  split
  · rfl
  · split
    · rfl
    · cases stylist <;> rfl

theorem blind_addItem (invoiceId : Nat) (item : Val) :
    Prog.Blind (SameButHashes php tried) (Invoice.addItem invoiceId item) := by
  refine Prog.blind_bind (blind_offset _ _) fun itemType => ?_
  refine Prog.blind_bind (blind_offset _ _) fun itemId => ?_
  refine Prog.blind_bind (blind_offset _ _) fun quantity => ?_
  refine Prog.blind_bind (blind_offset _ _) fun price => ?_
  refine Prog.blind_bind (blind_of_frame fun db users rows => ?_) fun commission => ?_
  · rw [Prog.read_run, Prog.read_run, ← commissionPaid_rows rows]
  · refine Prog.blind_bind (blind_insertItem _ _ _ _ _ _ _) fun _ => ?_
    exact Prog.blind_ite (fun _ => blind_of_frame fun _ _ _ => rfl) fun _ => Prog.inStep_pure rfl

theorem blind_checkout (clock : Clock) (clientId loggedById paymentMethod items appointmentId : Val) :
    Prog.Blind (SameButHashes php tried) (Invoice.checkoutStatements clock clientId loggedById
      paymentMethod items appointmentId) := by
  refine Prog.blind_bind (blind_addItems _ _) fun totalAmount => ?_
  refine Prog.blind_bind (blind_invoiceInsert _ _ _ _ _ _) fun invoiceId => ?_
  refine Prog.blind_bind (Prog.blind_forEach (blind_addItem invoiceId) _) fun _ => ?_
  refine Prog.blind_bind (Prog.blind_ite (fun _ => blind_of_frame fun _ _ _ => rfl)
    fun _ => Prog.inStep_pure rfl) fun _ => ?_
  exact Prog.blind_bind (blind_postOn _ _ _) fun _ => Prog.inStep_pure rfl

theorem blind_expense (clock : Clock) (category : Val) (amount : Rat)
    (description expenseDate loggedBy : Val) :
    Prog.Blind (SameButHashes php tried)
      (Expense.createStatements clock category amount description expenseDate loggedBy) := by
  refine Prog.blind_bind (blind_of_frame fun db users rows => ?_) fun expenseId =>
    Prog.blind_bind (blind_postOn _ _ _) fun _ => Prog.inStep_pure rfl
  simp only [Expense.insert, Db.setUsers_users, ← foreignKey_rows rows]
  generalize foreignKey db.users loggedBy.key = user
  split
  · rfl
  · rcases user with _ | _ | user <;> rfl

theorem blind_todayStatus (clock : Clock) :
    Prog.Blind (SameButHashes php tried) (Reconciliation.getTodayStatus clock) := by
  refine Prog.blind_bind (blind_read fun _ _ => rfl) fun recon => ?_
  cases recon with
  | some recon => exact Prog.inStep_pure rfl
  | none => exact Prog.blind_bind (blind_insertDrawer _) fun _ => blind_read fun _ _ => rfl

theorem blind_close (clock : Clock) (date : Val) (closingBalance : Rat) (closedById : Val) :
    Prog.Blind (SameButHashes php tried)
      (Reconciliation.closeDrawer clock date closingBalance closedById) := by
  refine blind_of_frame fun db users rows => ?_
  simp only [Reconciliation.closeDrawer, Db.setUsers_users, Db.setUsers_cashReconciliation,
    ← foreignKey_rows rows]
  generalize foreignKey db.users closedById.key = user
  split
  · cases user <;> rfl
  · rfl

theorem blind_stringArgument (v : Val) :
    Prog.Blind (SameButHashes php tried) (stringArgument v) := by
  cases v with
  | arr entries => exact Prog.inStep_stop _
  | _ => exact Prog.inStep_pure rfl

theorem blind_hashPassword (salt : Nat) (password : Val) :
    Prog.Blind (SameButHashes php tried) (User.hashPassword php salt password) :=
  Prog.blind_bind (blind_stringArgument _) fun _ =>
    Prog.blind_ite (fun _ => Prog.inStep_stop _) fun _ => Prog.inStep_pure rfl

theorem blind_newHash (salt : Nat) (password : Val) :
    Prog.Blind (SameButHashes php tried) (User.newHash php salt password) :=
  Prog.blind_ite (fun _ => Prog.inStep_pure rfl) fun _ =>
    Prog.blind_bind (blind_hashPassword _ _) fun _ => Prog.inStep_pure rfl

/-- Both databases get the row under the same id. -/
theorem blind_userInsert (row : User) :
    Prog.Blind (SameButHashes php tried) (User.insert row) := by
  rintro db _ ⟨users, rfl, seq, rows⟩
  have taken : users.rows.any (hasUsername row.username) =
      db.users.rows.any (hasUsername row.username) :=
    (any_eq_of_forall₂ (fun _ _ same => same.hasUsername _) rows).symm
  simp only [User.insert, Db.setUsers_users, taken]
  split
  · exact ⟨rfl, users, rfl, seq, rows⟩
  · have next : users.nextId = db.users.nextId := congrArg (· + 1) seq
    refine ⟨congrArg Nat.cast next.symm, users.insert row, rfl, next, ?_⟩
    show List.Forall₂ _ (db.users.rows ++ [_]) (users.rows ++ [_])
    rw [next]
    exact List.rel_append rows (.cons (.refl _) .nil)

theorem blind_register (salt : Nat) (clock : Clock)
    (name username password role : Val) (commissionRate : Rat)
    (commissionType specializations : Val) :
    Prog.Blind (SameButHashes php tried) (User.registerStatements php salt clock name username
      password role commissionRate commissionType specializations) := by
  refine Prog.blind_bind (Prog.inStep_read ?_) fun taken => ?_
  · rintro db _ ⟨users, rfl, -, rows⟩
    exact any_eq_of_forall₂ (fun _ _ same => same.hasUsername _) rows
  · refine Prog.blind_ite (fun _ => Prog.inStep_stop _) fun _ => ?_
    refine Prog.blind_bind (blind_hashPassword _ _) fun passwordHash => ?_
    refine Prog.blind_bind (blind_userInsert _) fun userId => ?_
    refine Prog.blind_bind (Prog.blind_ite (fun _ => blind_staffInsert _)
      fun _ => Prog.inStep_pure rfl) fun _ => Prog.inStep_pure rfl

theorem blind_userUpdate (userId : Int) (name username : Val) (passwordHash : Option String)
    (commissionRate : Rat) (commissionType : Val) :
    Prog.Blind (SameButHashes php tried) (User.update userId username
      (User.edit name username passwordHash commissionRate commissionType)) := by
  rintro db _ ⟨users, rfl, seq, rows⟩
  have found : (lookup users (.num userId)).isSome = (lookup db.users (.num userId)).isSome := by
    have related := lookup_rows rows (.num userId)
    generalize lookup db.users (.num userId) = left at related ⊢
    generalize lookup users (.num userId) = right at related ⊢
    cases related <;> rfl
  have taken : users.rows.any (fun r => !byId (.num userId) r && hasUsername username.strval r) =
      db.users.rows.any (fun r => !byId (.num userId) r && hasUsername username.strval r) :=
    (any_eq_of_forall₂ (fun _ _ same => by rw [same.byId, same.hasUsername]) rows).symm
  simp only [User.update, Db.setUsers_users, found, taken]
  split
  · exact ⟨rfl, users, rfl, seq, rows⟩
  · refine ⟨rfl, _, rfl, seq, List.rel_map (fun r s same => ?_) rows⟩
    rw [same.byId]
    split
    · exact same.edit _ _ _ _ _
    · exact same

theorem blind_staffRow (userId : Int) (name specializations : Val) :
    Prog.Blind (SameButHashes php tried) (User.updateStaffRow userId name specializations) := by
  refine Prog.inStep_bind (P := Option.Rel (Rehashed php tried)) (Prog.inStep_read ?_) ?_
  · rintro db _ ⟨users, rfl, -, rows⟩
    exact lookup_rows rows _
  · rintro _ _ (same | _)
    · obtain ⟨hash, rfl, -⟩ := same
      refine Prog.blind_ite (fun _ => ?_) fun _ => Prog.inStep_pure rfl
      refine Prog.blind_bind (blind_read fun _ _ => rfl) fun entry => ?_
      exact Prog.blind_ite (fun _ => blind_of_frame fun _ _ _ => rfl) fun _ => blind_staffInsert _
    · exact Prog.inStep_pure rfl

theorem blind_updateStaff (salt : Nat) (userId : Int) (name username password : Val)
    (commissionRate : Rat) (commissionType specializations : Val) :
    Prog.Blind (SameButHashes php tried) (User.updateStatements php salt userId name username
      password commissionRate commissionType specializations) :=
  Prog.blind_bind (blind_newHash _ _) fun _ =>
    Prog.blind_bind (blind_userUpdate _ _ _ _ _ _) fun _ => blind_staffRow _ _ _

/-- A password that is among the tried ones finds the same user, or none. -/
theorem inStep_authenticate {username password : Val} (among : tried password.strval) :
    Prog.InStep (SameButHashes php tried) (Option.Rel (Rehashed php tried))
      (User.authenticate php username password) (User.authenticate php username password) := by
  refine Prog.inStep_bind (P := Option.Rel (Rehashed php tried)) (Prog.inStep_read ?_) ?_
  · rintro db _ ⟨users, rfl, -, rows⟩
    exact find?_of_forall₂ (fun _ _ same => same.hasUsername _) rows
  · rintro _ _ (same | _)
    · obtain ⟨hash, rfl, verdicts⟩ := same
      cases password with
      | arr entries => exact Prog.inStep_stop _
      | _ =>
        exact Prog.inStep_ite (by rw [verdicts _ among])
          (fun _ => Prog.inStep_pure (.some ⟨hash, rfl, verdicts⟩)) fun _ => Prog.inStep_pure .none
    · exact Prog.inStep_pure .none

end Statements

section Lists

variable {php : Platform} {tried : String → Prop} {db : Db} {users : Table User}

/-- No list shows a hash. -/
theorem getAllStaff_rows (rows : Rows php tried db.users users) :
    User.getAllStaff db = User.getAllStaff (db.setUsers users) := by
  refine map_eq_of_forall₂ (R := fun p q => Rehashed php tried p.1 q.1 ∧ p.2 = q.2) ?_
    (forall₂_orderBy ?_ (forall₂_leftJoin ?_ rows))
  · rintro ⟨r, s⟩ ⟨_, _⟩ ⟨⟨hash, rfl, -⟩, rfl⟩
    rfl
  · rintro ⟨r, s⟩ ⟨r', s'⟩ ⟨_, _⟩ ⟨_, _⟩ ⟨⟨hash, rfl, -⟩, rfl⟩ ⟨⟨hash', rfl, -⟩, rfl⟩
    rfl
  · rintro r _ ⟨hash, rfl, -⟩
    rfl

theorem getExpenses_rows (rows : Rows php tried db.users users) :
    Expense.getAll db = Expense.getAll (db.setUsers users) := by
  refine map_eq_of_forall₂ (R := fun p q => p.1 = q.1 ∧ Rehashed php tried p.2 q.2) ?_
    (forall₂_orderBy ?_ (forall₂_join_right ?_ rows))
  · rintro ⟨e, r⟩ ⟨_, _⟩ ⟨rfl, ⟨hash, rfl, -⟩⟩
    rfl
  · rintro ⟨e, r⟩ ⟨e', r'⟩ ⟨_, _⟩ ⟨_, _⟩ ⟨rfl, -⟩ ⟨rfl, -⟩
    rfl
  · rintro e r _ ⟨hash, rfl, -⟩
    rfl

theorem getReconciliations_rows (rows : Rows php tried db.users users) :
    Reconciliation.getAll db = Reconciliation.getAll (db.setUsers users) := by
  refine map_eq_of_forall₂ (R := fun p q => p.1 = q.1 ∧ Option.Rel (Rehashed php tried) p.2 q.2) ?_
    (forall₂_orderBy ?_ (forall₂_leftJoin_right ?_ rows))
  · rintro ⟨r, _⟩ ⟨_, _⟩ ⟨rfl, ⟨hash, rfl, -⟩ | _⟩
    · rfl
    · rfl
  · rintro ⟨e, r⟩ ⟨e', r'⟩ ⟨_, _⟩ ⟨_, _⟩ ⟨rfl, -⟩ ⟨rfl, -⟩
    rfl
  · rintro e r _ ⟨hash, rfl, -⟩
    rfl

end Lists

section Actions

variable {php : Platform} {tried : String → Prop} {e : Event}

/-- The sessions of one request on the two databases. -/
abbrev Hidden (php : Platform) (tried : String → Prop) (x : Php Unit) : Prop :=
  Prog.Blind (SessionsAlike (SameButHashes php tried)) x

theorem hidden_list {rows : Db → List Val}
    (same : ∀ db users, Rows php tried db.users users → rows db = rows (db.setUsers users)) :
    Hidden php tried (list rows) := by
  refine inStep_list ?_
  rintro db _ ⟨users, rfl, -, connected⟩
  exact same db users connected

theorem hidden_attempt {α : Type} {statements : Sql α} (answer : α → Val)
    (blind : Prog.Blind (SameButHashes php tried) statements) :
    Hidden php tried (attempt (exec statements) answer) := blind_attempt (inStep_exec blind) answer

theorem hidden_transaction {α : Type} {statements : Sql α} (answer : α → Val)
    (blind : Prog.Blind (SameButHashes php tried) statements) :
    Hidden php tried (attempt (transaction statements) answer) :=
  blind_attempt (blind_transaction blind) answer

theorem hidden_login (env : Env) (same : env.php = php)
    (among : tried (env.getBody.fieldOr "password" (.str "")).strval) :
    Hidden php tried (AuthController.login env) := by
  subst same
  refine Prog.blind_ite (fun _ => blind_json _ _) fun _ => ?_
  refine Prog.inStep_bind (inStep_exec (inStep_authenticate among)) ?_
  rintro _ _ (found | _)
  · obtain ⟨hash, rfl, -⟩ := found
    refine Prog.blind_bind (x := JWT.encode _ _ _ _) ?_ fun token => blind_json _ _
    intro s t start
    exact ⟨rfl, start.db, start.saved, start.user, congrArg (List.cons _) start.signed⟩
  · exact blind_json _ _

theorem hidden_register (env : Env) (same : env.php = php) :
    Hidden php tried (AuthController.register env) := by
  subst same
  exact inStep_handle fun _ _ => Prog.blind_ite (fun _ => blind_json _ _) fun _ =>
    Prog.blind_ite (fun _ => blind_json _ _) fun _ => hidden_transaction _ (blind_register _ _ _ _ _ _ _ _ _)

theorem hidden_staffList (env : Env) : Hidden php tried (AuthController.getStaffList env) :=
  Prog.blind_ite
    (fun _ => inStep_handle fun _ _ => hidden_list fun _ _ rows => getAllStaff_rows rows)
    fun _ => hidden_list fun _ _ _ => rfl

theorem hidden_availability (env : Env) : Hidden php tried (AuthController.updateStatus env) :=
  inStep_handle fun _ _ => Prog.blind_ite (fun _ => blind_json _ _) fun _ =>
    hidden_attempt _ (blind_staffStatus _ _)

theorem hidden_updateStaff (env : Env) (same : env.php = php) :
    Hidden php tried (AuthController.updateStaff env) := by
  subst same
  exact inStep_handle fun _ _ => Prog.blind_ite (fun _ => blind_json _ _) fun _ =>
    hidden_transaction _ (blind_updateStaff _ _ _ _ _ _ _ _)

theorem hidden_read {α : Type} {f : Db → α} {k : α → Php Unit}
    (frame : ∀ db users, f (db.setUsers users) = f db) (rest : ∀ a, Hidden php tried (k a)) :
    Hidden php tried (exec (.read f) >>= k) :=
  Prog.blind_bind (inStep_exec (blind_read frame)) rest

theorem hidden_dashboard (env : Env) : Hidden php tried (AppointmentController.getDashboard env) :=
  inStep_handle fun _ _ => hidden_read (fun _ _ => rfl) fun _ => blind_json _ _

theorem hidden_appointments (env : Env) :
    Hidden php tried (AppointmentController.getAppointments env) := by
  refine inStep_handle fun user _ => Prog.blind_ite (fun _ => ?_) fun _ => hidden_list fun _ _ _ => rfl
  refine hidden_read (fun _ _ => rfl) fun staffId => ?_
  cases staffId with
  | none => exact blind_json _ _
  | some staffId => exact hidden_list fun _ _ _ => rfl

theorem hidden_todayAppointments (env : Env) :
    Hidden php tried (AppointmentController.getTodayAppointments env) := by
  refine inStep_handle fun user _ => Prog.blind_ite (fun _ => ?_) fun _ => hidden_list fun _ _ _ => rfl
  refine hidden_read (fun _ _ => rfl) fun staffId => ?_
  cases staffId with
  | none => exact hidden_list fun _ _ _ => rfl
  | some staffId => exact hidden_list fun _ _ _ => rfl

theorem hidden_booking (env : Env) (same : env.php = php) :
    Hidden php tried (AppointmentController.createAppointment env) := by
  subst same
  refine Prog.blind_ite (fun _ => blind_json _ _) fun _ => blind_attempt ?_ _
  exact Prog.blind_bind (inStep_exec (blind_findOrCreate _ _ _ _)) fun _ =>
    blind_transaction (blind_booking _ _ _ _ _ _ _)

theorem blind_bill (clock : Clock) (id loggedById : Val) :
    Hidden php tried (Invoice.createFromCompletedAppointment clock id loggedById) := by
  refine hidden_read (fun _ _ => rfl) fun already => ?_
  refine Prog.blind_ite (fun _ => Prog.inStep_pure rfl) fun _ => ?_
  refine hidden_read (fun _ _ => rfl) fun apt => ?_
  cases apt with
  | none => exact Prog.inStep_pure rfl
  | some apt =>
    exact Prog.blind_bind (blind_transaction (blind_checkout _ _ _ _ _ _)) fun _ =>
      Prog.inStep_pure rfl

theorem hidden_statusUpdate (env : Env) :
    Hidden php tried (AppointmentController.updateStatus env) := by
  refine inStep_handle fun user _ => Prog.blind_ite (fun _ => blind_json _ _) fun _ => ?_
  refine Prog.blind_ite (fun _ => blind_json _ _) fun _ => blind_attempt ?_ _
  refine Prog.blind_bind blind_begin fun _ => blind_catch ?_ fun _ =>
    Prog.blind_bind blind_rollBack fun _ => Prog.inStep_stop _
  refine Prog.blind_bind (inStep_exec (blind_status _ _)) fun _ => ?_
  refine Prog.blind_bind blind_commit fun _ => ?_
  exact Prog.blind_ite (fun _ => blind_bill _ _ _) fun _ => Prog.inStep_pure rfl

/-- A guarded action that refuses some bodies, and runs one autocommitted statement. -/
theorem hidden_guarded {α : Type} {env : Env} {roles : List Role} {refused : Prop}
    [Decidable refused] {refusal : Php Unit} {statements : Sql α} {answer : α → Val}
    (refusing : Hidden php tried refusal)
    (blind : Prog.Blind (SameButHashes php tried) statements) :
    Hidden php tried (do
      let _ ← env.handle roles
      if refused then refusal else attempt (exec statements) answer) :=
  inStep_handle fun _ _ => Prog.blind_ite (fun _ => refusing) fun _ => hidden_attempt _ blind

theorem hidden_closeDrawer (env : Env) :
    Hidden php tried (ReconciliationController.closeDrawer env) :=
  inStep_handle fun _ _ =>
    blind_catch
      (Prog.blind_bind (inStep_exec (blind_close _ _ _ _)) fun _ =>
        Prog.blind_ite (fun _ => blind_json _ _) fun _ => blind_json _ _)
      fun _ => blind_json _ _

theorem hidden_todayStatus (env : Env) :
    Hidden php tried (ReconciliationController.getTodayStatus env) := by
  refine inStep_handle fun _ _ => Prog.blind_bind (inStep_exec (blind_todayStatus _)) fun today => ?_
  cases today with
  | none => exact blind_json _ _
  | some r => exact blind_json _ _

theorem hidden_listing {env : Env} {roles : List Role} {rows : Db → List Val}
    (same : ∀ db users, Rows php tried db.users users → rows db = rows (db.setUsers users)) :
    Hidden php tried (do
      let _ ← env.handle roles
      list rows) := inStep_handle fun _ _ => hidden_list same

/-- Any request, whose password is a tried one in case it is a login. -/
theorem hidden_route (login : Asks e "login" ["POST"] →
    tried (argOr e "password" (.str "")).strval) :
    Hidden php tried (route e.request.action e.request.method (e.env php)) := by
  generalize named : e.request.action = action
  fun_cases route action e.request.method (e.env php)
  -- a known action with another method
  any_goals with_reducible exact Prog.inStep_pure rfl
  · exact hidden_login _ rfl (login ⟨named, by simp [‹e.request.method = "POST"›]⟩)
  · exact hidden_register _ rfl
  · exact hidden_staffList _
  · exact hidden_register _ rfl
  · exact hidden_updateStaff _ rfl
  · exact hidden_availability _
  · exact hidden_dashboard _
  · exact hidden_appointments _
  · exact hidden_booking _ rfl
  · exact hidden_booking _ rfl
  · exact hidden_todayAppointments _
  · exact hidden_statusUpdate _
  · exact hidden_listing fun _ _ _ => rfl
  · exact hidden_guarded (blind_json _ _) (blind_clientCreate _ _ _ _)
  · exact hidden_list fun _ _ _ => rfl
  · exact hidden_guarded (blind_json _ _) (blind_of_frame fun _ _ _ => rfl)
  · exact hidden_guarded (blind_json _ _) (blind_of_frame fun _ _ _ => rfl)
  · exact inStep_handle fun _ _ => Prog.blind_ite (fun _ => blind_json _ _) fun _ =>
      hidden_transaction _ (blind_checkout _ _ _ _ _ _)
  · exact hidden_listing fun _ _ _ => rfl
  · exact inStep_handle fun _ _ => hidden_read (fun _ _ => rfl) fun _ => blind_json _ _
  · exact hidden_listing fun _ _ _ => rfl
  · exact inStep_handle fun _ _ => Prog.blind_ite (fun _ => blind_json _ _) fun _ =>
      Prog.blind_ite (fun _ => blind_json _ _) fun _ =>
        hidden_attempt _ (blind_of_frame fun _ _ _ => rfl)
  · exact hidden_guarded (blind_json _ _) (blind_of_frame fun _ _ _ => rfl)
  · exact hidden_listing fun _ _ _ => rfl
  · exact hidden_listing fun _ _ rows => getExpenses_rows rows
  · exact inStep_handle fun _ _ => Prog.blind_ite (fun _ => blind_json _ _) fun _ =>
      hidden_transaction _ (blind_expense _ _ _ _ _ _)
  · exact hidden_listing fun _ _ rows => getReconciliations_rows rows
  · exact hidden_todayStatus _
  · exact hidden_closeDrawer _
  · exact blind_json _ _

theorem hidden_index (login : Asks e "login" ["POST"] →
    tried (argOr e "password" (.str "")).strval) : Hidden php tried (index php e) :=
  Prog.blind_ite (fun _ => Prog.inStep_stop _) fun _ => hidden_route login

end Actions

/-- What a client sees of a run. -/
def responses (php : Platform) (db : Db) (events : List Event) : List Response :=
  emitted (request php) (fun e db => [(serve php e db).response]) db events

/-- The API tells no more of a password hash than whether it verifies the passwords that
logins bring: every run answers the same on two databases whose hashes agree on those,
and leaves two such databases. -/
theorem hashes_confidential (php : Platform) (events : List Event) {db other : Db}
    (same : SameButHashes php (Tries events) db other) :
    responses php db events = responses php other events ∧
      SameButHashes php (Tries events) (run (request php) db events)
        (run (request php) other events) := by
  refine run_inStep (fun e member s t alike => ?_) same
  have blind : Hidden php (Tries events) (index php e) :=
    hidden_index fun asked => ⟨e, member, asked, rfl⟩
  obtain ⟨response, next⟩ := serve_alike blind alike
  exact ⟨congrArg (fun r => [r]) response, next⟩

section Guessing

/-! A guess at a stylist's password, and the desk's staff list. -/

def emmaHash (password : String) : String :=
  if password = "emmapass" then "another hash" else adminHash

def guess : Event where
  clock := morning
  salt := 0
  request :=
    { action := "login"
      method := "POST"
      headers := ⟨none, none, none, none⟩
      body := .arr [("username", .str "emma"), ("password", .str "guess")] }

def guesses : List Event := [guess, adminRequest "staff" "GET" []]

theorem same_but_emma :
    SameButHashes recorded (Tries guesses) morningDb (seed emmaHash morning) := by
  have verdicts (hash : String) (text : String) (tries : Tries guesses text) :
      recorded.passwordVerify text hash = false := by
    obtain ⟨e, member, asked, rfl⟩ := tries
    rcases List.mem_pair.mp member with rfl | rfl
    · show recorded.passwordVerify "guess" hash = false
      simp [recorded]
    · exact absurd asked (by decide)
  have rehashed (id : Nat) (user : User) (hash : String) :
      Rehashed recorded (Tries guesses) ⟨id, user⟩ ⟨id, { user with passwordHash := hash }⟩ :=
    ⟨hash, rfl, fun text tries => by rw [verdicts _ _ tries, verdicts _ _ tries]⟩
  exact ⟨seedUsers emmaHash morning.now, rfl, rfl, .cons (rehashed _ _ _) (.cons (rehashed _ _ _)
    (.cons (rehashed _ _ _) (.cons (rehashed _ _ _) .nil)))⟩

theorem guesses_confidential :
    SameButHashes recorded (Tries guesses) morningDb (seed emmaHash morning) ∧
      responses recorded morningDb guesses = responses recorded (seed emmaHash morning) guesses ∧
      SameButHashes recorded (Tries guesses) (run (request recorded) morningDb guesses)
        (run (request recorded) (seed emmaHash morning) guesses) :=
  ⟨same_but_emma, hashes_confidential recorded guesses same_but_emma⟩

end Guessing

end Saloon.Guarantees
