import Saloon.Lib.Scripts
import Saloon.Source.Controllers

/-!
# The models' transactions, statement by statement

Each method of a model that writes, as the list of the statements that SQLite sees
(`models/Appointment.php:52-153`, `models/Invoice.php:6-193`, `models/Expense.php:16-69`,
`models/User.php:18-150`). Run one after the other they are the method's statements as
a whole.
-/
namespace Saloon.Source

open Lib

/-- The statements of one transaction on the saloon's database. -/
abbrev SqlBody (α : Type) : Type := Body Db Thrown α

variable {α : Type}

/-- `$v[$k]`, no statement. -/
def Val.offsetBody (v : Val) (k : String) : SqlBody Val :=
  match v with
  | .str _ => .throws (.error "Cannot access offset of type string on string")
  | _ => pure (v.field k)

/-- A posting to the drawer of a date: its open row is read, and then written. -/
def postOnBody (key : SqlVal) (f : CashReconciliation → CashReconciliation)
    (fresh : CashReconciliation) : SqlBody Unit := do
  let recon ← .read (openDrawer key)
  match recon with
  | some recon => .execute (updateDrawer recon.id f)
  | none => .execute (insertDrawer fresh)

namespace Appointment

def createBody (php : Platform) (clock : Clock)
    (clientId staffId serviceId date startTime clientType : Val) : SqlBody Nat := do
  let duration ← .read (durationOf serviceId.key)
  if duration = 0 then .throws (.exception "Service not found")
  else do
    let startTs := startTimestamp php clock date startTime
    let endTs := startTs + duration * 60
    if !isInt64 endTs then
      .throws (.error "date(): Argument #2 ($timestamp) must be of type ?int")
    else do
      let conflictCount ← .read fun db => db.appointments.rows.countP
        (conflicts staffId.key date.key (dateHis startTs) (dateHis endTs))
      if 0 < conflictCount then
        .throws (.exception "Stylist is already booked for this time slot.")
      else
        .execute (insert clock clientId staffId serviceId date (dateHis startTs) (dateHis endTs)
          clientType)

/-- `updateStatus` up to its commit. -/
def statusBody (id status : Val) : SqlBody Unit := do
  let staffId ← .read (assigned id.key)
  match staffId with
  | none => .throws (.exception "Appointment not found")
  | some staffId => do
    .execute (.update fun db =>
      db.setAppointments (db.appointments.modify (byId id.key) (setStatus status.strval)))
    .execute (.update fun db =>
      db.setStaff (db.staff.modify (byId (.num staffId)) (.setStatus (staffStatus status))))

end Appointment

namespace Invoice

def addItemsBody (totalAmount : Rat) : List Val → SqlBody Rat
  | [] => pure totalAmount
  | item :: items => do
    let price ← item.offsetBody "price"
    let quantity ← item.offsetBody "quantity"
    addItemsBody (totalAmount + price.floatval * quantity.intval) items

/-- "Fetch stylist's commission profile", which a line without a stylist does not. -/
def commissionBody (stylistId : Val) (price : Rat) (quantity : Int) : SqlBody Rat :=
  if stylistId.truthy then .read fun db => commissionPaid db stylistId price quantity
  else pure 0

def takeFromStockBody (itemType itemId : Val) (quantity : Int) : SqlBody Unit :=
  if itemType.is "product" then
    .execute (.update fun db =>
      db.setProducts (db.products.modify (byId itemId.key) (.takeStock quantity)))
  else pure ()

def addItemBody (invoiceId : Nat) (item : Val) : SqlBody Unit := do
  let itemType ← item.offsetBody "item_type"
  let itemId ← item.offsetBody "item_id"
  let stylistId := item.field "stylist_id"
  let quantity := Val.intval (← item.offsetBody "quantity")
  let price := Val.floatval (← item.offsetBody "price")
  let commission ← commissionBody stylistId price quantity
  .execute (insertItem invoiceId itemType itemId stylistId quantity price commission)
  takeFromStockBody itemType itemId quantity

def updateClientStatsBody (clock : Clock) (clientId : Val) (totalAmount : Rat) : SqlBody Unit :=
  if clientId.truthy then
    .execute (.update fun db =>
      db.setClients (db.clients.modify (byId clientId.key) (.spend clock totalAmount)))
  else pure ()

def checkoutBody (clock : Clock) (clientId loggedById paymentMethod items appointmentId : Val) :
    SqlBody Nat := do
  let totalAmount ← addItemsBody 0 items.elems
  let invoiceId ←
    .execute (insert clock clientId loggedById paymentMethod totalAmount appointmentId)
  .forEach (addItemBody invoiceId) items.elems
  updateClientStatsBody clock clientId totalAmount
  postOnBody (dateKey clock.today) (saleUpdate paymentMethod totalAmount)
    (saleOpening (dateKey clock.today) paymentMethod totalAmount)
  pure invoiceId

/-- The SELECT of a completed appointment and the checkout behind it: the SELECT is not reset
before `beginTransaction`, so SQLite holds both to one snapshot. -/
def billBody (clock : Clock) (appointmentId loggedById : Val) : SqlBody (Option Nat) := do
  let apt ← .read (billable appointmentId.key)
  match apt with
  | none => pure none
  | some apt => do
    let invoiceId ← checkoutBody clock (.ofId apt.clientId) loggedById (.str "cash")
      (.list [apt.item]) appointmentId
    pure (some invoiceId)

end Invoice

namespace Expense

def createBody (clock : Clock) (category : Val) (amount : Rat)
    (description expenseDate loggedBy : Val) : SqlBody Nat := do
  let expenseId ← .execute (insert clock category amount description expenseDate loggedBy)
  postOnBody expenseDate.key (.addExpense amount) (opening expenseDate.key amount)
  pure expenseId

end Expense

namespace User

/-- `password_hash($password, PASSWORD_BCRYPT)`, no statement. -/
def hashPasswordBody (php : Platform) (salt : Nat) (password : Val) : SqlBody String :=
  match password with
  | .arr _ => .throws (.error "Argument must be of type string, array given")
  | _ =>
    if password.strval.toList.contains '\x00' then
      .throws (.error "Bcrypt password must not contain null character")
    else pure (php.passwordHash salt password.strval)

def addStaffRowBody (role : Val) (userId : Nat) (name specializations : Val) : SqlBody Unit :=
  if role.is "stylist" then .execute (Staff.insert (.ofStylist userId name specializations))
  else pure ()

def registerBody (php : Platform) (salt : Nat) (clock : Clock)
    (name username password role : Val) (commissionRate : Rat)
    (commissionType specializations : Val) : SqlBody Nat := do
  let taken ← .read fun db => db.users.rows.any (hasUsername username.strval)
  if taken then .throws (.exception "Username already exists")
  else do
    let passwordHash ← hashPasswordBody php salt password
    let userId ← .execute (insert
      { name := name.strval
        username := username.strval
        passwordHash
        role := role.strval
        commissionRate
        commissionType := commissionType.strval
        createdAt := clock.now })
    addStaffRowBody role userId name specializations
    pure userId

def newHashBody (php : Platform) (salt : Nat) (password : Val) : SqlBody (Option String) :=
  if password.empty then pure none
  else do
    let hash ← hashPasswordBody php salt password
    pure (some hash)

def updateStaffRowBody (userId : Int) (name specializations : Val) : SqlBody Unit := do
  let user ← .read fun db => lookup db.users (.num userId)
  match user with
  | none => pure ()
  | some user =>
    if user.cols.role = "stylist" then do
      let entry ← .read fun db => db.staff.rows.any (hasUserId (.num userId))
      if entry then
        .execute (.update fun db => db.setStaff
          (db.staff.modify (hasUserId (.num userId)) (.rename name specializations)))
      else .execute (Staff.insert (.ofStylist user.id name specializations))
    else pure ()

def updateBody (php : Platform) (salt : Nat) (userId : Int) (name username password : Val)
    (commissionRate : Rat) (commissionType specializations : Val) : SqlBody Unit := do
  let passwordHash ← newHashBody php salt password
  .execute
    (update userId username (edit name username passwordHash commissionRate commissionType))
  updateStaffRowBody userId name specializations

end User

section Specs

/-! One after the other, the statements are the method. -/

theorem Val.run_offsetBody (v : Val) (k : String) : (v.offsetBody k).run = v.offset k := by
  cases v <;> rfl

theorem run_postOnBody (key : SqlVal) (f : CashReconciliation → CashReconciliation)
    (fresh : CashReconciliation) : (postOnBody key f fresh).run = postOn key f fresh := by
  refine Body.run_bind_congr rfl fun recon => ?_
  cases recon with
  | none => exact Body.run_execute _
  | some r => exact Body.run_execute _

namespace Appointment

theorem run_createBody (php : Platform) (clock : Clock)
    (clientId staffId serviceId date startTime clientType : Val) :
    (createBody php clock clientId staffId serviceId date startTime clientType).run =
      createStatements php clock clientId staffId serviceId date startTime clientType := by
  refine Body.run_bind_congr rfl fun duration => ?_
  rw [Body.run_ite, Body.run_ite]
  refine if_congr Iff.rfl rfl (if_congr Iff.rfl rfl ?_)
  refine Body.run_bind_congr rfl fun conflictCount => ?_
  rw [Body.run_ite, Body.run_execute]
  rfl

theorem run_statusBody (id status : Val) :
    (statusBody id status).run = statusStatements id status := by
  refine Body.run_bind_congr rfl fun staffId => ?_
  cases staffId with
  | none => rfl
  | some staffId => exact Body.run_bind_congr (Body.run_execute _) fun _ => Body.run_execute _

end Appointment

namespace Invoice

theorem run_addItemsBody (items : List Val) (totalAmount : Rat) :
    (addItemsBody totalAmount items).run = addItems totalAmount items := by
  induction items generalizing totalAmount with
  | nil => rfl
  | cons item items ih =>
    refine Body.run_bind_congr (Val.run_offsetBody _ _) fun price => ?_
    exact Body.run_bind_congr (Val.run_offsetBody _ _) fun quantity => ih _

theorem run_commissionBody (stylistId : Val) (price : Rat) (quantity : Int) :
    (commissionBody stylistId price quantity).run =
      .read fun db => commissionPaid db stylistId price quantity := by
  unfold commissionBody
  split
  · rfl
  · rename_i none
    funext db
    simp [commissionPaid, none]

theorem run_takeFromStockBody (itemType itemId : Val) (quantity : Int) :
    (takeFromStockBody itemType itemId quantity).run = takeFromStock itemType itemId quantity := by
  unfold takeFromStockBody takeFromStock
  rw [Body.run_ite, Body.run_execute]
  rfl

theorem run_addItemBody (invoiceId : Nat) (item : Val) :
    (addItemBody invoiceId item).run = addItem invoiceId item := by
  refine Body.run_bind_congr (Val.run_offsetBody _ _) fun itemType => ?_
  refine Body.run_bind_congr (Val.run_offsetBody _ _) fun itemId => ?_
  refine Body.run_bind_congr (Val.run_offsetBody _ _) fun quantity => ?_
  refine Body.run_bind_congr (Val.run_offsetBody _ _) fun price => ?_
  refine Body.run_bind_congr (run_commissionBody _ _ _) fun commission => ?_
  exact Body.run_bind_congr (Body.run_execute _) fun _ => run_takeFromStockBody _ _ _

theorem run_updateClientStatsBody (clock : Clock) (clientId : Val) (totalAmount : Rat) :
    (updateClientStatsBody clock clientId totalAmount).run =
      updateClientStats clock clientId totalAmount := by
  unfold updateClientStatsBody updateClientStats
  rw [Body.run_ite, Body.run_execute]
  rfl

theorem run_checkoutBody (clock : Clock)
    (clientId loggedById paymentMethod items appointmentId : Val) :
    (checkoutBody clock clientId loggedById paymentMethod items appointmentId).run =
      checkoutStatements clock clientId loggedById paymentMethod items appointmentId := by
  refine Body.run_bind_congr (run_addItemsBody _ _) fun totalAmount => ?_
  refine Body.run_bind_congr (Body.run_execute _) fun invoiceId => ?_
  refine Body.run_bind_congr (Body.run_forEach (run_addItemBody invoiceId) _) fun _ => ?_
  refine Body.run_bind_congr (run_updateClientStatsBody _ _ _) fun _ => ?_
  exact Body.run_bind_congr (run_postOnBody _ _ _) fun _ => rfl

theorem run_billBody (clock : Clock) (appointmentId loggedById : Val) (db : Db) :
    (billBody clock appointmentId loggedById).run db =
      match billable appointmentId.key db with
      | none => (.ok none, db)
      | some apt =>
        match billStatements clock appointmentId loggedById apt db with
        | (.ok invoiceId, after) => (.ok (some invoiceId), after)
        | (.error why, after) => (.error why, after) := by
  rw [billBody, Body.run_bind, Body.run_read, Prog.read_bind_run]
  cases billable appointmentId.key db with
  | none => rfl
  | some apt =>
    dsimp only
    rw [Body.run_bind, run_checkoutBody, Prog.bind_run, billStatements]
    rcases checkoutStatements clock (.ofId apt.clientId) loggedById (.str "cash")
      (.list [apt.item]) appointmentId db with ⟨why | invoiceId, after⟩ <;> rfl

end Invoice

theorem Expense.run_createBody (clock : Clock) (category : Val) (amount : Rat)
    (description expenseDate loggedBy : Val) :
    (createBody clock category amount description expenseDate loggedBy).run =
      createStatements clock category amount description expenseDate loggedBy := by
  refine Body.run_bind_congr (Body.run_execute _) fun expenseId => ?_
  exact Body.run_bind_congr (run_postOnBody _ _ _) fun _ => rfl

namespace User

theorem run_hashPasswordBody (php : Platform) (salt : Nat) (password : Val) :
    (hashPasswordBody php salt password).run = hashPassword php salt password := by
  unfold hashPasswordBody hashPassword
  cases password with
  | arr entries => rfl
  | _ =>
    rw [Body.run_ite]
    rfl

theorem run_addStaffRowBody (role : Val) (userId : Nat) (name specializations : Val) :
    (addStaffRowBody role userId name specializations).run =
      addStaffRow role userId name specializations := by
  unfold addStaffRowBody addStaffRow
  rw [Body.run_ite, Body.run_execute]
  rfl

theorem run_registerBody (php : Platform) (salt : Nat) (clock : Clock)
    (name username password role : Val) (commissionRate : Rat)
    (commissionType specializations : Val) :
    (registerBody php salt clock name username password role commissionRate commissionType
      specializations).run =
      registerStatements php salt clock name username password role commissionRate commissionType
        specializations := by
  refine Body.run_bind_congr rfl fun taken => ?_
  rw [Body.run_ite]
  refine if_congr Iff.rfl rfl ?_
  refine Body.run_bind_congr (run_hashPasswordBody _ _ _) fun passwordHash => ?_
  refine Body.run_bind_congr (Body.run_execute _) fun userId => ?_
  exact Body.run_bind_congr (run_addStaffRowBody _ _ _ _) fun _ => rfl

theorem run_updateStaffRowBody (userId : Int) (name specializations : Val) :
    (updateStaffRowBody userId name specializations).run =
      updateStaffRow userId name specializations := by
  refine Body.run_bind_congr rfl fun user => ?_
  cases user with
  | none => rfl
  | some user =>
    dsimp only
    rw [Body.run_ite]
    refine if_congr Iff.rfl ?_ rfl
    refine Body.run_bind_congr rfl fun entry => ?_
    rw [Body.run_ite, Body.run_execute, Body.run_execute]

theorem run_updateBody (php : Platform) (salt : Nat) (userId : Int) (name username password : Val)
    (commissionRate : Rat) (commissionType specializations : Val) :
    (updateBody php salt userId name username password commissionRate commissionType
      specializations).run =
      updateStatements php salt userId name username password commissionRate commissionType
        specializations := by
  have hash : (newHashBody php salt password).run = newHash php salt password := by
    unfold newHashBody newHash
    rw [Body.run_ite]
    refine if_congr Iff.rfl rfl ?_
    exact Body.run_bind_congr (run_hashPasswordBody _ _ _) fun _ => rfl
  refine Body.run_bind_congr hash fun passwordHash => ?_
  exact Body.run_bind_congr (Body.run_execute _) fun _ => run_updateStaffRowBody _ _ _

end User

end Specs

end Saloon.Source
