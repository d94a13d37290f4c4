import Saloon.Source.Reconciliation

/-!
# Invoices

`models/Invoice.php:6-157` (the POS checkout) and `models/Invoice.php:159-193` (the
checkout that completing an appointment makes). A checkout is one transaction: the
total by a first loop, the invoice, the lines with their commissions and stock by a
second loop, the client's totals, the drawer.
-/
namespace Saloon.Source

open Lib

/-- `$v[$k]`; on a text that is no array of anything it is a TypeError. -/
def Val.offset (v : Val) (k : String) : Sql Val :=
  match v with
  | .str _ => fatal "Cannot access offset of type string on string"
  | _ => pure (v.field k)

/-- `stock_quantity = stock_quantity - :qty`. -/
def Product.takeStock (quantity : Int) (p : Product) : Product :=
  { p with stockQuantity := p.stockQuantity - quantity }

/-- `total_spent = total_spent + :amount, last_visit = :date`. -/
def Client.spend (clock : Clock) (amount : Rat) (c : Client) : Client :=
  { c with totalSpent := c.totalSpent + amount, lastVisit := dateKey clock.today }

namespace Invoice

/-- "Calculate total amount first to save invoice". -/
def addItems (totalAmount : Rat) : List Val → Sql Rat
  | [] => pure totalAmount
  | item :: items => do
    let price ← item.offset "price"
    let quantity ← item.offset "quantity"
    addItems (totalAmount + price.floatval * quantity.intval) items

/-- INSERT INTO invoices. -/
def insert (clock : Clock) (clientId loggedById paymentMethod : Val) (totalAmount : Rat)
    (appointmentId : Val) : Sql Nat := fun db =>
  match foreignKey db.clients clientId.key, foreignKey db.users loggedById.key,
    foreignKey db.appointments appointmentId.key with
  | some client, some (some user), some appointment =>
    (.ok db.invoices.nextId,
      db.setInvoices (db.invoices.insert
        { clientId := client
          loggedBy := user
          paymentMethod := paymentMethod.strval
          paymentStatus := "paid"
          totalAmount
          appointmentId := appointment
          createdAt := clock.now }))
  | _, some none, _ => (.error (notNullFailed "invoices.logged_by"), db)
  | _, _, _ => (.error foreignKeyFailed, db)

/-- The commission profile: `users u JOIN staff s ON u.id = s.user_id WHERE s.id = :staff_id`. -/
def commissionProfile (db : Db) (staffId : SqlVal) : Option User :=
  (lookup db.staff staffId).bind fun s =>
    s.cols.userId.bind fun u => (lookup db.users (.num u)).map Row.cols

def commissionPaid (db : Db) (stylistId : Val) (price : Rat) (quantity : Int) : Rat :=
  if stylistId.truthy then
    match commissionProfile db stylistId.key with
    | some stylist =>
      if stylist.commissionType = "percentage" then
        price * quantity * (stylist.commissionRate / 100)
      else stylist.commissionRate * quantity
    | none => 0
  else 0

/-- INSERT INTO invoice_items. -/
def insertItem (invoiceId : Nat) (itemType itemId stylistId : Val) (quantity : Int)
    (price commission : Rat) : Sql Unit := fun db =>
  if itemType.key = .null then (.error (notNullFailed "invoice_items.item_type"), db)
  else if itemId.key = .null then (.error (notNullFailed "invoice_items.item_id"), db)
  else
    match foreignKey db.staff stylistId.key with
    | some stylist =>
      (.ok (),
        db.setInvoiceItems (db.invoiceItems.insert
          { invoiceId
            itemType := itemType.strval
            itemId := itemId.key
            stylistId := stylist
            quantity
            price
            commissionPaid := commission }))
    | none => (.error foreignKeyFailed, db)

/-- "Update product stock if it's a product". -/
def takeFromStock (itemType itemId : Val) (quantity : Int) : Sql Unit :=
  if itemType.is "product" then
    .update fun db =>
      db.setProducts (db.products.modify (byId itemId.key) (.takeStock quantity))
  else pure ()

/-- One turn of the second loop. -/
def addItem (invoiceId : Nat) (item : Val) : Sql Unit := do
  let itemType ← item.offset "item_type"
  let itemId ← item.offset "item_id"
  let stylistId := item.field "stylist_id"
  let quantity := Val.intval (← item.offset "quantity")
  let price := Val.floatval (← item.offset "price")
  let commission ← .read fun db => commissionPaid db stylistId price quantity
  insertItem invoiceId itemType itemId stylistId quantity price commission
  takeFromStock itemType itemId quantity

/-- "Update Client Stats if client_id is set". -/
def updateClientStats (clock : Clock) (clientId : Val) (totalAmount : Rat) : Sql Unit :=
  if clientId.truthy then
    .update fun db =>
      db.setClients (db.clients.modify (byId clientId.key) (.spend clock totalAmount))
  else pure ()

def checkoutStatements (clock : Clock) (clientId loggedById paymentMethod items appointmentId : Val) :
    Sql Nat := do
  let totalAmount ← addItems 0 items.elems
  let invoiceId ← insert clock clientId loggedById paymentMethod totalAmount appointmentId
  Prog.forEach (addItem invoiceId) items.elems
  updateClientStats clock clientId totalAmount
  postToDrawer clock paymentMethod totalAmount
  pure invoiceId

def createCheckout (clock : Clock) (clientId loggedById paymentMethod items appointmentId : Val) :
    Php Nat :=
  transaction (checkoutStatements clock clientId loggedById paymentMethod items appointmentId)

/-- `SELECT id FROM invoices WHERE appointment_id = :appointment_id`, fetched. -/
def isInvoiced (appointmentId : SqlVal) (db : Db) : Bool :=
  db.invoices.rows.any fun r =>
    match r.cols.appointmentId with
    | some a => SqlVal.num a = appointmentId
    | none => false

/-- A row of `appointments a JOIN services s ON a.service_id = s.id`. -/
structure Billable where
  clientId : Option Nat
  staffId : Option Nat
  serviceId : Option Nat
  price : Rat

def billable (appointmentId : SqlVal) (db : Db) : Option Billable :=
  (lookup db.appointments appointmentId).bind fun a =>
    a.cols.serviceId.bind fun service =>
      (lookup db.services (.num service)).map fun s =>
        ⟨a.cols.clientId, a.cols.staffId, a.cols.serviceId, s.cols.price⟩

/-- The one line of an appointment's invoice. -/
def Billable.item (apt : Billable) : Val :=
  .arr [("item_type", .str "service"), ("item_id", .ofId apt.serviceId),
    ("stylist_id", .ofId apt.staffId), ("quantity", .int 1), ("price", .float apt.price)]

/-- The checkout an appointment is billed by; the payment method is cash. -/
def billStatements (clock : Clock) (appointmentId loggedById : Val) (apt : Billable) : Sql Nat :=
  checkoutStatements clock (.ofId apt.clientId) loggedById (.str "cash") (.list [apt.item])
    appointmentId

def billAppointment (clock : Clock) (appointmentId loggedById : Val) (apt : Billable) : Php Nat :=
  createCheckout clock (.ofId apt.clientId) loggedById (.str "cash") (.list [apt.item])
    appointmentId

def createFromCompletedAppointment (clock : Clock) (appointmentId loggedById : Val) : Php Unit := do
  let already ← exec (.read (isInvoiced appointmentId.key))
  if already then pure ()
  else do
    let apt ← exec (.read (billable appointmentId.key))
    match apt with
    | none => pure ()
    | some apt => do
      let _ ← billAppointment clock appointmentId loggedById apt
      pure ()

end Invoice

/-- What a checkout that went through posted to the books. -/
structure Sale where
  clientId : Option Nat
  loggedBy : Nat
  paymentMethod : Val
  total : Rat
  appointmentId : Option Nat
  lines : List InvoiceItem

namespace Sale

def invoice (clock : Clock) (sale : Sale) : Invoice where
  clientId := sale.clientId
  loggedBy := sale.loggedBy
  paymentMethod := sale.paymentMethod.strval
  paymentStatus := "paid"
  totalAmount := sale.total
  appointmentId := sale.appointmentId
  createdAt := clock.now

def takeLine (t : Table Product) (line : InvoiceItem) : Table Product :=
  if line.itemType = "product" then
    t.modify (byId line.itemId) (.takeStock line.quantity)
  else t

def credit (clock : Clock) (client : Option Nat) (amount : Rat) (t : Table Client) :
    Table Client :=
  match client with
  | none => t
  | some c => t.modify (byId (.num c)) (.spend clock amount)

/-- The database after the sale, given the drawers after it. -/
def post (clock : Clock) (sale : Sale) (drawers : Table CashReconciliation) (db : Db) : Db :=
  { db with
    invoices := db.invoices.insert (sale.invoice clock)
    invoiceItems := sale.lines.foldl Table.insert db.invoiceItems
    products := sale.lines.foldl takeLine db.products
    clients := credit clock sale.clientId sale.total db.clients
    cashReconciliation := drawers }

end Sale

namespace Invoice

section Specs

def itemAmount (item : Val) : Rat :=
  (item.field "price").floatval * (item.field "quantity").intval

def total (items : List Val) : Rat := (items.map itemAmount).sum

/-- The line that an item of the cart becomes. -/
def lineOf (db : Db) (invoiceId : Nat) (item : Val) (stylist : Option Nat) : InvoiceItem where
  invoiceId := invoiceId
  itemType := (item.field "item_type").strval
  itemId := (item.field "item_id").key
  stylistId := stylist
  quantity := (item.field "quantity").intval
  price := (item.field "price").floatval
  commissionPaid := commissionPaid db (item.field "stylist_id") (item.field "price").floatval
    (item.field "quantity").intval

/-- `line` is what `item` becomes, and the columns accept it. -/
def Sold (db : Db) (invoiceId : Nat) (item : Val) (line : InvoiceItem) : Prop :=
  (item.field "item_type").key ≠ .null ∧ (item.field "item_id").key ≠ .null ∧
    ∃ stylist, foreignKey db.staff (item.field "stylist_id").key = some stylist ∧
      line = lineOf db invoiceId item stylist

/-- An item that no check of the checkout refuses. -/
def Sellable (db : Db) (item : Val) : Prop :=
  (∀ s, item ≠ .str s) ∧ (item.field "item_type").key ≠ .null ∧
    (item.field "item_id").key ≠ .null ∧
    ∃ stylist, foreignKey db.staff (item.field "stylist_id").key = some stylist

/-- The references of a checkout exist and its items are sellable. -/
structure Payable (db : Db) (clientId loggedById items appointmentId : Val) : Prop where
  client : ∃ client, foreignKey db.clients clientId.key = some client
  user : ∃ user, foreignKey db.users loggedById.key = some (some user)
  appointment : ∃ appointment, foreignKey db.appointments appointmentId.key = some appointment
  items : ∀ item ∈ items.elems, Sellable db item

/-- How a sale follows from the arguments of its checkout. -/
structure Charged (clock : Clock) (db : Db)
    (clientId loggedById paymentMethod items appointmentId : Val) (sale : Sale)
    (drawers : Table CashReconciliation) : Prop where
  client : foreignKey db.clients clientId.key = some sale.clientId
  user : foreignKey db.users loggedById.key = some (some sale.loggedBy)
  appointment : foreignKey db.appointments appointmentId.key = some sale.appointmentId
  method : sale.paymentMethod = paymentMethod
  total : sale.total = total items.elems
  lines : List.Forall₂ (Sold db db.invoices.nextId) items.elems sale.lines
  drawer : PostedOn (dateKey clock.today) (saleUpdate paymentMethod sale.total)
    (saleOpening (dateKey clock.today) paymentMethod sale.total) db.cashReconciliation drawers

theorem offset_eq_ok {v w : Val} {k : String} {db after : Db}
    (success : v.offset k db = (.ok w, after)) : w = v.field k ∧ db = after := by
  cases v <;> cases success <;> exact ⟨rfl, rfl⟩

theorem offset_run {v : Val} (noText : ∀ s, v ≠ .str s) (k : String) (db : Db) :
    v.offset k db = (.ok (v.field k), db) := by
  cases v with
  | str s => exact absurd rfl (noText s)
  | _ => rfl

theorem addItems_eq_ok {items : List Val} {start sum : Rat} {db after : Db}
    (success : addItems start items db = (.ok sum, after)) :
    sum = start + total items ∧ db = after := by
  induction items generalizing start with
  | nil =>
    cases success
    simp [total]
  | cons item items ih =>
    obtain ⟨price, _, first, rest⟩ := Prog.bind_eq_ok.mp success
    obtain ⟨rfl, rfl⟩ := offset_eq_ok first
    obtain ⟨quantity, _, second, loop⟩ := Prog.bind_eq_ok.mp rest
    obtain ⟨rfl, rfl⟩ := offset_eq_ok second
    obtain ⟨rfl, rfl⟩ := ih loop
    simp [total, itemAmount, add_assoc]

theorem addItems_run {items : List Val} (noText : ∀ item ∈ items, ∀ s, item ≠ .str s)
    (start : Rat) (db : Db) : addItems start items db = (.ok (start + total items), db) := by
  induction items generalizing start with
  | nil => simp [addItems, total]
  | cons item items ih =>
    have here := noText item (by simp)
    rw [addItems, Prog.bind_of_ok (offset_run here _ db), Prog.bind_of_ok (offset_run here _ db),
      ih fun other member => noText other (by simp [member])]
    simp [total, itemAmount, add_assoc]

theorem insert_eq_ok {clock : Clock} {clientId loggedById paymentMethod appointmentId : Val}
    {totalAmount : Rat} {invoiceId : Nat} {db after : Db}
    (success : insert clock clientId loggedById paymentMethod totalAmount appointmentId db =
      (.ok invoiceId, after)) :
    ∃ client user appointment, foreignKey db.clients clientId.key = some client ∧
      foreignKey db.users loggedById.key = some (some user) ∧
      foreignKey db.appointments appointmentId.key = some appointment ∧
      invoiceId = db.invoices.nextId ∧
      after = db.setInvoices (db.invoices.insert
        ⟨client, user, paymentMethod.strval, "paid", totalAmount, appointment, clock.now⟩) := by
  unfold insert at success
  split at success
  · rename_i client user appointment hClient hUser hAppointment
    cases success
    exact ⟨client, user, appointment, hClient, hUser, hAppointment, rfl, rfl⟩
  · cases success
  · cases success

theorem insertItem_eq_ok {invoiceId : Nat} {itemType itemId stylistId : Val} {quantity : Int}
    {price commission : Rat} {db after : Db}
    (success : insertItem invoiceId itemType itemId stylistId quantity price commission db =
      (.ok (), after)) :
    itemType.key ≠ .null ∧ itemId.key ≠ .null ∧
      ∃ stylist, foreignKey db.staff stylistId.key = some stylist ∧
        after = db.setInvoiceItems (db.invoiceItems.insert
          ⟨invoiceId, itemType.strval, itemId.key, stylist, quantity, price, commission⟩) := by
  unfold insertItem at success
  split at success
  · cases success
  · split at success
    · cases success
    · rename_i hType hId
      split at success
      · rename_i stylist hStylist
        cases success
        exact ⟨hType, hId, stylist, hStylist, rfl⟩
      · cases success

theorem takeFromStock_run (itemType itemId : Val) (quantity : Int) (db : Db) :
    takeFromStock itemType itemId quantity db =
      (.ok (),
        if itemType.is "product" then
          db.setProducts (db.products.modify (byId itemId.key) (.takeStock quantity))
        else db) := by
  unfold takeFromStock
  split <;> rfl

/-- The two tables that a line is posted to. -/
def postLine (db : Db) (line : InvoiceItem) : Db :=
  (db.setInvoiceItems (db.invoiceItems.insert line)).setProducts (Sale.takeLine db.products line)

/-- A turn of the second loop posts the line its item becomes. -/
theorem addItem_eq_ok {invoiceId : Nat} {item : Val} {db after : Db}
    (success : addItem invoiceId item db = (.ok (), after)) :
    ∃ line, Sold db invoiceId item line ∧ after = postLine db line := by
  obtain ⟨itemType, _, readType, afterType⟩ := Prog.bind_eq_ok.mp success
  obtain ⟨rfl, rfl⟩ := offset_eq_ok readType
  obtain ⟨itemId, _, readId, afterId⟩ := Prog.bind_eq_ok.mp afterType
  obtain ⟨rfl, rfl⟩ := offset_eq_ok readId
  obtain ⟨quantity, _, readQuantity, afterQuantity⟩ := Prog.bind_eq_ok.mp afterId
  obtain ⟨rfl, rfl⟩ := offset_eq_ok readQuantity
  obtain ⟨price, _, readPrice, afterPrice⟩ := Prog.bind_eq_ok.mp afterQuantity
  obtain ⟨rfl, rfl⟩ := offset_eq_ok readPrice
  rw [Prog.read_bind_run] at afterPrice
  obtain ⟨_, mid, insertion, stock⟩ := Prog.bind_eq_ok.mp afterPrice
  obtain ⟨hType, hId, stylist, hStylist, posted⟩ := insertItem_eq_ok insertion
  refine ⟨lineOf db invoiceId item stylist, ⟨hType, hId, stylist, hStylist, rfl⟩, ?_⟩
  rw [takeFromStock_run] at stock
  have result := congrArg Prod.snd stock
  have product : (item.field "item_type").is "product" = true ↔
      (item.field "item_type").strval = "product" := is_iff_strval (by decide) (by decide)
  by_cases isProduct : (item.field "item_type").is "product" = true
  · have named := product.mp isProduct
    simp only [isProduct, if_true] at result
    simp only [postLine, Sale.takeLine, lineOf, named, if_true, ← result, posted]
    rfl
  · have unnamed : (item.field "item_type").strval ≠ "product" := fun same =>
      isProduct (product.mpr same)
    simp only [isProduct] at result
    simp only [postLine, Sale.takeLine, lineOf, unnamed, if_false, ← result, posted]
    rfl

theorem foldl_postLine (lines : List InvoiceItem) (db : Db) :
    lines.foldl postLine db =
      (db.setInvoiceItems (lines.foldl Table.insert db.invoiceItems)).setProducts
        (lines.foldl Sale.takeLine db.products) := by
  induction lines generalizing db with
  | nil => rfl
  | cons line lines ih =>
    rw [List.foldl_cons, ih]
    rfl

/-- The second loop, when it ends, posted the lines of its items one by one. -/
theorem addItems_posted {invoiceId : Nat} {items : List Val} {db after : Db}
    (success : Prog.forEach (addItem invoiceId) items db = (.ok (), after)) :
    ∃ lines, List.Forall₂ (Sold db invoiceId) items lines ∧
      after = (db.setInvoiceItems (lines.foldl Table.insert db.invoiceItems)).setProducts
        (lines.foldl Sale.takeLine db.products) := by
  -- every turn sees the staff and users that the loop began with
  obtain ⟨lines, each, whole⟩ := Prog.forEach_eq_ok (addItem invoiceId)
    (fun d => d.staff = db.staff ∧ d.users = db.users) (Sold db invoiceId) postLine
    (by
      rintro item d u ⟨staff, users⟩ turn
      obtain ⟨line, ⟨hType, hId, stylist, hStylist, rfl⟩, rfl⟩ := addItem_eq_ok turn
      refine ⟨_, ⟨hType, hId, stylist, staff ▸ hStylist, ?_⟩, rfl, staff, users⟩
      simp only [lineOf, commissionPaid, commissionProfile, staff, users])
    items db after ⟨rfl, rfl⟩ success
  exact ⟨lines, each, by rw [whole, foldl_postLine]⟩

theorem updateClientStats_run {clientId : Val} {client : Option Nat} {t : Table Client}
    (found : foreignKey t clientId.key = some client) (clock : Clock) (totalAmount : Rat) (db : Db) :
    updateClientStats clock clientId totalAmount db =
      (.ok (), db.setClients (Sale.credit clock client totalAmount db.clients)) := by
  unfold updateClientStats
  cases client with
  | none =>
    have : clientId = .null := key_eq_null.mp (foreignKey_eq_none_id.mp found)
    subst this
    rfl
  | some c =>
    obtain ⟨key, r, member, rfl⟩ := foreignKey_eq_some.mp found
    rw [if_pos (truthy_of_key (t.ids_range r member).1 key), key]
    rfl

/-- A checkout that went through is a sale, and the database has just that posted. -/
theorem checkoutStatements_eq_ok {clock : Clock}
    {clientId loggedById paymentMethod items appointmentId : Val} {invoiceId : Nat} {db after : Db}
    (success : checkoutStatements clock clientId loggedById paymentMethod items appointmentId db =
      (.ok invoiceId, after)) :
    ∃ sale drawers, invoiceId = db.invoices.nextId ∧
      Charged clock db clientId loggedById paymentMethod items appointmentId sale drawers ∧
      after = sale.post clock drawers db := by
  obtain ⟨sum, _, totals, afterTotals⟩ := Prog.bind_eq_ok.mp success
  obtain ⟨rfl, rfl⟩ := addItems_eq_ok totals
  obtain ⟨newId, invoiced, inserted, afterInsert⟩ := Prog.bind_eq_ok.mp afterTotals
  obtain ⟨client, user, appointment, hClient, hUser, hAppointment, rfl, hInvoiced⟩ :=
    insert_eq_ok inserted
  obtain ⟨_, sold, loop, afterLoop⟩ := Prog.bind_eq_ok.mp afterInsert
  obtain ⟨lines, each, hSold⟩ := addItems_posted loop
  rw [Prog.bind_of_ok (updateClientStats_run hClient _ _ _)] at afterLoop
  obtain ⟨_, final, posted, returned⟩ := Prog.bind_eq_ok.mp afterLoop
  obtain ⟨drawers, hDrawers, hFinal⟩ := postOn_eq_ok (saleOpening_date _ _ _) posted
  have last : final = after := congrArg Prod.snd returned
  have newInvoice : db.invoices.nextId = invoiceId := by simpa using congrArg Prod.fst returned
  refine ⟨⟨client, user, paymentMethod, total items.elems, appointment, lines⟩, drawers,
    newInvoice.symm, ⟨hClient, hUser, hAppointment, rfl, rfl, ?_, ?_⟩, ?_⟩
  · rw [hInvoiced] at each
    exact each
  · rw [hSold, hInvoiced] at hDrawers
    simpa using hDrawers
  · rw [← last, hFinal, hSold, hInvoiced]
    ext1 <;> simp [Sale.post, Sale.invoice]

theorem addItem_accepts {item : Val} {db : Db} (sellable : Sellable db item) (invoiceId : Nat) :
    ∃ line, addItem invoiceId item db = (.ok (), postLine db line) := by
  obtain ⟨noText, hType, hId, stylist, hStylist⟩ := sellable
  have insertion : ∀ quantity price commission,
      insertItem invoiceId (item.field "item_type") (item.field "item_id")
        (item.field "stylist_id") quantity price commission db =
      (.ok (), db.setInvoiceItems (db.invoiceItems.insert
        ⟨invoiceId, (item.field "item_type").strval, (item.field "item_id").key, stylist,
          quantity, price, commission⟩)) := by
    intro quantity price commission
    simp only [insertItem, if_neg hType, if_neg hId, hStylist]
  have ends : ∃ after, addItem invoiceId item db = (.ok (), after) := by
    rw [addItem, Prog.bind_of_ok (offset_run noText _ db), Prog.bind_of_ok (offset_run noText _ db),
      Prog.bind_of_ok (offset_run noText _ db), Prog.bind_of_ok (offset_run noText _ db),
      Prog.read_bind_run, Prog.bind_of_ok (insertion _ _ _), takeFromStock_run]
    exact ⟨_, rfl⟩
  obtain ⟨after, success⟩ := ends
  obtain ⟨line, -, posted⟩ := addItem_eq_ok success
  exact ⟨line, posted ▸ success⟩

/-- What a checkout that went through needed. -/
theorem Charged.payable {clock : Clock} {db : Db}
    {clientId loggedById paymentMethod items appointmentId : Val} {sale : Sale}
    {drawers : Table CashReconciliation}
    (charged : Charged clock db clientId loggedById paymentMethod items appointmentId sale drawers) :
    Payable db clientId loggedById items appointmentId where
  client := ⟨_, charged.client⟩
  user := ⟨_, charged.user⟩
  appointment := ⟨_, charged.appointment⟩
  items := by
    have each : List.Forall₂
        (fun item line => Sellable db item ∧ Sold db db.invoices.nextId item line)
        items.elems sale.lines := by
      refine charged.lines.imp fun item line sold => ⟨?_, sold⟩
      obtain ⟨hType, hId, stylist, hStylist, -⟩ := sold
      refine ⟨?_, hType, hId, stylist, hStylist⟩
      rintro text rfl
      exact hType rfl
    exact ((List.forall₂_and_left _ _).mp each).1

/-- The invoice of a bill carries its appointment. -/
theorem Charged.appointment_eq {clock : Clock} {db : Db}
    {clientId loggedById paymentMethod items appointmentId : Val} {sale : Sale}
    {drawers : Table CashReconciliation} {id : Nat}
    (charged : Charged clock db clientId loggedById paymentMethod items appointmentId sale drawers)
    (key : appointmentId.key = .num id) : sale.appointmentId = some id := by
  obtain ⟨r, -, same⟩ := exists_of_foreignKey charged.appointment (by simp [key])
  have keyed := (foreignKey_eq_some.mp (same ▸ charged.appointment)).1
  rw [key] at keyed
  rw [same, Option.some.injEq]
  simpa using keyed.symm

theorem Charged.appointment_none {clock : Clock} {db : Db}
    {clientId loggedById paymentMethod items appointmentId : Val} {sale : Sale}
    {drawers : Table CashReconciliation}
    (charged : Charged clock db clientId loggedById paymentMethod items appointmentId sale drawers)
    (key : appointmentId.key = .null) : sale.appointmentId = none := by
  have found := charged.appointment
  rw [key, foreignKey_eq_none_id.mpr rfl] at found
  exact (Option.some.inj found).symm

theorem isInvoiced_iff {id : Nat} {db : Db} :
    isInvoiced (.num id) db = true ↔
      ∃ i ∈ db.invoices.rows, i.cols.appointmentId = some id := by
  simp only [isInvoiced, List.any_eq_true]
  constructor
  · rintro ⟨i, member, same⟩
    refine ⟨i, member, ?_⟩
    split at same
    · rename_i a present
      rw [present, Option.some.injEq]
      simpa using same
    · cases same
  · rintro ⟨i, member, same⟩
    exact ⟨i, member, by simp [same]⟩

/-- A checkout goes through when it is payable and today's drawer is not closed. -/
theorem checkoutStatements_accepts {clock : Clock}
    {clientId loggedById items appointmentId : Val} {db : Db}
    (payable : Payable db clientId loggedById items appointmentId)
    (accepting : Accepting (dateKey clock.today) db.cashReconciliation) (paymentMethod : Val) :
    ∃ invoiceId after,
      checkoutStatements clock clientId loggedById paymentMethod items appointmentId db =
        (.ok invoiceId, after) := by
  obtain ⟨⟨client, hClient⟩, ⟨user, hUser⟩, ⟨appointment, hAppointment⟩, sellable⟩ := payable
  have inserted : ∃ invoiced, insert clock clientId loggedById paymentMethod (0 + total items.elems)
      appointmentId db = (.ok db.invoices.nextId, invoiced) ∧
      invoiced.staff = db.staff ∧ invoiced.cashReconciliation = db.cashReconciliation := by
    simp only [insert, hClient, hUser, hAppointment]
    exact ⟨_, rfl, rfl, rfl⟩
  obtain ⟨invoiced, insertion, staff, drawers⟩ := inserted
  -- no line changes what makes the items sellable, or the drawers
  obtain ⟨sold, loop, -, soldDrawers⟩ := Prog.forEach_ends (addItem db.invoices.nextId)
    (fun d => d.staff = db.staff ∧ d.cashReconciliation = db.cashReconciliation) items.elems
    (by
      rintro item member d ⟨hStaff, hDrawers⟩
      obtain ⟨noText, hType, hId, stylist, hStylist⟩ := sellable item member
      obtain ⟨line, turn⟩ := addItem_accepts
        ⟨noText, hType, hId, stylist, hStaff ▸ hStylist⟩ db.invoices.nextId
      exact ⟨_, turn, hStaff, hDrawers⟩)
    invoiced ⟨staff, drawers⟩
  have posting : ∃ after, postToDrawer clock paymentMethod (0 + total items.elems)
      (sold.setClients (Sale.credit clock client (0 + total items.elems) sold.clients)) =
        (.ok (), after) :=
    postOn_accepts (saleOpening_date _ _ _) (by simpa [soldDrawers] using accepting)
  obtain ⟨after, posted⟩ := posting
  refine ⟨db.invoices.nextId, after, ?_⟩
  rw [checkoutStatements,
    Prog.bind_of_ok (addItems_run (fun item member => (sellable item member).1) 0 db),
    Prog.bind_of_ok insertion, Prog.bind_of_ok loop,
    Prog.bind_of_ok (updateClientStats_run hClient _ _ _), Prog.bind_of_ok posted]
  rfl

end Specs

end Invoice

end Saloon.Source
