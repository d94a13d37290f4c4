import Saloon.Guarantees.Billing

/-!
# Invoices and client ledgers

What a request does to the invoices, their lines, the clients and the products,
and the balances over runs: an invoice's total is the sum over its lines, and a
client's spending and last visit follow from the client's invoices.
-/
namespace Saloon.Guarantees

open Lib Source

/-- What a line adds to its invoice. -/
def lineAmount (line : InvoiceItem) : Rat := line.price * line.quantity

/-- A sale whose total and references are right. -/
structure SaleSound (db : Db) (sale : Sale) : Prop where
  client : ∀ c, sale.clientId = some c → ∃ r ∈ db.clients.rows, r.id = c
  total : sale.total = (sale.lines.map lineAmount).sum
  invoice : ∀ line ∈ sale.lines, line.invoiceId = db.invoices.nextId
  stylist : ∀ line ∈ sale.lines, ∀ s, line.stylistId = some s → ∃ r ∈ db.staff.rows, r.id = s
  uncredited : ∀ line ∈ sale.lines, line.stylistId = none → line.commissionPaid = 0

/-- Where a sale comes from: the desk, or the completion of an appointment. -/
inductive SaleSource (php : Platform) (e : Event) (db after : Db) (sale : Sale) : Prop
  | checkout (asked : Asks e "checkout" ["POST"]) (accepted : Accepted php e db)
      (unbound : sale.appointmentId = none) (appointments : after.appointments = db.appointments)
  | completion {payload : Val} (a : Row Appointment) (member : a ∈ db.appointments.rows)
      (asked : Asks e "appointments_update" ["POST", "PUT"])
      (completed : (statusOf e).is "completed" = true) (key : (arg e "id").key = .num a.id)
      (bound : sale.appointmentId = some a.id)
      (services : ∀ line ∈ sale.lines, line.itemType ≠ "product")
      (appointments : after.appointments = db.appointments.modify (byId (arg e "id").key)
        (Appointment.setStatus (statusOf e).strval))
      (stylists : ∀ line ∈ sale.lines, line.stylistId = a.cols.staffId)
      (uninvoiced : Invoice.isInvoiced (.num a.id) db = false)
      (checked : Passes php e [.admin, .receptionist, .stylist] payload)
      (payment : Payment e.clock (payload.field "id") db)

/-- The five things a request can do to the books. -/
inductive BooksChange (php : Platform) (e : Event) (db after : Db) : Prop
  | same (invoices : after.invoices = db.invoices) (items : after.invoiceItems = db.invoiceItems)
      (clients : after.clients = db.clients) (products : after.products = db.products)
  | client (c : Client) (unspent : c.totalSpent = 0)
      (invoices : after.invoices = db.invoices) (items : after.invoiceItems = db.invoiceItems)
      (clients : after.clients = db.clients.insert c) (products : after.products = db.products)
  | product (asked : Asks e "inventory" ["POST"]) (p : Product)
      (stocked : p.stockQuantity = (argOr e "stock_quantity" (.float 0)).floatval)
      (invoices : after.invoices = db.invoices) (items : after.invoiceItems = db.invoiceItems)
      (clients : after.clients = db.clients) (products : after.products = db.products.insert p)
  | stock {payload : Val} (asked : Asks e "inventory_stock" ["POST"])
      (checked : Passes php e [.admin, .receptionist] payload)
      (invoices : after.invoices = db.invoices) (items : after.invoiceItems = db.invoiceItems)
      (clients : after.clients = db.clients)
      (products : after.products =
        db.products.modify (byId (arg e "id").key) (.addStock (quantityOf e)))
  | sale (sale : Sale) (sound : SaleSound db sale) (source : SaleSource php e db after sale)
      (invoices : after.invoices = db.invoices.insert (sale.invoice e.clock))
      (items : after.invoiceItems = sale.lines.foldl Table.insert db.invoiceItems)
      (clients : after.clients = Sale.credit e.clock sale.clientId sale.total db.clients)
      (products : after.products = sale.lines.foldl Sale.takeLine db.products)

section Cases

variable {php : Platform} {e : Event} {user : Option Val} {db after : Db}

theorem BooksChange.refl (php : Platform) (e : Event) (db : Db) : BooksChange php e db db :=
  .same rfl rfl rfl rfl

theorem exists_item_of_sold {invoiceId : Nat} {items : List Val} {lines : List InvoiceItem}
    (sold : List.Forall₂ (Invoice.Sold db invoiceId) items lines) :
    ∀ line ∈ lines, ∃ item ∈ items, Invoice.Sold db invoiceId item line := by
  induction sold with
  | nil => simp
  | cons one rest ih =>
    intro line member
    rcases List.mem_cons.mp member with rfl | later
    · exact ⟨_, by simp, one⟩
    · obtain ⟨item, present, sold⟩ := ih line later
      exact ⟨item, List.mem_cons_of_mem _ present, sold⟩

theorem total_of_sold {invoiceId : Nat} {items : List Val} {lines : List InvoiceItem}
    (sold : List.Forall₂ (Invoice.Sold db invoiceId) items lines) :
    Invoice.total items = (lines.map lineAmount).sum := by
  induction sold with
  | nil => rfl
  | cons one rest ih =>
    obtain ⟨-, -, stylist, -, rfl⟩ := one
    rw [Invoice.total] at ih ⊢
    rw [List.map_cons, List.sum_cons, ih, List.map_cons, List.sum_cons]
    rfl

/-- Without a stylist there is no commission. -/
theorem commissionPaid_eq_zero {v : Val} {price : Rat} {quantity : Int}
    (none : foreignKey db.staff v.key = some none) :
    Invoice.commissionPaid db v price quantity = 0 := by
  obtain rfl := key_eq_null.mp (foreignKey_eq_none_id.mp none)
  rfl

theorem sound_of_charged {clock : Clock} {clientId loggedById paymentMethod items appointmentId : Val}
    {sale : Sale} {drawers : Table CashReconciliation}
    (charged : Invoice.Charged clock db clientId loggedById paymentMethod items appointmentId sale
      drawers) : SaleSound db sale where
  client c named := by
    obtain ⟨-, r, member, same⟩ := foreignKey_eq_some.mp (named ▸ charged.client)
    exact ⟨r, member, same⟩
  total := charged.total.trans (total_of_sold charged.lines)
  invoice line member := by
    obtain ⟨item, -, -, -, stylist, -, rfl⟩ := exists_item_of_sold charged.lines line member
    rfl
  stylist line member s named := by
    obtain ⟨item, -, -, -, stylist, found, rfl⟩ := exists_item_of_sold charged.lines line member
    obtain ⟨-, r, rMember, same⟩ := foreignKey_eq_some.mp
      (found.trans (congrArg some (show stylist = some s from named)))
    exact ⟨r, rMember, same⟩
  uncredited line member none := by
    obtain ⟨item, -, -, -, stylist, found, rfl⟩ := exists_item_of_sold charged.lines line member
    exact commissionPaid_eq_zero (found.trans (congrArg some none))

/-- The status of an appointment is no concern of a sale. -/
theorem SaleSound.of_mark {id status : Val} {staffId : Nat} {sale : Sale}
    (sound : SaleSound (Appointment.mark id status staffId db) sale) : SaleSound db sale where
  client := sound.client
  total := sound.total
  invoice := sound.invoice
  stylist line member s named := by
    obtain ⟨r, rMember, same⟩ := sound.stylist line member s named
    obtain ⟨old, oldMember, rfl⟩ := Table.mem_modify.mp rMember
    refine ⟨old, oldMember, ?_⟩
    split at same <;> exact same
  uncredited := sound.uncredited

/-- A client that a booking adds has spent nothing. -/
theorem client_books {clientId : Nat} (client : clientOf e db = (.ok clientId, after)) :
    after = db ∨ ∃ c, c.totalSpent = 0 ∧ after = db.setClients (db.clients.insert c) := by
  rcases Client.findOrCreate_run e.clock (argOr e "client_name" (.str ""))
    (argOr e "client_email" (.str "")) (argOr e "client_phone" (.str "")) db with
    ⟨r, -, -, outcome⟩ | ⟨-, outcome⟩
  · exact .inl (congrArg Prod.snd (client.symm.trans outcome))
  · exact .inr ⟨_, rfl, congrArg Prod.snd (client.symm.trans outcome)⟩

/-- The one line of an appointment's bill is its staff member's. -/
theorem stylists_of_billed {id status : Val} {staffId invoiceId : Nat} {a : Row Appointment}
    {apt : Invoice.Billable} {lines : List InvoiceItem} (member : a ∈ db.appointments.rows)
    (key : id.key = .num a.id)
    (bill : Invoice.billable id.key (Appointment.mark id status staffId db) = some apt)
    (sold : List.Forall₂ (Invoice.Sold (Appointment.mark id status staffId db) invoiceId)
      (Val.list [apt.item]).elems lines) :
    ∀ line ∈ lines, line.stylistId = a.cols.staffId := by
  have staff : apt.staffId = a.cols.staffId := by
    rw [Appointment.billable_mark, Invoice.billable, lookup_eq_some.mpr ⟨member, key⟩,
      Option.bind_some] at bill
    obtain ⟨service, -, priced⟩ := Option.bind_eq_some_iff.mp bill
    obtain ⟨s, -, rfl⟩ := Option.map_eq_some_iff.mp priced
    rfl
  intro line present
  obtain ⟨item, itemMember, -, -, stylist, found, rfl⟩ := exists_item_of_sold sold line present
  rw [show (Val.list [apt.item]).elems = [apt.item] from rfl, List.mem_singleton] at itemMember
  subst itemMember
  exact (eq_of_foreignKey_ofId found).trans staff

theorem Served.books_cases (served : Served php e user db after) : BooksChange php e db after := by
  cases served with
  | nothing => exact .refl php e db
  | register allowed known done asked =>
    obtain ⟨users, staff, rfl⟩ := User.registerStatements_frame done
    exact .same rfl rfl rfl rfl
  | updateStaff allowed done asked =>
    obtain ⟨users, staff, rfl⟩ := User.updateStatements_frame done
    exact .same rfl rfl rfl rfl
  | availability passed allowed known asked checked => exact .same rfl rfl rfl rfl
  | addClient allowed asked => exact .client _ rfl rfl rfl rfl rfl
  | clientOnly asked client =>
    rcases client_books client with rfl | ⟨c, unspent, rfl⟩
    · exact .refl php e after
    · exact .client c unspent rfl rfl rfl rfl
  | book asked named client done =>
    obtain ⟨a, -, rfl⟩ := Appointment.createStatements_eq_ok done
    rcases client_books client with rfl | ⟨c, unspent, rfl⟩
    · exact .same rfl rfl rfl rfl
    · exact .client c unspent rfl rfl rfl rfl
  | mark asked checked passed allowed known found unbilled => exact .same rfl rfl rfl rfl
  | complete asked checked passed allowed completed found pending billed =>
    have payment := payment_mark.mp (payment_of_billed billed)
    obtain ⟨sale, drawers, -, charged, rfl⟩ := Invoice.checkoutStatements_eq_ok billed
    obtain ⟨a, member, key, -⟩ := Appointment.appointment_of_assigned found
    have uninvoiced := (Appointment.toBill_eq_some.mp pending).1
    rw [key] at uninvoiced
    exact .sale sale (sound_of_charged charged).of_mark
      (.completion a member asked completed key (charged.appointment_eq key)
        (services_of_billed charged.lines) rfl
        (stylists_of_billed member key (Appointment.toBill_eq_some.mp pending).2 charged.lines)
        uninvoiced checked payment) rfl rfl rfl rfl
  | addService allowed duration nonneg => exact .same rfl rfl rfl rfl
  | updateService allowed duration nonneg => exact .same rfl rfl rfl rfl
  | addProduct allowed asked => exact .product asked _ rfl rfl rfl rfl rfl
  | updateStock allowed asked checked named => exact .stock asked checked rfl rfl rfl rfl
  | checkout asked checked passed allowed method items done =>
    obtain ⟨sale, drawers, -, charged, rfl⟩ := Invoice.checkoutStatements_eq_ok done
    exact .sale sale (sound_of_charged charged)
      (.checkout asked (accepted_of_charged asked checked method items charged)
        (charged.appointment_none rfl) rfl) rfl rfl rfl rfl
  | expense asked passed allowed positive done =>
    obtain ⟨loggedBy, drawers, -, -, rfl⟩ := Expense.createStatements_eq_ok done
    exact .same rfl rfl rfl rfl
  | viewDrawer allowed =>
    obtain ⟨drawers, viewed⟩ := Reconciliation.getTodayStatus_frame e.clock db
    rw [viewed]
    exact .same rfl rfl rfl rfl
  | closeDrawer passed allowed =>
    obtain ⟨drawers, closed⟩ := Reconciliation.closeDrawer_frame e.clock _ _ _ db
    rw [closeOf, closed]
    exact .same rfl rfl rfl rfl

end Cases

section Balances

/-- What a client had spent at the start; one who is added later has spent nothing then. -/
def initialSpent (initial : Table Client) (clientId : Nat) : Rat :=
  match lookup initial (.num clientId) with
  | some r => r.cols.totalSpent
  | none => 0

/-- The sum over the lines of an invoice. -/
def itemsTotal (items : Table InvoiceItem) (invoiceId : Nat) : Rat :=
  items.sumOver (fun r => r.cols.invoiceId = invoiceId) fun r => lineAmount r.cols

/-- The sum over the invoices of a client. -/
def billedTo (invoices : Table Invoice) (clientId : Nat) : Rat :=
  invoices.sumOver (fun r => r.cols.clientId = some clientId) fun r => r.cols.totalAmount

/-- A client's most recently committed invoice. -/
def lastInvoice (invoices : Table Invoice) (clientId : Nat) : Option (Row Invoice) :=
  (invoices.rows.filter fun r => r.cols.clientId = some clientId).getLast?

/-- The books balance: invoices with their lines, clients with their invoices. -/
structure Balances (initial : Table Client) (invoices : Table Invoice) (items : Table InvoiceItem)
    (clients : Table Client) : Prop where
  kept : initial.Keeps clients
  known : ∀ i ∈ invoices.rows, ∀ c, i.cols.clientId = some c → ∃ r ∈ clients.rows, r.id = c
  invoiced : ∀ x ∈ items.rows, ∃ i ∈ invoices.rows, i.id = x.cols.invoiceId
  totals : ∀ i ∈ invoices.rows, i.cols.totalAmount = itemsTotal items i.id
  spent : ∀ r ∈ clients.rows,
    r.cols.totalSpent = initialSpent initial r.id + billedTo invoices r.id
  visits : ∀ r ∈ clients.rows, ∀ i, lastInvoice invoices r.id = some i →
    r.cols.lastVisit = invoiceDay i.cols

def BooksHold (initial : Table Client) (db : Db) : Prop :=
  Balances initial db.invoices db.invoiceItems db.clients

variable {initial : Table Client} {invoices : Table Invoice} {items : Table InvoiceItem}
  {clients : Table Client}

theorem initialSpent_new (kept : initial.Keeps clients) :
    initialSpent initial clients.nextId = 0 := by
  have absent : lookup initial (.num clients.nextId) = none := by
    refine lookup_eq_none.mpr fun r member same => ?_
    obtain ⟨s, sMember, sId⟩ := kept.exists_id member
    have new : r.id = clients.nextId := by simpa using same
    exact clients.id_ne_nextId sMember (sId.trans new)
  rw [initialSpent, absent]

/-- The lines of a sale count for its own invoice. -/
theorem itemsTotal_sale {lines : List InvoiceItem} {invoiceId : Nat}
    (own : ∀ line ∈ lines, line.invoiceId = invoiceId) (i : Nat) :
    itemsTotal (lines.foldl Table.insert items) i =
      itemsTotal items i + if i = invoiceId then (lines.map lineAmount).sum else 0 := by
  rw [itemsTotal, Table.sumOver_foldl_insert lines items (fun x => x.invoiceId = i) lineAmount]
  refine congrArg (itemsTotal items i + ·) ?_
  split
  · rename_i same
    rw [List.filter_eq_self.mpr fun line member => by simp [own line member, same]]
  · rename_i other
    rw [List.filter_eq_nil_iff.mpr fun line member => by simp [own line member, Ne.symm other]]
    rfl

theorem itemsTotal_new (invoiced : ∀ x ∈ items.rows, ∃ i ∈ invoices.rows, i.id = x.cols.invoiceId) :
    itemsTotal items invoices.nextId = 0 := by
  refine Table.sumOver_eq_zero _ _ _ fun x member => ?_
  obtain ⟨i, iMember, same⟩ := invoiced x member
  simpa [← same] using invoices.id_ne_nextId iMember

theorem billedTo_insert (i : Invoice) (c : Nat) :
    billedTo (invoices.insert i) c =
      billedTo invoices c + if i.clientId = some c then i.totalAmount else 0 := by
  simp [billedTo, Table.sumOver_insert]

theorem lastInvoice_insert (i : Invoice) (c : Nat) :
    lastInvoice (invoices.insert i) c =
      if i.clientId = some c then some ⟨invoices.nextId, i⟩ else lastInvoice invoices c := by
  rw [lastInvoice, Table.insert_rows, List.filter_append]
  split
  · rename_i own
    simp [own]
  · rename_i other
    simp [other, lastInvoice]

theorem nothing_billed {c : Nat} (absent : ∀ i ∈ invoices.rows, i.cols.clientId ≠ some c) :
    billedTo invoices c = 0 ∧ lastInvoice invoices c = none := by
  constructor
  · exact Table.sumOver_eq_zero _ _ _ fun i member => by simpa using absent i member
  · rw [lastInvoice, List.filter_eq_nil_iff.mpr fun i member => by simpa using absent i member]
    rfl

theorem Balances.client {c : Client} (unspent : c.totalSpent = 0)
    (holds : Balances initial invoices items clients) :
    Balances initial invoices items (clients.insert c) := by
  obtain ⟨billed, last⟩ := nothing_billed (c := clients.nextId) fun i member same => by
    obtain ⟨r, rMember, rId⟩ := holds.known i member _ same
    exact clients.id_ne_nextId rMember rId
  refine
    { holds with
      kept := holds.kept.trans (Table.keeps_insert _ _)
      known := fun i member k same => ?_
      spent := fun r member => ?_
      visits := fun r member i recent => ?_ }
  · obtain ⟨r, rMember, rId⟩ := holds.known i member k same
    exact ⟨r, Table.mem_insert.mpr (.inl rMember), rId⟩
  · rcases Table.mem_insert.mp member with old | rfl
    · exact holds.spent r old
    · rw [unspent, initialSpent_new holds.kept, billed, add_zero]
  · rcases Table.mem_insert.mp member with old | rfl
    · exact holds.visits r old i recent
    · cases last.symm.trans recent

/-- What a sale leaves of a client: the one it is for spends, the others stay. -/
theorem mem_credit {clock : Clock} {client : Option Nat} {amount : Rat} {r : Row Client}
    (member : r ∈ (Sale.credit clock client amount clients).rows) :
    ∃ old ∈ clients.rows, r.id = old.id ∧
      (client = some old.id ∧ r.cols = old.cols.spend clock amount ∨
        client ≠ some old.id ∧ r.cols = old.cols) := by
  cases client with
  | none => exact ⟨r, member, rfl, .inr ⟨by simp, rfl⟩⟩
  | some c =>
    obtain ⟨old, oldMember, rfl⟩ := Table.mem_modify.mp member
    refine ⟨old, oldMember, ?_⟩
    by_cases hit : byId (.num c) old = true
    · have same : old.id = c := by simpa using byId_iff.mp hit
      simp [hit, same]
    · have other : old.id ≠ c := fun same => hit (byId_iff.mpr (by rw [same]))
      simp [hit, Ne.symm other]

theorem Balances.sale {clock : Clock} {sale : Sale}
    (client : ∀ c, sale.clientId = some c → ∃ r ∈ clients.rows, r.id = c)
    (total : sale.total = (sale.lines.map lineAmount).sum)
    (own : ∀ line ∈ sale.lines, line.invoiceId = invoices.nextId)
    (holds : Balances initial invoices items clients) :
    Balances initial (invoices.insert (sale.invoice clock)) (sale.lines.foldl Table.insert items)
      (Sale.credit clock sale.clientId sale.total clients) where
  kept := holds.kept.trans (keeps_credit _ _ _ _)
  known i member c named := by
    have present : ∃ r ∈ clients.rows, r.id = c := by
      rcases Table.mem_insert.mp member with old | rfl
      · exact holds.known i old c named
      · exact client c named
    obtain ⟨r, rMember, rId⟩ := present
    obtain ⟨s, sMember, sId⟩ := (keeps_credit clock sale.clientId sale.total clients).exists_id rMember
    exact ⟨s, sMember, sId.trans rId⟩
  invoiced x member := by
    rcases Table.mem_foldl_insert member with old | new
    · obtain ⟨i, iMember, same⟩ := holds.invoiced x old
      exact ⟨i, Table.mem_insert.mpr (.inl iMember), same⟩
    · exact ⟨_, Table.mem_insert_self _ _, (own _ new).symm⟩
  totals i member := by
    rw [itemsTotal_sale own]
    rcases Table.mem_insert.mp member with old | rfl
    · rw [if_neg (invoices.id_ne_nextId old), add_zero]
      exact holds.totals i old
    · rw [if_pos rfl, itemsTotal_new holds.invoiced, zero_add]
      exact total
  spent r member := by
    obtain ⟨old, oldMember, rId, ⟨named, cols⟩ | ⟨other, cols⟩⟩ := mem_credit member
    · rw [rId, cols, billedTo_insert, if_pos (show (sale.invoice clock).clientId = _ from named),
        ← add_assoc, ← holds.spent old oldMember]
      rfl
    · rw [rId, cols, billedTo_insert, if_neg (show (sale.invoice clock).clientId ≠ _ from other),
        add_zero]
      exact holds.spent old oldMember
  visits r member i recent := by
    obtain ⟨old, oldMember, rId, ⟨named, cols⟩ | ⟨other, cols⟩⟩ := mem_credit member
    · rw [rId, lastInvoice_insert, if_pos (show (sale.invoice clock).clientId = _ from named)]
        at recent
      cases recent
      rw [cols]
      simp only [Client.spend, invoiceDay, Sale.invoice, Clock.today, Clock.now]
    · rw [rId, lastInvoice_insert, if_neg (show (sale.invoice clock).clientId ≠ _ from other)]
        at recent
      rw [cols]
      exact holds.visits old oldMember i recent

theorem BooksChange.keeps {php : Platform} {e : Event} {db after : Db}
    (change : BooksChange php e db after) (holds : BooksHold initial db) :
    BooksHold initial after := by
  unfold BooksHold at holds ⊢
  cases change with
  | same invoices items clients | product asked p stocked invoices items clients
    | stock asked checked invoices items clients =>
    rwa [invoices, items, clients]
  | client c unspent invoices items clients =>
    rw [invoices, items, clients]
    exact holds.client unspent
  | sale sale sound source invoices items clients =>
    rw [invoices, items, clients]
    exact holds.sale sound.client sound.total sound.invoice

theorem books_seed (hash : String → String) (clock : Clock) :
    BooksHold (seedClients clock.now) (seed hash clock) where
  kept := .refl _
  known i member := by cases member
  invoiced x member := by cases member
  totals i member := by cases member
  spent r member := by
    have found : lookup (seedClients clock.now) (.num r.id) = some r :=
      lookup_eq_some.mpr ⟨member, rfl⟩
    have start : initialSpent (seedClients clock.now) r.id = r.cols.totalSpent := by
      rw [initialSpent, found]
    exact start.symm.trans (add_zero _).symm
  visits r member i recent := by cases recent

theorem books_hold (php : Platform) (hash : String → String) (clock : Clock) (events : List Event) :
    BooksHold (seedClients clock.now) (afterRun php hash clock events) :=
  run_keeps (fun e _ before => (serve_served php e _).books_cases.keeps before)
    (books_seed hash clock) events

end Balances

section Rejections

variable {php : Platform} {e : Event} {db : Db}

/-- A checkout that is not accepted is answered with an error and posts nothing. -/
theorem checkout_rejected (asked : Asks e "checkout" ["POST"]) (rejected : ¬ Accepted php e db) :
    (serve php e db).response.status ≠ 200 ∧ (serve php e db).db = db := by
  have refused : Refused (· = db) (index php e (.start db)) := by
    rw [index_checkout asked]
    refine refused_of_handle rfl fun payload checked => ?_
    refine refused_of_ite (fun _ => ⟨by simp [responseOf, json, Prog.stop], rfl⟩) fun given => ?_
    simp only [Bool.or_eq_true, not_or, Bool.not_eq_true] at given
    refine refused_of_transaction rfl (fun invoiceId after success => ?_) rfl
    obtain ⟨sale, drawers, -, charged, -⟩ := Invoice.checkoutStatements_eq_ok success
    exact rejected (accepted_of_charged asked checked given.1 given.2 charged)
  exact refused

end Rejections

/-- After every run each invoice's total is the sum of price times quantity over its
items, each client has spent what it started with and its invoices, and a client with
invoices was last there on the day of the last one; a checkout that is not accepted
answers with an error and changes nothing. -/
theorem ledgers_balance (php : Platform) (hash : String → String) (clock : Clock)
    (events : List Event) :
    let db := afterRun php hash clock events
    (∀ i ∈ db.invoices.rows, i.cols.totalAmount =
      db.invoiceItems.sumOver (fun x => x.cols.invoiceId = i.id)
        fun x => x.cols.price * x.cols.quantity) ∧
    (∀ c ∈ db.clients.rows, c.cols.totalSpent =
      initialSpent (seedClients clock.now) c.id +
        db.invoices.sumOver (fun i => i.cols.clientId = some c.id) fun i => i.cols.totalAmount) ∧
    (∀ c ∈ db.clients.rows, ∀ i, lastInvoice db.invoices c.id = some i →
      c.cols.lastVisit = dateKey i.cols.createdAt.date) ∧
    ∀ e, Asks e "checkout" ["POST"] → ¬ Accepted php e db →
      (serve php e db).response.status ≠ 200 ∧ (serve php e db).db = db := by
  intro db
  have holds : BooksHold (seedClients clock.now) db := books_hold php hash clock events
  exact ⟨holds.totals, holds.spent, holds.visits, fun e => checkout_rejected⟩

end Saloon.Guarantees
