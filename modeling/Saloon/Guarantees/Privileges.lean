import Saloon.Guarantees.Serving

/-!
# Write privileges by role

What the requests of each role leave of a database. A request's effect is a
sequence of writes to single tables; each write is one that the check before it
allows, and such effects compose.
-/
namespace Saloon.Guarantees

open Lib Source

/-- Every drawer is still there with its status. -/
def KeepsStatus (t u : Table CashReconciliation) : Prop :=
  t.KeepsColumn CashReconciliation.status u

/-- No row changes, and what is new is a client or an appointment. -/
structure OnlyAdds (db after : Db) : Prop where
  users : after.users = db.users
  services : after.services = db.services
  staff : after.staff = db.staff
  clients : db.clients.Extends after.clients
  appointments : db.appointments.Extends after.appointments
  products : after.products = db.products
  invoices : after.invoices = db.invoices
  invoiceItems : after.invoiceItems = db.invoiceItems
  expenses : after.expenses = db.expenses
  cashReconciliation : after.cashReconciliation = db.cashReconciliation

/-- No row is deleted, and the invoices, their items and the expenses stand unchanged. -/
structure KeepsRows (db after : Db) : Prop where
  users : db.users.Keeps after.users
  services : db.services.Keeps after.services
  staff : db.staff.Keeps after.staff
  clients : db.clients.Keeps after.clients
  appointments : db.appointments.Keeps after.appointments
  products : db.products.Keeps after.products
  invoices : db.invoices.Extends after.invoices
  invoiceItems : db.invoiceItems.Extends after.invoiceItems
  expenses : db.expenses.Extends after.expenses
  cashReconciliation : db.cashReconciliation.Keeps after.cashReconciliation

/-- The effect on each table that needs a role, with the check that allows it. -/
structure Writes (user : Option Val) (db after : Db) : Prop where
  rows : KeepsRows db after
  roles : db.users.KeepsColumn User.role after.users
  unchecked : user = none → OnlyAdds db after
  users : after.users = db.users ∨ Allowed user [.admin]
  catalogue : after.services = db.services ∧ after.products = db.products ∨
    Allowed user [.admin, .receptionist]
  newStaff : after.staff.rows.map Row.id = db.staff.rows.map Row.id ∨ Allowed user [.admin]
  statuses : KeepsStatus db.cashReconciliation after.cashReconciliation ∨
    Allowed user [.admin, .receptionist]

section Composition

variable {user : Option Val} {db mid after : Db}

theorem OnlyAdds.refl (db : Db) : OnlyAdds db db :=
  ⟨rfl, rfl, rfl, .refl _, .refl _, rfl, rfl, rfl, rfl, rfl⟩

theorem OnlyAdds.trans (first : OnlyAdds db mid) (second : OnlyAdds mid after) :
    OnlyAdds db after where
  users := second.users.trans first.users
  services := second.services.trans first.services
  staff := second.staff.trans first.staff
  clients := first.clients.trans second.clients
  appointments := first.appointments.trans second.appointments
  products := second.products.trans first.products
  invoices := second.invoices.trans first.invoices
  invoiceItems := second.invoiceItems.trans first.invoiceItems
  expenses := second.expenses.trans first.expenses
  cashReconciliation := second.cashReconciliation.trans first.cashReconciliation

theorem KeepsRows.refl (db : Db) : KeepsRows db db :=
  ⟨.refl _, .refl _, .refl _, .refl _, .refl _, .refl _, .refl _, .refl _, .refl _, .refl _⟩

theorem KeepsRows.trans (first : KeepsRows db mid) (second : KeepsRows mid after) :
    KeepsRows db after where
  users := first.users.trans second.users
  services := first.services.trans second.services
  staff := first.staff.trans second.staff
  clients := first.clients.trans second.clients
  appointments := first.appointments.trans second.appointments
  products := first.products.trans second.products
  invoices := first.invoices.trans second.invoices
  invoiceItems := first.invoiceItems.trans second.invoiceItems
  expenses := first.expenses.trans second.expenses
  cashReconciliation := first.cashReconciliation.trans second.cashReconciliation

theorem Writes.refl (user : Option Val) (db : Db) : Writes user db db where
  rows := .refl db
  roles := .refl _
  unchecked _ := .refl db
  users := .inl rfl
  catalogue := .inl ⟨rfl, rfl⟩
  newStaff := .inl rfl
  statuses := .inl (Table.KeepsColumn.refl _)

theorem Writes.trans (first : Writes user db mid) (second : Writes user mid after) :
    Writes user db after where
  rows := first.rows.trans second.rows
  roles := first.roles.trans second.roles
  unchecked anonymous := (first.unchecked anonymous).trans (second.unchecked anonymous)
  users := by
    rcases first.users with same | allowed
    · exact second.users.imp_left fun later => later.trans same
    · exact .inr allowed
  catalogue := by
    rcases first.catalogue with ⟨services, products⟩ | allowed
    · exact second.catalogue.imp_left fun later =>
        ⟨later.1.trans services, later.2.trans products⟩
    · exact .inr allowed
  newStaff := by
    rcases first.newStaff with same | allowed
    · exact second.newStaff.imp_left fun later => later.trans same
    · exact .inr allowed
  statuses := by
    rcases first.statuses with kept | allowed
    · exact second.statuses.imp_left fun later => Table.KeepsColumn.trans kept later
    · exact .inr allowed

end Composition

section SingleWrites

/-! One table written, under the check that its writers made. -/

variable {user : Option Val} {payload : Val} {roles : List Role} (db : Db)

theorem Allowed.ne_none (allowed : Allowed user roles) : user ≠ none := by
  obtain ⟨payload, rfl, -⟩ := allowed
  simp

theorem writes_users {t : Table User} (allowed : Allowed user [.admin])
    (kept : db.users.Keeps t) (roles : db.users.KeepsColumn User.role t) :
    Writes user db (db.setUsers t) :=
  { Writes.refl user db with
    rows := { KeepsRows.refl db with users := kept }
    roles
    unchecked := fun anonymous => absurd anonymous allowed.ne_none
    users := .inr allowed }

theorem writes_services {t : Table Service} (allowed : Allowed user [.admin, .receptionist])
    (kept : db.services.Keeps t) : Writes user db (db.setServices t) :=
  { Writes.refl user db with
    rows := { KeepsRows.refl db with services := kept }
    unchecked := fun anonymous => absurd anonymous allowed.ne_none
    catalogue := .inr allowed }

theorem writes_products {t : Table Product} (allowed : Allowed user [.admin, .receptionist])
    (kept : db.products.Keeps t) : Writes user db (db.setProducts t) :=
  { Writes.refl user db with
    rows := { KeepsRows.refl db with products := kept }
    unchecked := fun anonymous => absurd anonymous allowed.ne_none
    catalogue := .inr allowed }

theorem writes_staff_insert (row : Staff) (allowed : Allowed user [.admin]) :
    Writes user db (db.setStaff (db.staff.insert row)) :=
  { Writes.refl user db with
    rows := { KeepsRows.refl db with staff := Table.keeps_insert _ _ }
    unchecked := fun anonymous => absurd anonymous allowed.ne_none
    newStaff := .inr allowed }

theorem writes_staff_modify (p : Row Staff → Bool) (f : Staff → Staff) (passed : user ≠ none) :
    Writes user db (db.setStaff (db.staff.modify p f)) :=
  { Writes.refl user db with
    rows := { KeepsRows.refl db with staff := Table.keeps_modify _ _ _ }
    unchecked := fun anonymous => absurd anonymous passed
    newStaff := .inl (Table.ids_modify _ _ _) }

theorem writes_client (row : Client) :
    Writes user db (db.setClients (db.clients.insert row)) :=
  { Writes.refl user db with
    rows := { KeepsRows.refl db with clients := Table.keeps_insert _ _ }
    unchecked := fun _ => { OnlyAdds.refl db with clients := Table.extends_insert _ _ } }

theorem writes_appointment (row : Appointment) :
    Writes user db (db.setAppointments (db.appointments.insert row)) :=
  { Writes.refl user db with
    rows := { KeepsRows.refl db with appointments := Table.keeps_insert _ _ }
    unchecked := fun _ => { OnlyAdds.refl db with appointments := Table.extends_insert _ _ } }

theorem writes_appointments_modify (p : Row Appointment → Bool) (f : Appointment → Appointment)
    (passed : user ≠ none) :
    Writes user db (db.setAppointments (db.appointments.modify p f)) :=
  { Writes.refl user db with
    rows := { KeepsRows.refl db with appointments := Table.keeps_modify _ _ _ }
    unchecked := fun anonymous => absurd anonymous passed }

theorem writes_expense (row : Expense) (passed : user ≠ none) :
    Writes user db (db.setExpenses (db.expenses.insert row)) :=
  { Writes.refl user db with
    rows := { KeepsRows.refl db with expenses := Table.extends_insert _ _ }
    unchecked := fun anonymous => absurd anonymous passed }

theorem writes_drawers {t : Table CashReconciliation} (passed : user ≠ none)
    (kept : db.cashReconciliation.Keeps t)
    (statuses : KeepsStatus db.cashReconciliation t ∨ Allowed user [.admin, .receptionist]) :
    Writes user db (db.setCashReconciliation t) :=
  { Writes.refl user db with
    rows := { KeepsRows.refl db with cashReconciliation := kept }
    unchecked := fun anonymous => absurd anonymous passed
    statuses }

end SingleWrites

section Sales

/-- A posting deletes no drawer and changes no status. -/
theorem posted_keeps {key : SqlVal} {f : CashReconciliation → CashReconciliation}
    {fresh : CashReconciliation} {t u : Table CashReconciliation} (posted : PostedOn key f fresh t u)
    (same : ∀ r, (f r).status = r.status) : t.Keeps u ∧ KeepsStatus t u := by
  rcases posted with ⟨r, -, -, rfl⟩ | ⟨-, rfl⟩
  · exact ⟨Table.keeps_modify _ _ _, Table.keepsColumn_modify _ _ same⟩
  · exact ⟨Table.keeps_insert _ _, Table.keepsColumn_insert _ _⟩

theorem keeps_takeLine (t : Table Product) (line : InvoiceItem) : t.Keeps (Sale.takeLine t line) := by
  unfold Sale.takeLine
  split
  · exact Table.keeps_modify _ _ _
  · exact .refl t

theorem keeps_takeLines (lines : List InvoiceItem) (t : Table Product) :
    t.Keeps (lines.foldl Sale.takeLine t) := by
  induction lines generalizing t with
  | nil => exact .refl t
  | cons line lines ih => exact (keeps_takeLine t line).trans (ih _)

theorem keeps_credit (clock : Clock) (client : Option Nat) (amount : Rat) (t : Table Client) :
    t.Keeps (Sale.credit clock client amount t) := by
  cases client with
  | none => exact .refl t
  | some c => exact Table.keeps_modify _ _ _

/-- Services take nothing from the stock. -/
theorem takeLines_services {lines : List InvoiceItem} (t : Table Product)
    (services : ∀ line ∈ lines, line.itemType ≠ "product") : lines.foldl Sale.takeLine t = t := by
  induction lines with
  | nil => rfl
  | cons line lines ih =>
    rw [List.foldl_cons, Sale.takeLine, if_neg (services line (by simp))]
    exact ih fun other member => services other (by simp [member])

/-- The one line of an appointment's bill is a service. -/
theorem services_of_billed {db : Db} {invoiceId : Nat} {apt : Invoice.Billable}
    {lines : List InvoiceItem}
    (sold : List.Forall₂ (Invoice.Sold db invoiceId) (Val.list [apt.item]).elems lines) :
    ∀ line ∈ lines, line.itemType ≠ "product" := by
  have only : (Val.list [apt.item]).elems = [apt.item] := rfl
  rw [only] at sold
  obtain ⟨line, rest, ⟨-, -, stylist, -, rfl⟩, none, rfl⟩ := List.forall₂_cons_left_iff.mp sold
  rw [List.forall₂_nil_left_iff] at none
  subst none
  intro other member
  rw [List.mem_singleton.mp member, show (Invoice.lineOf db invoiceId apt.item stylist).itemType =
    "service" from rfl]
  decide

/-- A sale writes the books; the stock too, but not for services. -/
theorem writes_sale {user : Option Val} {clock : Clock} {db : Db} {sale : Sale}
    {drawers : Table CashReconciliation}
    {clientId loggedById paymentMethod items appointmentId : Val}
    (charged : Invoice.Charged clock db clientId loggedById paymentMethod items appointmentId sale
      drawers)
    (passed : user ≠ none)
    (stock : (∀ line ∈ sale.lines, line.itemType ≠ "product") ∨
      Allowed user [.admin, .receptionist]) :
    Writes user db (sale.post clock drawers db) := by
  obtain ⟨drawersKept, statuses⟩ := posted_keeps charged.drawer (saleUpdate_status _ _)
  refine
    { rows := { KeepsRows.refl db with
        clients := keeps_credit _ _ _ _
        products := keeps_takeLines _ _
        invoices := Table.extends_insert _ _
        invoiceItems := Table.extends_foldl_insert _ _
        cashReconciliation := drawersKept }
      roles := .refl _
      unchecked := fun anonymous => absurd anonymous passed
      users := .inl rfl
      catalogue := stock.imp_left fun services => ⟨rfl, takeLines_services _ services⟩
      newStaff := .inl rfl
      statuses := .inl statuses }

end Sales

variable {php : Platform} {e : Event} {user : Option Val} {db after : Db}

theorem writes_clientOf {clientId : Nat} (client : clientOf e db = (.ok clientId, after)) :
    Writes user db after := by
  rcases client_frame client with rfl | ⟨c, rfl⟩
  · exact .refl user after
  · exact writes_client db c

theorem writes_mark {id status : Val} {staffId : Nat} (passed : user ≠ none) :
    Writes user db (Appointment.mark id status staffId db) :=
  (writes_appointments_modify db _ _ passed).trans (writes_staff_modify _ _ _ passed)

/-- Every request writes within the check that it passed. -/
theorem Served.writes (served : Served php e user db after) : Writes user db after := by
  cases served with
  | nothing => exact .refl user db
  | register allowed known done asked =>
    obtain ⟨row, -, -, -, -, -, rfl⟩ := User.registerStatements_eq_ok done
    have added := writes_users db allowed (Table.keeps_insert db.users row)
      (Table.keepsColumn_insert _ _)
    split
    · exact added.trans (writes_staff_insert _ _ allowed)
    · exact added
  | updateStaff allowed done asked =>
    obtain ⟨passwordHash, mid, updated, staffed⟩ := User.updateStatements_eq_ok done
    obtain ⟨-, edit⟩ := User.update_eq_ok updated
    have edited : Writes user db mid := by
      rw [edit]
      exact writes_users db allowed (Table.keeps_modify _ _ _)
        (Table.keepsColumn_modify _ _ fun _ => rfl)
    refine edited.trans ?_
    obtain ⟨final, outcome, effect⟩ := User.updateStaffRow_run _ _ _ mid
    obtain rfl : final = after := congrArg Prod.snd (outcome.symm.trans staffed)
    rcases effect with ⟨-, rfl⟩ | ⟨_, _, _, _, ⟨_, rfl⟩ | ⟨_, rfl⟩⟩
    · exact .refl user _
    · exact writes_staff_modify _ _ _ allowed.ne_none
    · exact writes_staff_insert _ _ allowed
  | availability passed allowed known => exact writes_staff_modify db _ _ (by simp [passed])
  | addClient allowed asked => exact writes_client db _
  | clientOnly asked client => exact writes_clientOf client
  | book asked named client done =>
    obtain ⟨a, -, rfl⟩ := Appointment.createStatements_eq_ok done
    exact (writes_clientOf client).trans (writes_appointment _ a)
  | mark asked checked passed allowed known found unbilled => exact writes_mark allowed.ne_none
  | complete asked checked passed allowed completed found pending billed =>
    obtain ⟨sale, drawers, -, charged, rfl⟩ := Invoice.checkoutStatements_eq_ok billed
    exact (writes_mark allowed.ne_none).trans
      (writes_sale charged allowed.ne_none (.inl (services_of_billed charged.lines)))
  | addService allowed duration nonneg =>
    exact writes_services db allowed (Table.keeps_insert _ _)
  | updateService allowed duration nonneg =>
    exact writes_services db allowed (Table.keeps_modify _ _ _)
  | addProduct allowed asked => exact writes_products db allowed (Table.keeps_insert _ _)
  | updateStock allowed => exact writes_products db allowed (Table.keeps_modify _ _ _)
  | checkout asked checked passed allowed method items done =>
    obtain ⟨sale, drawers, -, charged, rfl⟩ := Invoice.checkoutStatements_eq_ok done
    exact writes_sale charged allowed.ne_none (.inr allowed)
  | expense asked passed allowed positive done =>
    obtain ⟨loggedBy, drawers, -, posted, rfl⟩ := Expense.createStatements_eq_ok done
    obtain ⟨kept, statuses⟩ := posted_keeps posted fun _ => rfl
    exact (writes_expense db _ allowed.ne_none).trans
      (writes_drawers _ allowed.ne_none kept (.inl statuses))
  | viewDrawer allowed =>
    obtain ⟨r, viewed⟩ := Reconciliation.getTodayStatus_run e.clock db
    rw [viewed]
    dsimp only
    split
    · exact .refl user db
    · exact writes_drawers db allowed.ne_none (Table.keeps_insert _ _) (.inr allowed)
  | closeDrawer passed allowed =>
    rcases Reconciliation.closeDrawer_run e.clock _ _ _ db with same | ⟨closedBy, -, closed⟩
    · exact same.symm ▸ .refl user db
    · rw [closeOf, closed]
      exact writes_drawers db allowed.ne_none (Table.keeps_modify _ _ _) (.inr allowed)

section Roles

/-- A role that is a text without a number in it grants just that role. -/
theorem grants_text {payload : Val} {t : String} (role : payload.field "role" = .str t) (r : Role) :
    grants payload r = true ↔ t = r.name := by
  have worded : Numeral.whole r.name.toList = none := by cases r <;> decide +kernel
  rw [grants, Val.fieldOr, role]
  dsimp only [Val.looseEq]
  rw [worded]
  cases Numeral.whole t.toList <;> simp

/-- A stylist passes for no other role. -/
theorem not_allowed_of_stylist {payload : Val} {roles : List Role}
    (role : payload.field "role" = .str "stylist") (others : Role.stylist ∉ roles) :
    ¬ Allowed (some payload) roles := by
  rintro ⟨_, same, r, member, granted⟩
  cases same
  have named := (grants_text role r).mp granted
  cases r with
  | stylist => exact others member
  | admin => revert named; decide
  | receptionist => revert named; decide

end Roles

/-- For every database and request. Without a passed check no row changes and only
clients and appointments are added; a stylist leaves users, services, products and the
drawers' statuses, and adds no staff row; users change for the admin only, services,
products and drawers' statuses for the desk only; and no row is ever deleted, nor an
invoice, an item or an expense changed. -/
theorem write_privileges (php : Platform) (e : Event) (db : Db) :
    let user := (serve php e db).user
    let after := (serve php e db).db
    (user = none → OnlyAdds db after) ∧
    (∀ payload, user = some payload → payload.field "role" = .str "stylist" →
      after.users = db.users ∧ after.services = db.services ∧ after.products = db.products ∧
        after.staff.rows.map Row.id = db.staff.rows.map Row.id ∧
        KeepsStatus db.cashReconciliation after.cashReconciliation) ∧
    (after.users ≠ db.users → Allowed user [.admin]) ∧
    (after.services ≠ db.services ∨ after.products ≠ db.products ∨
        ¬ KeepsStatus db.cashReconciliation after.cashReconciliation →
      Allowed user [.admin, .receptionist]) ∧
    KeepsRows db after := by
  intro user after
  have writes : Writes user db after := (serve_served php e db).writes
  refine ⟨writes.unchecked, fun payload passed role => ?_, fun changed => ?_, fun changed => ?_,
    writes.rows⟩
  · rw [passed] at writes
    have noAdmin : ¬ Allowed (some payload) [.admin] := not_allowed_of_stylist role (by decide)
    have noDesk : ¬ Allowed (some payload) [.admin, .receptionist] :=
      not_allowed_of_stylist role (by decide)
    obtain ⟨services, products⟩ := writes.catalogue.resolve_right noDesk
    exact ⟨writes.users.resolve_right noAdmin, services, products,
      writes.newStaff.resolve_right noAdmin, writes.statuses.resolve_right noDesk⟩
  · exact writes.users.resolve_left changed
  · rcases changed with services | products | statuses
    · exact writes.catalogue.resolve_left fun same => services same.1
    · exact writes.catalogue.resolve_left fun same => products same.2
    · exact writes.statuses.resolve_left statuses

end Saloon.Guarantees
