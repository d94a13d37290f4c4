import Saloon.Guarantees.Stock

/-!
# Goods out, money in

What an accepted checkout does to the stock, to today's drawer and to its
client follows from sums over the cart, and nothing checks the signs of what is
summed, or that a product is one.
-/
namespace Saloon.Guarantees

open Lib Source

def cartOf (e : Event) : List Val := (argOr e "items" (.arr [])).elems

def methodOf (e : Event) : Val := argOr e "payment_method" (.str "")

/-- What the product lines of a cart ask for of one product. -/
def askedFor (productId : Nat) (items : List Val) : Rat :=
  ((items.filter fun item => (item.field "item_type").is "product" ∧
    (item.field "item_id").key = .num productId).map
      fun item => ((item.field "quantity").intval : Rat)).sum

/-- A column of the drawer of a date; a date without one has nothing in it. -/
def columnOn (key : SqlVal) (column : CashReconciliation → Rat) (t : Table CashReconciliation) :
    Rat :=
  (t.find? (isOn key)).elim 0 fun r => column r.cols

/-- A checkout that only moves goods out and money in. -/
structure GoodsOutMoneyIn (clock : Clock) (db after : Db) : Prop where
  stock : ∀ p ∈ db.products.rows, ∃ q ∈ after.products.rows, q.id = p.id ∧
    0 ≤ q.cols.stockQuantity ∧ q.cols.stockQuantity ≤ p.cols.stockQuantity
  named : ∀ line ∈ linesSince db after, line.itemType = "product" →
    ∃ p ∈ after.products.rows, line.itemId = .num p.id
  cash : columnOn (dateKey clock.today) CashReconciliation.totalCashSales db.cashReconciliation ≤
    columnOn (dateKey clock.today) CashReconciliation.totalCashSales after.cashReconciliation
  digital : columnOn (dateKey clock.today) CashReconciliation.digitalPayments db.cashReconciliation ≤
    columnOn (dateKey clock.today) CashReconciliation.digitalPayments after.cashReconciliation
  spent : ∀ c ∈ db.clients.rows, ∃ d ∈ after.clients.rows, d.id = c.id ∧
    c.cols.totalSpent ≤ d.cols.totalSpent

/-- A total that no account takes: no client, and a third method on a day without a drawer. -/
structure Uncounted (e : Event) (db : Db) : Prop where
  walkIn : arg e "client_id" = .null
  notCash : (methodOf e).is "cash" = false
  notDigital : (methodOf e).is "digital" = false
  absent : ∀ r ∈ db.cashReconciliation.rows, isOn (dateKey e.clock.today) r = false

/-- A cart within the stock, of products that exist, and not below zero in all. -/
structure FairCart (e : Event) (db : Db) : Prop where
  stock : ∀ p ∈ db.products.rows, 0 ≤ askedFor p.id (cartOf e) ∧
    askedFor p.id (cartOf e) ≤ p.cols.stockQuantity
  named : ∀ item ∈ cartOf e, (item.field "item_type").is "product" = true →
    ∃ p ∈ db.products.rows, (item.field "item_id").key = .num p.id
  due : 0 ≤ Invoice.total (cartOf e) ∨ Uncounted e db

section Lines

variable {db : Db} {invoiceId : Nat} {items : List Val} {lines : List InvoiceItem}

theorem sold_product {item : Val} {line : InvoiceItem} (sold : Invoice.Sold db invoiceId item line) :
    line.itemType = "product" ↔ (item.field "item_type").is "product" = true := by
  obtain ⟨-, -, stylist, -, rfl⟩ := sold
  exact (is_iff_strval (by decide) (by decide)).symm

theorem sold_itemId {item : Val} {line : InvoiceItem} (sold : Invoice.Sold db invoiceId item line) :
    line.itemId = (item.field "item_id").key := by
  obtain ⟨-, -, stylist, -, rfl⟩ := sold
  rfl

theorem sold_quantity {item : Val} {line : InvoiceItem}
    (sold : Invoice.Sold db invoiceId item line) :
    line.quantity = (item.field "quantity").intval := by
  obtain ⟨-, -, stylist, -, rfl⟩ := sold
  rfl

/-- The lines of a cart take what its items ask for. -/
theorem soldIn_of_sold (id : Nat)
    (sold : List.Forall₂ (Invoice.Sold db invoiceId) items lines) :
    soldIn id lines = askedFor id items := by
  induction sold with
  | nil => rfl
  | cons one rest ih =>
    rw [soldIn, askedFor] at ih ⊢
    simp only [List.filter_cons, sold_product one, sold_itemId one]
    split
    · rw [List.map_cons, List.map_cons, List.sum_cons, List.sum_cons, ih, sold_quantity one]
    · exact ih

theorem named_of_sold {P : SqlVal → Prop}
    (sold : List.Forall₂ (Invoice.Sold db invoiceId) items lines) :
    (∀ line ∈ lines, line.itemType = "product" → P line.itemId) ↔
      ∀ item ∈ items, (item.field "item_type").is "product" = true →
        P (item.field "item_id").key := by
  induction sold with
  | nil => simp
  | cons one rest ih =>
    simp only [List.forall_mem_cons, ih, sold_product one, sold_itemId one]

end Lines

section Stock

theorem takeLines_within (t : Table Product) (lines : List InvoiceItem) :
    (∀ p ∈ t.rows, ∃ q ∈ (lines.foldl Sale.takeLine t).rows, q.id = p.id ∧
        0 ≤ q.cols.stockQuantity ∧ q.cols.stockQuantity ≤ p.cols.stockQuantity) ↔
      ∀ p ∈ t.rows, 0 ≤ soldIn p.id lines ∧ soldIn p.id lines ≤ p.cols.stockQuantity := by
  refine forall₂_congr fun p member => ?_
  obtain ⟨r, rMember, rId, left⟩ := stock_takeLines lines member
  constructor
  · rintro ⟨q, qMember, qId, kept, less⟩
    obtain rfl := Table.eq_of_id_eq _ qMember rMember (qId.trans rId.symm)
    rw [left] at kept less
    exact ⟨by linarith, by linarith⟩
  · rintro ⟨some, enough⟩
    refine ⟨r, rMember, rId, ?_, ?_⟩
    · rw [left]
      linarith
    · rw [left]
      linarith

/-- A sale adds no product and takes none away. -/
theorem exists_product_takeLines (t : Table Product) (lines : List InvoiceItem) (id : SqlVal) :
    (∃ q ∈ (lines.foldl Sale.takeLine t).rows, id = .num q.id) ↔ ∃ p ∈ t.rows, id = .num p.id := by
  constructor
  · rintro ⟨q, qMember, rfl⟩
    obtain ⟨p, member, same⟩ := ids_takeLines qMember
    exact ⟨p, member, by rw [same]⟩
  · rintro ⟨p, member, rfl⟩
    obtain ⟨q, qMember, same, -⟩ := stock_takeLines lines member
    exact ⟨q, qMember, by rw [same]⟩

end Stock

section Accounts

/-- The client of a sale spends its total. -/
theorem credit_spent (clock : Clock) {client : Option Nat} (amount : Rat) {t : Table Client}
    (known : ∀ c, client = some c → ∃ r ∈ t.rows, r.id = c) :
    (∀ c ∈ t.rows, ∃ d ∈ (Sale.credit clock client amount t).rows, d.id = c.id ∧
        c.cols.totalSpent ≤ d.cols.totalSpent) ↔ client = none ∨ 0 ≤ amount := by
  cases client with
  | none => exact iff_of_true (fun c member => ⟨c, member, rfl, le_refl _⟩) (.inl rfl)
  | some id =>
    simp only [Sale.credit, reduceCtorEq, false_or]
    constructor
    · intro more
      obtain ⟨c, member, rfl⟩ := known id rfl
      obtain ⟨d, dMember, same, spent⟩ := more c member
      obtain ⟨r, rMember, rfl⟩ := Table.mem_modify.mp dMember
      have own : r = c := by
        refine t.eq_of_id_eq rMember member ?_
        split at same <;> exact same
      subst own
      rw [if_pos (byId_iff.mpr rfl)] at spent
      simp only [Client.spend] at spent
      linarith
    · intro positive c member
      refine ⟨_, Table.mem_modify.mpr ⟨c, member, rfl⟩, ?_⟩
      split
      · refine ⟨rfl, ?_⟩
        simp only [Client.spend]
        linarith
      · exact ⟨rfl, le_refl _⟩

variable {key : SqlVal} {f : CashReconciliation → CashReconciliation} {fresh : CashReconciliation}
  {t u : Table CashReconciliation} {column : CashReconciliation → Rat}

theorem columnOn_absent (absent : ∀ r ∈ t.rows, isOn key r = false) : columnOn key column t = 0 := by
  rw [columnOn, Table.find?_eq_none.mpr absent]
  rfl

theorem columnOn_of_unique (unique : UniqueKey drawerKey t) {r : Row CashReconciliation}
    (member : r ∈ t.rows) (on : isOn key r = true) : columnOn key column t = column r.cols := by
  rw [columnOn, Table.find?_of_unique member on fun s sMember sOn =>
    unique s sMember r member ((isOn_iff.mp sOn).trans (isOn_iff.mp on).symm)]
  rfl

/-- A posting adds to the column of the date's open row, or opens the date. -/
theorem columnOn_posted (posted : PostedOn key f fresh t u) (unique : UniqueKey drawerKey t)
    (keeps : ∀ r, drawerKey (f r) = drawerKey r) (date : drawerKey fresh = key) :
    (∃ r ∈ t.rows, isOn key r = true ∧ ∀ column, columnOn key column t = column r.cols ∧
      columnOn key column u = column (f r.cols)) ∨
    ((∀ r ∈ t.rows, isOn key r = false) ∧ ∀ column, columnOn key column t = 0 ∧
      columnOn key column u = column fresh) := by
  have after := posted_unique posted keeps date unique
  rcases posted with ⟨r, member, isOpen, rfl⟩ | ⟨absent, rfl⟩
  · have on := isOn_of_isOpenOn isOpen
    refine .inl ⟨r, member, on, fun column => ⟨columnOn_of_unique unique member on, ?_⟩⟩
    have changed : (⟨r.id, f r.cols⟩ : Row CashReconciliation) ∈
        (t.modify (fun s => s.id = r.id) f).rows :=
      Table.mem_modify.mpr ⟨r, member, by simp⟩
    exact columnOn_of_unique after changed (isOn_iff.mpr ((keeps _).trans (isOn_iff.mp on)))
  · refine .inr ⟨absent, fun column => ⟨columnOn_absent absent, ?_⟩⟩
    exact columnOn_of_unique after (Table.mem_insert_self t fresh) (isOn_iff.mpr date)

end Accounts

section Sales

variable {php : Platform} {e : Event} {payload : Val} {db : Db} {sale : Sale}
  {drawers : Table CashReconciliation}

/-- The total of a sale, by the account that takes it. -/
theorem money_in_iff (unique : UniqueKey drawerKey db.cashReconciliation)
    (charged : Invoice.Charged e.clock db (arg e "client_id") (payload.field "id") (methodOf e)
      (argOr e "items" (.arr [])) .null sale drawers) :
    (columnOn (dateKey e.clock.today) CashReconciliation.totalCashSales db.cashReconciliation ≤
        columnOn (dateKey e.clock.today) CashReconciliation.totalCashSales drawers ∧
      columnOn (dateKey e.clock.today) CashReconciliation.digitalPayments db.cashReconciliation ≤
        columnOn (dateKey e.clock.today) CashReconciliation.digitalPayments drawers ∧
      (sale.clientId = none ∨ 0 ≤ sale.total)) ↔ 0 ≤ sale.total ∨ Uncounted e db := by
  have walkIn : sale.clientId = none ↔ arg e "client_id" = .null := by
    have nullKey : foreignKey db.clients (arg e "client_id").key = some none ↔ _ :=
      foreignKey_eq_none_id
    rw [← key_eq_null, ← nullKey, charged.client, Option.some.injEq]
  rcases columnOn_posted charged.drawer unique (saleUpdate_key _ _) (saleOpening_key _ _ _) with
    ⟨r, member, on, columns⟩ | ⟨absent, columns⟩
  · have counted : ¬ Uncounted e db := fun free => by
      have off := free.absent r member
      rw [on] at off
      cases off
    simp only [columns, saleUpdate, counted, or_false]
    split
    · simp only [CashReconciliation.addCashSale]
      constructor
      · rintro ⟨cash, -, -⟩
        linarith
      · intro due
        exact ⟨by linarith, le_refl _, .inr due⟩
    · simp only [CashReconciliation.addDigitalPayment]
      constructor
      · rintro ⟨-, digital, -⟩
        linarith
      · intro due
        exact ⟨le_refl _, by linarith, .inr due⟩
  · simp only [columns, saleOpening, openingDrawer]
    constructor
    · rintro ⟨cash, digital, spent⟩
      rcases le_or_gt 0 sale.total with due | owing
      · exact .inl due
      · have uncashed : (methodOf e).is "cash" = false := by
          by_contra isCash
          rw [if_pos (Bool.not_eq_false _ ▸ isCash)] at cash
          linarith
        have undigital : (methodOf e).is "digital" = false := by
          by_contra isDigital
          rw [if_pos (Bool.not_eq_false _ ▸ isDigital)] at digital
          linarith
        have unspent : sale.clientId = none := spent.resolve_right (not_le.mpr owing)
        exact .inr ⟨walkIn.mp unspent, uncashed, undigital, absent⟩
    · rintro (due | free)
      · refine ⟨?_, ?_, .inr due⟩ <;> split <;> simp [due]
      · simp [free.notCash, free.notDigital, walkIn.mpr free.walkIn]

/-- What a sale posts only moves goods out and money in when its cart is fair. -/
theorem goodsOut_post (unique : UniqueKey drawerKey db.cashReconciliation)
    (charged : Invoice.Charged e.clock db (arg e "client_id") (payload.field "id") (methodOf e)
      (argOr e "items" (.arr [])) .null sale drawers) :
    GoodsOutMoneyIn e.clock db (sale.post e.clock drawers db) ↔ FairCart e db := by
  have lines : linesSince db (sale.post e.clock drawers db) = sale.lines := linesSince_sale rfl
  have stock := takeLines_within db.products sale.lines
  have named := named_of_sold (P := fun id => ∃ p ∈ db.products.rows, id = .num p.id) charged.lines
  have money := money_in_iff unique charged
  have spent := credit_spent e.clock sale.total (sound_of_charged charged).client
  simp only [soldIn_of_sold _ charged.lines] at stock
  have total : sale.total = Invoice.total (cartOf e) := charged.total
  constructor
  · rintro ⟨stocked, products, cash, digital, clients⟩
    rw [lines] at products
    refine ⟨stock.mp stocked, named.mp fun line member isProduct => ?_, ?_⟩
    · exact (exists_product_takeLines _ _ _).mp (products line member isProduct)
    · exact total ▸ money.mp ⟨cash, digital, spent.mp clients⟩
  · rintro ⟨within, products, due⟩
    obtain ⟨cash, digital, clients⟩ := money.mpr (total.symm ▸ due)
    refine ⟨stock.mpr within, ?_, cash, digital, spent.mpr clients⟩
    rw [lines]
    exact fun line member isProduct =>
      (exists_product_takeLines _ _ _).mpr (named.mpr products line member isProduct)

/-- A checkout that made an invoice was accepted. -/
theorem accepted_of_invoiced (asked : Asks e "checkout" ["POST"])
    (invoiced : (serve php e db).db.invoices.seq ≠ db.invoices.seq) : Accepted php e db := by
  by_contra rejected
  rw [(checkout_rejected asked rejected).2] at invoiced
  exact invoiced rfl

end Sales

/-- After every run, an accepted checkout only moves goods out and money in exactly when
its cart is fair. -/
theorem goods_out_iff {php : Platform} (hash : String → String) (clock : Clock)
    (events : List Event) {e : Event}
    (accepted : Accepted php e (afterRun php hash clock events)) :
    GoodsOutMoneyIn e.clock (afterRun php hash clock events)
        (serve php e (afterRun php hash clock events)).db ↔
      FairCart e (afterRun php hash clock events) := by
  have unique := (ledger_holds php hash clock events).unique
  obtain ⟨payload, invoiceId, done⟩ := serve_accepted accepted
  obtain ⟨sale, drawers, -, charged, posted⟩ := Invoice.checkoutStatements_eq_ok done
  rw [posted]
  exact goodsOut_post unique charged

/-- A cash sale of the seeded product, and its return as a sale of one less than none. -/
def saleOf (quantity : Int) : Event := adminRequest "checkout" "POST"
  [("payment_method", .str "cash"),
    ("items", .list [.arr [("item_type", .str "product"), ("item_id", .int 1),
      ("quantity", .int quantity), ("price", .int 18)]])]

theorem sale_goods_out :
    GoodsOutMoneyIn (saleOf 2).clock (afterRun recorded (fun _ => adminHash) morning [])
        (serve recorded (saleOf 2) (afterRun recorded (fun _ => adminHash) morning [])).db ↔
      FairCart (saleOf 2) (afterRun recorded (fun _ => adminHash) morning []) :=
  goods_out_iff _ morning [] (accepted_of_invoiced (by decide) (by decide +kernel))

/-- A cart of minus two puts two products into the stock. -/
theorem goods_returned : ¬ ∀ events e,
    Accepted recorded e (afterRun recorded (fun _ => adminHash) morning events) →
    (∀ p ∈ (afterRun recorded (fun _ => adminHash) morning events).products.rows,
      0 ≤ p.cols.stockQuantity) →
    GoodsOutMoneyIn e.clock (afterRun recorded (fun _ => adminHash) morning events)
      (serve recorded e (afterRun recorded (fun _ => adminHash) morning events)).db := by
  intro keeps
  have accepted : Accepted recorded (saleOf (-2))
      (afterRun recorded (fun _ => adminHash) morning []) :=
    accepted_of_invoiced (by decide) (by decide +kernel)
  have fair := (goods_out_iff _ morning [] accepted).mp
    (keeps [] (saleOf (-2)) accepted (by decide +kernel))
  have taken : ∃ p ∈ (afterRun recorded (fun _ => adminHash) morning []).products.rows,
      askedFor p.id (cartOf (saleOf (-2))) < 0 := by decide +kernel
  obtain ⟨p, member, below⟩ := taken
  exact absurd (fair.stock p member).1 (not_le.mpr below)

end Saloon.Guarantees
