import Mathlib.Data.List.Induction
import Saloon.Guarantees.Books

/-!
# Stock

A product's quantity is what it was created with, what the desk adjusted it by,
and what the lines of later checkouts took: an induction over the lines of one
cart inside the induction over a run.
-/
namespace Saloon.Guarantees

open Lib Source

/-- What an event adds to the stock of a product: the quantity of an adjustment that the
middleware lets pass and that names the product. -/
def adjustment (php : Platform) (productId : Nat) (e : Event) : Rat :=
  if Asks e "inventory_stock" ["POST"] ∧
      (AuthMiddleware.check php e.clock e.request.headers [.admin, .receptionist]).toOption.isSome ∧
      (arg e "id").key = .num productId then
    quantityOf e
  else 0

/-- The quantity of a product that the lines take. -/
def soldIn (productId : Nat) (lines : List InvoiceItem) : Rat :=
  ((lines.filter fun l => l.itemType = "product" ∧ l.itemId = .num productId).map
    fun l => (l.quantity : Rat)).sum

/-- The lines that were committed since `db`. -/
def linesSince (db after : Db) : List InvoiceItem :=
  (after.invoiceItems.rows.drop db.invoiceItems.rows.length).map Row.cols

section Lines

variable {db mid after : Db} {id : Nat}

theorem soldIn_append (first second : List InvoiceItem) :
    soldIn id (first ++ second) = soldIn id first + soldIn id second := by
  simp [soldIn]

theorem linesSince_self (same : after.invoiceItems = db.invoiceItems) : linesSince db after = [] := by
  rw [linesSince, same, List.drop_length, List.map_nil]

theorem linesSince_trans (first : db.invoiceItems.Extends mid.invoiceItems)
    (second : mid.invoiceItems.Extends after.invoiceItems) :
    linesSince db after = linesSince db mid ++ linesSince mid after := by
  obtain ⟨more, firstRows⟩ := first
  obtain ⟨rest, secondRows⟩ := second
  rw [linesSince, linesSince, linesSince, ← secondRows, ← firstRows, List.append_assoc,
    List.drop_left, List.drop_left, ← List.append_assoc, List.drop_left, List.map_append]

theorem linesSince_sale {lines : List InvoiceItem}
    (items : after.invoiceItems = lines.foldl Table.insert db.invoiceItems) :
    linesSince db after = lines := by
  rw [linesSince, List.map_drop, items, Table.cols_foldl_insert, ← List.length_map (f := Row.cols),
    List.drop_left]

/-- One line takes its quantity from the product it names. -/
theorem stock_takeLine {t : Table Product} {p : Row Product} (member : p ∈ t.rows)
    (line : InvoiceItem) :
    ∃ q ∈ (Sale.takeLine t line).rows, q.id = p.id ∧
      q.cols.stockQuantity = p.cols.stockQuantity - soldIn p.id [line] := by
  by_cases product : line.itemType = "product"
  · rw [Sale.takeLine, if_pos product]
    refine ⟨_, Table.mem_modify.mpr ⟨p, member, rfl⟩, ?_⟩
    by_cases named : line.itemId = .num p.id
    · rw [if_pos (byId_iff.mpr named.symm)]
      refine ⟨rfl, ?_⟩
      have sold : soldIn p.id [line] = line.quantity := by simp [soldIn, product, named]
      rw [sold]
      rfl
    · rw [if_neg fun hit => named (byId_iff.mp hit).symm]
      exact ⟨rfl, by simp [soldIn, named]⟩
  · rw [Sale.takeLine, if_neg product]
    exact ⟨p, member, rfl, by simp [soldIn, product]⟩

/-- The lines of a cart, whether or not several of them name the product. -/
theorem stock_takeLines (lines : List InvoiceItem) {t : Table Product} {p : Row Product}
    (member : p ∈ t.rows) :
    ∃ q ∈ (lines.foldl Sale.takeLine t).rows, q.id = p.id ∧
      q.cols.stockQuantity = p.cols.stockQuantity - soldIn p.id lines := by
  induction lines generalizing t p with
  | nil => exact ⟨p, member, rfl, by simp [soldIn]⟩
  | cons line lines ih =>
    obtain ⟨mid, midMember, midId, midStock⟩ := stock_takeLine member line
    obtain ⟨q, qMember, qId, qStock⟩ := ih midMember
    refine ⟨q, qMember, qId.trans midId, ?_⟩
    have split : soldIn p.id (line :: lines) = soldIn p.id [line] + soldIn p.id lines :=
      soldIn_append [line] lines
    rw [qStock, midStock, midId, split]
    ring

theorem ids_takeLines {lines : List InvoiceItem} {t : Table Product} {q : Row Product}
    (member : q ∈ (lines.foldl Sale.takeLine t).rows) : ∃ p ∈ t.rows, p.id = q.id := by
  induction lines generalizing t with
  | nil => exact ⟨q, member, rfl⟩
  | cons line lines ih =>
    obtain ⟨mid, midMember, midId⟩ := ih member
    unfold Sale.takeLine at midMember
    split at midMember
    · obtain ⟨p, pMember, rfl⟩ := Table.mem_modify.mp midMember
      refine ⟨p, pMember, ?_⟩
      split at midId <;> exact midId
    · exact ⟨mid, midMember, midId⟩

end Lines

section Steps

variable {php : Platform} {e : Event} {db : Db} {p : Row Product}

theorem adjustment_cases (php : Platform) (id : Nat) (e : Event) :
    (adjustment php id e = quantityOf e ∧ Asks e "inventory_stock" ["POST"] ∧
      (arg e "id").key = .num id ∧ ∃ payload, Passes php e [.admin, .receptionist] payload) ∨
    (adjustment php id e = 0 ∧ ∀ payload, Asks e "inventory_stock" ["POST"] →
      Passes php e [.admin, .receptionist] payload → (arg e "id").key ≠ .num id) := by
  unfold adjustment
  split
  · rename_i adjusts
    exact .inl ⟨rfl, adjusts.1, adjusts.2.2, exists_passes adjusts.2.1⟩
  · rename_i other
    refine .inr ⟨rfl, fun payload asked checked key => other ⟨asked, ?_, key⟩⟩
    rw [Passes] at checked
    rw [checked]
    rfl

theorem extends_items (php : Platform) (e : Event) (db : Db) :
    db.invoiceItems.Extends (request php e db).invoiceItems :=
  (serve_served php e db).writes.rows.invoiceItems

/-- What one request does to the stock of a product. -/
theorem stock_request (php : Platform) (e : Event) (member : p ∈ db.products.rows) :
    ∃ q ∈ (request php e db).products.rows, q.id = p.id ∧
      q.cols.stockQuantity = p.cols.stockQuantity + adjustment php p.id e -
        soldIn p.id (linesSince db (request php e db)) := by
  rcases adjustment_cases php p.id e with ⟨added, asked, key, payload, checked⟩ | ⟨zero, other⟩
  · have named : (arg e "id").empty = false := by
      rw [Val.empty, truthy_of_key (db.products.ids_range p member).1 key]
      rfl
    have result : request php e db = (stockOf e db).2 := serve_stock asked checked named
    have unsold : linesSince db (request php e db) = [] := linesSince_self (by rw [result]; rfl)
    rw [unsold, added, result]
    refine ⟨_, Table.mem_modify.mpr ⟨p, member, rfl⟩, ?_⟩
    rw [if_pos (byId_iff.mpr key.symm)]
    exact ⟨rfl, (sub_zero _).symm⟩
  · have still : ∀ {after : Db}, after.invoiceItems = db.invoiceItems → p ∈ after.products.rows →
        ∃ q ∈ after.products.rows, q.id = p.id ∧ q.cols.stockQuantity =
          p.cols.stockQuantity + adjustment php p.id e - soldIn p.id (linesSince db after) := by
      intro after items present
      refine ⟨p, present, rfl, ?_⟩
      rw [linesSince_self items, zero, add_zero]
      exact (sub_zero _).symm
    have change : BooksChange php e db (request php e db) := (serve_served php e db).books_cases
    cases change with
    | same invoices items clients products => exact still items (products ▸ member)
    | client c unspent invoices items clients products => exact still items (products ▸ member)
    | product asked new stocked invoices items clients products =>
      refine still items ?_
      rw [products]
      exact Table.mem_insert.mpr (.inl member)
    | stock asked checked invoices items clients products =>
      refine still items ?_
      rw [products]
      refine Table.mem_modify.mpr ⟨p, member, (if_neg fun hit => ?_).symm⟩
      exact other _ asked checked (byId_iff.mp hit).symm
    | sale sale sound source invoices items clients products =>
      rw [products, linesSince_sale items, zero, add_zero]
      exact stock_takeLines sale.lines member

/-- The same over a run. -/
theorem stock_run (php : Platform) (events : List Event) (member : p ∈ db.products.rows) :
    ∃ q ∈ (run (request php) db events).products.rows, q.id = p.id ∧
      q.cols.stockQuantity = p.cols.stockQuantity + (events.map (adjustment php p.id)).sum -
        soldIn p.id (linesSince db (run (request php) db events)) := by
  induction events generalizing db p with
  | nil =>
    refine ⟨p, member, rfl, ?_⟩
    rw [run_nil, linesSince_self rfl, List.map_nil, List.sum_nil, add_zero]
    exact (sub_zero _).symm
  | cons e events ih =>
    obtain ⟨mid, midMember, midId, midStock⟩ := stock_request php e member
    obtain ⟨q, qMember, qId, qStock⟩ := ih midMember
    have grows : (request php e db).invoiceItems.Extends
        (run (request php) (request php e db) events).invoiceItems :=
      run_keeps (P := fun after => (request php e db).invoiceItems.Extends after.invoiceItems)
        (fun e after more => more.trans (extends_items php e after)) (.refl _) events
    refine ⟨q, qMember, qId.trans midId, ?_⟩
    rw [run_cons, linesSince_trans (extends_items php e db) grows, soldIn_append, qStock, midStock,
      midId, List.map_cons, List.sum_cons]
    ring

end Steps

section Creation

/-- The product is there from the start, or `first` ends with the request that adds it,
with the quantity that the request gives. -/
def Created (php : Platform) (hash : String → String) (clock : Clock) (first : List Event)
    (p : Row Product) : Prop :=
  p ∈ (afterRun php hash clock first).products.rows ∧
    (first = [] ∨ ∃ before e, first = before ++ [e] ∧ Asks e "inventory" ["POST"] ∧
      (∀ r ∈ (afterRun php hash clock before).products.rows, r.id ≠ p.id) ∧
      p.cols.stockQuantity = (argOr e "stock_quantity" (.float 0)).floatval)

variable {php : Platform} {hash : String → String} {clock : Clock}

theorem exists_creation (events : List Event) {q : Row Product}
    (member : q ∈ (afterRun php hash clock events).products.rows) :
    ∃ first rest p, events = first ++ rest ∧ Created php hash clock first p ∧ p.id = q.id := by
  induction events using List.reverseRecOn generalizing q with
  | nil => exact ⟨[], [], q, rfl, ⟨member, .inl rfl⟩, rfl⟩
  | append_singleton before e ih =>
    have last : afterRun php hash clock (before ++ [e]) =
        request php e (afterRun php hash clock before) := afterRun_append _ _ _ _ _
    by_cases old : ∃ r ∈ (afterRun php hash clock before).products.rows, r.id = q.id
    · obtain ⟨r, rMember, rId⟩ := old
      obtain ⟨first, rest, p, rfl, created, pId⟩ := ih rMember
      exact ⟨first, rest ++ [e], p, by rw [List.append_assoc], created, pId.trans rId⟩
    · have change : BooksChange php e (afterRun php hash clock before)
          (afterRun php hash clock (before ++ [e])) := by
        rw [last]
        exact (serve_served php e _).books_cases
      have new : ∀ r ∈ (afterRun php hash clock before).products.rows, r.id ≠ q.id :=
        fun r rMember same => old ⟨r, rMember, same⟩
      refine ⟨before ++ [e], [], q, by rw [List.append_nil], ⟨member, .inr ?_⟩, rfl⟩
      cases change with
      | same invoices items clients products | client c unspent invoices items clients products =>
        rw [products] at member
        exact absurd rfl (new q member)
      | product asked p stocked invoices items clients products =>
        rw [products] at member
        rcases Table.mem_insert.mp member with present | rfl
        · exact absurd rfl (new q present)
        · exact ⟨before, e, rfl, asked, new, stocked⟩
      | stock asked checked invoices items clients products =>
        rw [products] at member
        obtain ⟨r, rMember, rfl⟩ := Table.mem_modify.mp member
        refine absurd ?_ (new r rMember)
        split <;> rfl
      | sale sale sound source invoices items clients products =>
        rw [products] at member
        obtain ⟨r, rMember, rId⟩ := ids_takeLines member
        exact absurd rId (new r rMember)

/-- A status update takes nothing from the stock: what it bills is a service. -/
theorem products_of_statusUpdate {e : Event} {db : Db}
    (asked : Asks e "appointments_update" ["POST", "PUT"]) :
    (serve php e db).db.products = db.products := by
  cases (serve_served php e db).books_cases with
  | same invoices items clients products => exact products
  | client c unspent invoices items clients products => exact products
  | product asks p stocked invoices items clients products => exact absurd asks (asked.ne (by decide))
  | stock asks checked invoices items clients products => exact absurd asks (asked.ne (by decide))
  | sale sale sound source invoices items clients products =>
    cases source with
    | checkout asks accepted unbound appointments => exact absurd asks (asked.ne (by decide))
    | completion a member asks completed key bound services appointments stylists uninvoiced checked payment =>
      rw [products]
      exact takeLines_services _ services

end Creation

/-- After every run the stock of each product is its quantity at creation, with the later
adjustments to it, less what the lines committed since then took of it; no completion and
no rejected checkout touches the products. -/
theorem stock_conserved (php : Platform) (hash : String → String) (clock : Clock)
    (events : List Event) :
    let db := afterRun php hash clock events
    (∀ q ∈ db.products.rows, ∃ first rest p, events = first ++ rest ∧
      Created php hash clock first p ∧ p.id = q.id ∧
      q.cols.stockQuantity = p.cols.stockQuantity + (rest.map (adjustment php q.id)).sum -
        soldIn q.id (linesSince (afterRun php hash clock first) db)) ∧
    ∀ e, Asks e "appointments_update" ["POST", "PUT"] ∨
        Asks e "checkout" ["POST"] ∧ ¬ Accepted php e db →
      (serve php e db).db.products = db.products := by
  intro db
  constructor
  · intro q member
    obtain ⟨first, rest, p, split, created, pId⟩ := exists_creation events member
    refine ⟨first, rest, p, split, created, pId, ?_⟩
    have whole : db = run (request php) (afterRun php hash clock first) rest := by
      rw [← afterRun_append, ← split]
    obtain ⟨r, rMember, rId, stock⟩ := stock_run php rest created.1
    rw [← whole] at rMember stock
    rw [← db.products.eq_of_id_eq rMember member (rId.trans pId), rId]
    exact stock
  · rintro e (asked | ⟨asked, rejected⟩)
    · exact products_of_statusUpdate asked
    · rw [(checkout_rejected asked rejected).2]

end Saloon.Guarantees
