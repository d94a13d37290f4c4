import Mathlib.Data.List.Induction
import Saloon.Guarantees.StylistIdentity
import Saloon.Source.CartTotal

/-!
# The cart that is shown is the invoice that is charged

Whatever the user clicks, the cart has one row for an article, the row counts the
units that were put in since it appeared, and the amount under the cart is the
`total_amount` of the invoice that a checkout of it stores, rounded to cents.
-/
namespace Saloon.Guarantees

open Lib Source

/-- A unit more or fewer of an article. -/
inductive Move where
  | more (a : Article)
  | fewer (a : Article)
  deriving DecidableEq

/-- What a call counts up or down. -/
def moves (c : CartCall) (t : Till) : List Move :=
  match c with
  | .addCartItem itemType itemId _ _ => [.more (itemType, itemId)]
  | .plus index => t.screen.items[index]?.toList.map fun item => .more item.article
  | .minus index => t.screen.items[index]?.toList.map fun item => .fewer item.article
  | _ => []

/-- Additions minus subtractions. -/
def net (a : Article) (moves : List Move) : Int :=
  (moves.count (.more a) : Int) - moves.count (.fewer a)

/-- The cart has a row of the article. -/
def Has (t : Till) (a : Article) : Prop := ∃ item ∈ t.screen.items, item.article = a

/-- The row was created by a call of the run and has been there since, and its quantity is
one and what was counted since. -/
def CountedSince (start : Till) (calls : List CartCall) (item : CartItem) : Prop :=
  ∃ before after,
    calls = before ++ .addCartItem item.itemType item.itemId item.name item.price :: after ∧
    ¬ Has (run Till.call start before) item.article ∧
    (∀ first, first <+: after → Has (run Till.call start (before ++
      .addCartItem item.itemType item.itemId item.name item.price :: first)) item.article) ∧
    item.quantity = 1 + net item.article (emitted Till.call moves (run Till.call start (before ++
      [.addCartItem item.itemType item.itemId item.name item.price])) after)

section Calls

variable {t : Till} {items : List CartItem} {counted : List Move} {i : Nat} {item : CartItem}

/-- The row after a call, from the one before: only its quantity and its stylist change. -/
structure Continues (counted : List Move) (item item' : CartItem) : Prop where
  itemType : item'.itemType = item.itemType
  itemId : item'.itemId = item.itemId
  name : item'.name = item.name
  price : item'.price = item.price
  quantity : item'.quantity = item.quantity + net item.article counted

/-- The row was not there before the call. -/
structure Starts (c : CartCall) (t : Till) (item' : CartItem) : Prop where
  created : c = .addCartItem item'.itemType item'.itemId item'.name item'.price
  absent : ¬ Has t item'.article
  quantity : item'.quantity = 1

theorem Continues.refl {item : CartItem} (still : net item.article counted = 0) :
    Continues counted item item :=
  ⟨rfl, rfl, rfl, rfl, by rw [still, add_zero]⟩

@[simp] theorem net_nil (a : Article) : net a [] = 0 := rfl

@[simp] theorem net_more (a b : Article) : net a [.more b] = if b = a then 1 else 0 := by
  by_cases same : b = a <;> simp [net, same]

@[simp] theorem net_fewer (a b : Article) : net a [.fewer b] = if b = a then -1 else 0 := by
  by_cases same : b = a <;> simp [net, same]

theorem net_append (a : Article) (first second : List Move) :
    net a (first ++ second) = net a first + net a second := by
  simp only [net, List.count_append, Nat.cast_add]
  ring

/-- Distinct rows with something in them. -/
structure Proper (items : List CartItem) : Prop where
  distinct : DistinctKeys CartItem.article items
  positive : ∀ item ∈ items, 0 < item.quantity

/-- One row changes by what was counted, and nothing was counted of the others. -/
theorem proper_modify {f : CartItem → CartItem} (keeps : ∀ item, (f item).article = item.article)
    (proper : Proper items) (present : items[i]? = some item) (some : 0 < (f item).quantity)
    (changed : Continues counted item (f item)) (others : ∀ a ≠ item.article, net a counted = 0) :
    Proper (items.modify i f) ∧
      ∀ item' ∈ items.modify i f, ∃ old ∈ items, Continues counted old item' := by
  refine ⟨⟨proper.distinct.modify keeps i, fun item' member => ?_⟩, fun item' member => ?_⟩
  · rcases proper.distinct.mem_modify present member with rfl | ⟨old, -⟩
    · exact some
    · exact proper.positive item' old
  · rcases proper.distinct.mem_modify present member with rfl | ⟨old, other⟩
    · exact ⟨item, List.mem_of_getElem? present, changed⟩
    · exact ⟨item', old, .refl (others _ other)⟩

theorem proper_eraseIdx (proper : Proper items) (present : items[i]? = some item)
    (others : ∀ a ≠ item.article, net a counted = 0) :
    Proper (items.eraseIdx i) ∧
      ∀ item' ∈ items.eraseIdx i, ∃ old ∈ items, Continues counted old item' := by
  have stood := fun item' => @DistinctKeys.mem_eraseIdx _ _ _ _ i item item' proper.distinct present
  refine ⟨⟨proper.distinct.eraseIdx i, fun item' member => ?_⟩, fun item' member => ?_⟩
  · exact proper.positive item' (stood item' member).1
  · exact ⟨item', (stood item' member).1, .refl (others _ (stood item' member).2)⟩

theorem proper_append (proper : Proper items) (absent : ∀ old ∈ items, old.article ≠ item.article)
    (one : item.quantity = 1) : Proper (items ++ [item]) := by
  refine ⟨proper.distinct.append absent, fun item' member => ?_⟩
  rcases List.mem_append.mp member with old | new
  · exact proper.positive item' old
  · rw [List.mem_singleton.mp new, one]
    exact one_pos

/-- What one call does to the rows. -/
def Called (c : CartCall) (t : Till) : Prop :=
  Proper (t.call c).screen.items ∧ ∀ item' ∈ (t.call c).screen.items,
    (∃ item ∈ t.screen.items, Continues (moves c t) item item') ∨ Starts c t item'

theorem called_of_items {c : CartCall} {after : List CartItem}
    (same : (t.call c).screen.items = after)
    (rows : Proper after ∧ ∀ item' ∈ after, ∃ item ∈ t.screen.items,
      Continues (moves c t) item item') : Called c t := by
  rw [Called, same]
  exact ⟨rows.1, fun item' member => .inl (rows.2 item' member)⟩

theorem found_article {itemType : String} {itemId : Int}
    (found : t.screen.posCart.findIdx? (Screen.sameItem itemType itemId) = some i) :
    ∃ item, t.screen.items[i]? = some item ∧ item.article = (itemType, itemId) := by
  obtain ⟨bound, same, -⟩ := List.findIdx?_eq_some_iff_getElem.mp found
  refine ⟨t.screen.posCart[i].item, ?_, ?_⟩
  · rw [Screen.items, List.getElem?_map, List.getElem?_eq_getElem bound]
    rfl
  · simpa [Screen.sameItem, CartItem.article] using same

theorem not_has_of_absent {itemType : String} {itemId : Int}
    (absent : t.screen.posCart.findIdx? (Screen.sameItem itemType itemId) = none) :
    ¬ Has t (itemType, itemId) := by
  rintro ⟨item, member, same⟩
  obtain ⟨line, inCart, rfl⟩ := List.mem_map.mp member
  have different := List.findIdx?_eq_none_iff.mp absent line inCart
  simp only [CartItem.article, Prod.mk.injEq] at same
  simp [Screen.sameItem, same] at different

theorem called_addCartItem (proper : Proper t.screen.items) (itemType : String) (itemId : Int)
    (name : String) (price : Rat) : Called (.addCartItem itemType itemId name price) t := by
  cases search : t.screen.posCart.findIdx? (Screen.sameItem itemType itemId) with
  | some i =>
    obtain ⟨item, present, same⟩ := found_article search
    have before := proper.positive item (List.mem_of_getElem? present)
    refine called_of_items (items_addCartItem_again name price search)
      (proper_modify (fun _ => rfl) proper present ?_ ⟨rfl, rfl, rfl, rfl, ?_⟩ fun a other => ?_)
    · simp only [CartItem.withQuantity]
      omega
    · simp [CartItem.withQuantity, moves, same]
    · simp [moves, ← same, Ne.symm other]
  | none =>
    have absent := not_has_of_absent search
    have after : (t.call (.addCartItem itemType itemId name price)).screen.items = _ :=
      items_addCartItem_new name price search
    rw [Called, after]
    refine ⟨proper_append proper (fun old member same => absent ⟨old, member, same⟩) rfl,
      fun item' member => ?_⟩
    rcases List.mem_append.mp member with old | new
    · have other : (itemType, itemId) ≠ item'.article := fun same => absent ⟨item', old, same.symm⟩
      exact .inl ⟨item', old, .refl (by simp [moves, other])⟩
    · rw [List.mem_singleton.mp new]
      exact .inr ⟨rfl, absent, rfl⟩

/-- A button of a row that is there counts the row, or takes it away. -/
theorem called_countButton {c : CartCall} {index : Nat} {d : Int} (proper : Proper t.screen.items)
    (calls : t.call c = t.countButton index d)
    (counts : ∀ item, t.screen.items[index]? = some item → net item.article (moves c t) = d ∧
      ∀ a ≠ item.article, net a (moves c t) = 0)
    (none : t.screen.items[index]? = none → moves c t = []) : Called c t := by
  cases present : t.screen.posCart[index]? with
  | none =>
    have row : t.screen.items[index]? = Option.none := by
      rw [Screen.items, List.getElem?_map, present]
      rfl
    have same : (t.call c).screen.items = t.screen.items := by
      rw [calls, Till.countButton, present]
    exact called_of_items same
      ⟨proper, fun item member => ⟨item, member, .refl (by rw [none row, net_nil])⟩⟩
  | some line =>
    have row : t.screen.items[index]? = some line.item := by
      rw [Screen.items, List.getElem?_map, present]
      rfl
    obtain ⟨counted, others⟩ := counts line.item row
    have pressed : t.call c = .drawn (t.screen.changeCartQty index (line.item.quantity + d)) := by
      rw [calls, Till.countButton, present]
    have after := items_changeCartQty (line.item.quantity + d) present
    refine called_of_items ((congrArg (fun t : Till => t.screen.items) pressed).trans after) ?_
    split
    · exact proper_eraseIdx proper row others
    · refine proper_modify (fun _ => rfl) proper row ?_ ⟨rfl, rfl, rfl, rfl, ?_⟩ others
      · simp only [CartItem.withQuantity]
        omega
      · rw [counted]
        rfl

theorem called (proper : Proper t.screen.items) (c : CartCall) : Called c t := by
  cases c with
  | addCartItem itemType itemId name price =>
    exact called_addCartItem proper itemType itemId name price
  | plus index | minus index =>
    refine called_countButton proper rfl (fun item present => ?_) fun absent => ?_
    · rw [moves, present]
      exact ⟨by simp, fun a other => by simp [Ne.symm other]⟩
    · rw [moves, absent]
      rfl
  | removeCartItem index =>
    have after : (t.call (.removeCartItem index)).screen.items = t.screen.items.eraseIdx index :=
      items_removeCartItem index t.screen
    refine called_of_items after ?_
    cases present : t.screen.items[index]? with
    | none =>
      rw [List.eraseIdx_of_length_le (List.getElem?_eq_none_iff.mp present)]
      exact ⟨proper, fun item member => ⟨item, member, .refl rfl⟩⟩
    | some item => exact proper_eraseIdx proper present fun _ _ => rfl
  | changeCartStylist index value =>
    have after : (t.call (.changeCartStylist index value)).screen.items =
        t.screen.items.modify index fun item => item.withStylist (.parseInt value) :=
      items_changeCartStylist index value t.screen
    refine called_of_items after ?_
    cases present : t.screen.items[index]? with
    | none =>
      rw [List.modify_eq_self (List.getElem?_eq_none_iff.mp present)]
      exact ⟨proper, fun item member => ⟨item, member, .refl rfl⟩⟩
    | some item =>
      refine proper_modify (fun _ => rfl) proper present ?_ ⟨rfl, rfl, rfl, rfl, ?_⟩ fun _ _ => rfl
      · exact proper.positive item (List.mem_of_getElem? present)
      · exact (add_zero _).symm

/-- No call changes what the page shows but with the cart. -/
theorem total_call (c : CartCall) (same : t.total = cartTotal t.screen.items) :
    (t.call c).total = cartTotal (t.call c).screen.items := by
  have button (index : Nat) (d : Int) :
      (t.countButton index d).total = cartTotal (t.countButton index d).screen.items := by
    rw [Till.countButton]
    split
    · exact same
    · rfl
  cases c with
  | addCartItem itemType itemId name price => rfl
  | plus index => exact button index 1
  | minus index => exact button index (-1)
  | removeCartItem index => rfl
  | changeCartStylist index value =>
    have after : (t.call (.changeCartStylist index value)).screen.items =
        t.screen.items.modify index fun item => item.withStylist (.parseInt value) :=
      items_changeCartStylist index value t.screen
    have amounts : (t.screen.items.modify index fun item => item.withStylist (.parseInt value)).map
        CartItem.amount = t.screen.items.map CartItem.amount := map_modify_same _ _ fun _ => rfl
    rw [after, cartTotal_eq_sum, amounts, ← cartTotal_eq_sum]
    exact same

end Calls

section Runs

variable {start : Till} {calls : List CartCall} {item : CartItem}

theorem proper_run (proper : Proper start.screen.items) (calls : List CartCall) :
    Proper (run Till.call start calls).screen.items :=
  run_keeps (P := fun t : Till => Proper t.screen.items) (fun c _ kept => (called kept c).1) proper
    calls

theorem CountedSince.started {c : CartCall}
    (member : item ∈ (run Till.call start (calls ++ [c])).screen.items)
    (starts : Starts c (run Till.call start calls) item) :
    CountedSince start (calls ++ [c]) item := by
  obtain ⟨rfl, absent, one⟩ := starts
  refine ⟨calls, [], rfl, absent, fun first before => ?_, ?_⟩
  · rw [List.prefix_nil.mp before]
    exact ⟨item, member, rfl⟩
  · rw [one]
    rfl

theorem CountedSince.continued {c : CartCall} {item' : CartItem}
    (since : CountedSince start calls item)
    (member : item' ∈ (run Till.call start (calls ++ [c])).screen.items)
    (continues : Continues (moves c (run Till.call start calls)) item item') :
    CountedSince start (calls ++ [c]) item' := by
  obtain ⟨_, _, _, _, quantity, stylist⟩ := item
  obtain ⟨itemType, itemId, name, price, quantity', stylist'⟩ := item'
  obtain ⟨sameType, sameId, sameName, samePrice, counted⟩ := continues
  dsimp only at sameType sameId sameName samePrice
  subst sameType sameId sameName samePrice
  obtain ⟨before, after, rfl, absent, stayed, sum⟩ := since
  refine ⟨before, after ++ [c], by simp, absent, fun first within => ?_, ?_⟩
  · rcases List.prefix_concat_iff.mp within with whole | earlier
    · rw [whole]
      exact ⟨_, by simpa using member, rfl⟩
    · exact stayed first earlier
  · have joined : run Till.call start (before ++ .addCartItem itemType itemId name price :: after) =
        run Till.call (run Till.call start (before ++ [.addCartItem itemType itemId name price]))
          after := by
      rw [← run_append, List.append_assoc, List.singleton_append]
    dsimp only at counted sum ⊢
    rw [counted, sum, emitted_append, net_append, joined]
    simp only [emitted, List.append_nil]
    exact add_assoc ..

/-- From an empty cart: every row counts what was put in since it appeared. -/
theorem counted_since (empty : start.screen.items = []) (calls : List CartCall) :
    ∀ item ∈ (run Till.call start calls).screen.items, CountedSince start calls item := by
  have proper : Proper start.screen.items := by
    rw [empty]
    exact ⟨List.nodup_nil, fun _ none => (List.not_mem_nil none).elim⟩
  induction calls using List.reverseRecOn with
  | nil =>
    intro item member
    rw [run_nil, empty] at member
    cases member
  | append_singleton calls c ih =>
    intro item' member
    have within := member
    rw [run_append] at within
    rcases (called (proper_run proper calls) c).2 item' within with ⟨item, old, continues⟩ | starts
    · exact (ih item old).continued member continues
    · exact .started member starts

/-- The amount of an item is what the server makes of its JSON. -/
theorem itemAmount_json (item : CartItem) : Invoice.itemAmount item.json = item.amount := by
  have price : (jsonNumber item.price).floatval = item.price := by
    unfold jsonNumber
    split
    · rename_i whole
      exact (Rat.den_eq_one_iff _).mp whole
    · rfl
  exact congrArg (fun q : Rat => q * item.quantity) price

theorem total_posted (items : List CartItem) :
    Invoice.total (items.map CartItem.json) = cartTotal items := by
  rw [cartTotal_eq_sum, Invoice.total, List.map_map]
  exact congrArg List.sum (List.map_congr_left fun item _ => itemAmount_json item)

theorem elems_payload (s : Screen) : (s.payload.field "items").elems = s.items.map CartItem.json := by
  have items : s.payload.field "items" = .list (s.posCart.map fun line => line.item.json) := rfl
  rw [items, Val.elems_list, Screen.items, List.map_map]
  rfl

/-- A sale stores an invoice over the total of the cart that was posted. -/
theorem invoice_of_sells {e : Event} {screen : Screen} {payload : Val} {db after : Db}
    (sells : Sells e screen payload db after) : ∃ invoice,
      after.invoices = db.invoices.insert invoice ∧ invoice.totalAmount = cartTotal screen.items := by
  obtain ⟨sent, invoiceId, done⟩ := sells
  obtain ⟨sale, drawers, -, charged, rfl⟩ := Invoice.checkoutStatements_eq_ok done
  refine ⟨sale.invoice e.clock, rfl, ?_⟩
  have items : (argOr e "items" (.arr [])).elems = screen.items.map CartItem.json := by
    rw [← elems_payload, argOr, sent]
    rfl
  rw [Sale.invoice, charged.total, items, total_posted]

end Runs

/-- For every sequence of calls on a page just drawn: the cart has at most one row for a type
and an id; every quantity is positive, and one and what the buttons and clicks counted since
its row was created; the total of the page is what `createCheckout` computes for the posted
cart and stores with its invoice; the text shows it to two decimals, at most half a cent
away, and with prices in whole cents just that. -/
theorem cart_shown_is_charged (staff : List Val) (calls : List CartCall) :
    let t := run Till.call (Till.opened staff) calls
    (t.screen.items.map CartItem.article).Nodup ∧
      (∀ item ∈ t.screen.items,
        0 < item.quantity ∧ CountedSince (Till.opened staff) calls item) ∧
      (∀ db, Invoice.addItems 0 (t.screen.payload.field "items").elems db = (.ok t.total, db)) ∧
      (∀ client selectedPaymentMethod e payload db after,
        Sells e { t.screen with client, selectedPaymentMethod } payload db after →
          ∃ invoice, after.invoices = db.invoices.insert invoice ∧
            invoice.totalAmount = t.total ∧ t.shown = toFixed2 invoice.totalAmount) ∧
      |t.shown - t.total| ≤ 1 / 200 ∧
      ((∀ item ∈ t.screen.items, ∃ cents : Int, item.price = cents / 100) → t.shown = t.total) := by
  intro t
  have empty : (Till.opened staff).screen.items = [] := items_opened staff
  have proper : Proper t.screen.items := by
    refine proper_run ?_ calls
    rw [empty]
    exact ⟨List.nodup_nil, fun _ none => (List.not_mem_nil none).elim⟩
  have total : t.total = cartTotal t.screen.items :=
    run_keeps (P := fun t : Till => t.total = cartTotal t.screen.items)
      (fun c _ same => total_call c same) rfl calls
  refine ⟨proper.distinct, fun item member => ⟨proper.positive item member,
    counted_since empty calls item member⟩, fun db => ?_, fun client method e payload db after sells =>
      ?_, toFixed2_near t.total, fun cents => ?_⟩
  · rw [elems_payload, Invoice.addItems_run, total_posted, zero_add, total]
    intro posted member s text
    obtain ⟨item, -, rfl⟩ := List.mem_map.mp member
    cases text
  · obtain ⟨invoice, stored, amount⟩ := invoice_of_sells sells
    have same : invoice.totalAmount = t.total := amount.trans total.symm
    exact ⟨invoice, stored, same, by rw [same, Till.shown]⟩
  · obtain ⟨n, sum⟩ := cartTotal_cents cents
    rw [Till.shown, total, sum, toFixed2_cents]

/-- The desk offers a trim at 10.005. -/
def offerTrim : Event := adminRequest "services" "POST"
  [("name", .str "Trim"), ("duration_mins", .int 15), ("price", .float (2001 / 200)),
    ("category", .str "Hair")]

/-- A cart with the trim, at the price that is stored. -/
def trimCart : Till := run Till.call (Till.opened []) [.addCartItem "service" 7 "Trim" (2001 / 200)]

/-- The checkout of that cart. -/
def sellTrim : Event :=
  let e := adminRequest "checkout" "POST" []
  { e with request := { e.request with body := trimCart.screen.payload } }

/-- Two decimals do not show 10.005: the page has one amount and the invoice another. -/
theorem trim_shown_rounded :
    (∃ s ∈ (afterRun recorded (fun _ => adminHash) morning [offerTrim]).services.rows,
      s.id = 7 ∧ s.cols.price = 2001 / 200) ∧
    ∃ i ∈ (afterRun recorded (fun _ => adminHash) morning [offerTrim, sellTrim]).invoices.rows,
      i.cols.totalAmount = 2001 / 200 ∧ trimCart.shown ≠ i.cols.totalAmount := by decide +kernel

/-- The wax goes with its only unit; the haircut stays and is counted on. -/
example : ((run Till.call (Till.opened [])
    [.addCartItem "service" 1 "Haircut" 45, .plus 0, .addCartItem "product" 1 "Hair Wax" 18,
      .minus 0, .minus 1, .addCartItem "service" 1 "Haircut" 45]).screen.items.map
        CartItem.quantity) = [2] := by decide +kernel

end Saloon.Guarantees
