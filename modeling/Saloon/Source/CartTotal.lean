import Mathlib.Algebra.Order.Floor.Ring
import Mathlib.Data.Rat.Floor
import Saloon.Lib.Keyed
import Saloon.Source.PosScreen

/-!
# The total under the cart

`js/app.js:774-850`: every call that changes what the cart costs ends in
`updateCartUI`, which adds the rows up again and writes the amount. The buttons of a
row call `changeCartQty` with the quantity that the row shows, plus or minus one.
-/
namespace Saloon.Source

open Lib

/-- What makes two rows of the cart one. -/
abbrev Article : Type := String × Int

def CartItem.article (item : CartItem) : Article := (item.itemType, item.itemId)

/-- What the user's clicks call; the text of a stylist option may be any. -/
inductive CartCall where
  | addCartItem (itemType : String) (itemId : Int) (name : String) (price : Rat)
  | plus (index : Nat)
  | minus (index : Nat)
  | removeCartItem (index : Nat)
  | changeCartStylist (index : Nat) (value : String)

namespace Screen

/-- `posCart` without its rows on the page. -/
def items (s : Screen) : List CartItem := s.posCart.map Line.item

end Screen

/-- `parseFloat(item.price) * item.quantity`. -/
def CartItem.amount (item : CartItem) : Rat := item.price * item.quantity

/-- `total += ...` over the cart, from zero. -/
def cartTotal (items : List CartItem) : Rat :=
  items.foldl (fun total item => total + item.amount) 0

/-- The amount that `x.toFixed(2)` writes: the nearest cents, a tie away from zero, and the
number itself from 10^21 on. `x` is the exact total; JavaScript rounds the double that
stands for it, so at a tie such as 10.005 the last digit may be one less. -/
def toFixed2 (x : Rat) : Rat :=
  if 10 ^ 21 ≤ |x| then x
  else if x < 0 then -(⌊-x * 100 + 1 / 2⌋ / 100)
  else ⌊x * 100 + 1 / 2⌋ / 100

/-- The POS page with the number that `pos-total-amount` was last written from. -/
structure Till where
  screen : Screen
  total : Rat

namespace Till

/-- The amount that the page shows. -/
def shown (t : Till) : Rat := toFixed2 t.total

/-- The page after a call that ends in `updateCartUI`. -/
def drawn (screen : Screen) : Till := ⟨screen, cartTotal screen.items⟩

/-- The page as `renderCheckout` leaves it. -/
def opened (staff : List Val) : Till := drawn (Screen.opened staff)

/-- A button of a row; without the row there is no button. -/
def countButton (index : Nat) (d : Int) (t : Till) : Till :=
  match t.screen.posCart[index]? with
  | none => t
  | some line => drawn (t.screen.changeCartQty index (line.item.quantity + d))

def call (c : CartCall) (t : Till) : Till :=
  match c with
  | .addCartItem itemType itemId name price =>
    drawn (t.screen.addCartItem itemType itemId name price)
  | .plus index => t.countButton index 1
  | .minus index => t.countButton index (-1)
  | .removeCartItem index => drawn (t.screen.removeCartItem index)
  | .changeCartStylist index value => { t with screen := t.screen.changeCartStylist index value }

end Till

section Specs

/-! The calls on `items`: how a row is drawn makes no difference to them. -/

namespace CartItem

variable (item : CartItem)

def withQuantity (quantity : Int) : CartItem := { item with quantity }

def withStylist (stylistId : JsId) : CartItem := { item with stylistId }

@[simp] theorem article_withQuantity (quantity : Int) :
    (item.withQuantity quantity).article = item.article := rfl

@[simp] theorem article_withStylist (id : JsId) : (item.withStylist id).article = item.article := rfl

end CartItem

variable {s : Screen} {items : List CartItem}

theorem items_updateCartUI (s : Screen) : s.updateCartUI.items = s.items := by
  rw [Screen.items, Screen.updateCartUI, List.map_map]
  rfl

theorem items_opened (staff : List Val) : (Screen.opened staff).items = [] := rfl

/-- A click on an article that is in the cart. -/
theorem items_addCartItem_again {itemType : String} {itemId : Int} {i : Nat} (name : String)
    (price : Rat) (found : s.posCart.findIdx? (Screen.sameItem itemType itemId) = some i) :
    (s.addCartItem itemType itemId name price).items =
      s.items.modify i fun item => item.withQuantity (item.quantity + 1) := by
  rw [Screen.addCartItem, items_updateCartUI, Screen.items, found]
  exact map_modify _ _ fun line => rfl

theorem items_addCartItem_new {itemType : String} {itemId : Int} (name : String) (price : Rat)
    (absent : s.posCart.findIdx? (Screen.sameItem itemType itemId) = none) :
    (s.addCartItem itemType itemId name price).items =
      s.items ++ [⟨itemType, itemId, name, price, 1, s.firstStylist⟩] := by
  rw [Screen.addCartItem, items_updateCartUI, Screen.items, absent]
  exact List.map_append

theorem items_removeCartItem (index : Nat) (s : Screen) :
    (s.removeCartItem index).items = s.items.eraseIdx index := by
  rw [Screen.removeCartItem, items_updateCartUI, Screen.items, Screen.items, List.eraseIdx_map]

/-- A quantity down to zero takes the row away. -/
theorem items_changeCartQty {index : Nat} {line : Line} (qty : Int)
    (present : s.posCart[index]? = some line) :
    (s.changeCartQty index qty).items =
      if qty ≤ 0 then s.items.eraseIdx index
      else s.items.modify index fun item => item.withQuantity qty := by
  rw [Screen.changeCartQty, present]
  dsimp only
  split
  · rw [items_removeCartItem, Screen.items, List.map_set, List.eraseIdx_set_eq, Screen.items]
  · rw [items_updateCartUI, Screen.items, Screen.items]
    have set : s.posCart.set index (Screen.setQuantity qty s.added line) =
        s.posCart.modify index (Screen.setQuantity qty s.added) := by
      rw [List.modify_eq_set_getElem?, present]
      rfl
    rw [set]
    exact map_modify _ _ fun _ => rfl

theorem items_changeCartStylist (index : Nat) (value : String) (s : Screen) :
    (s.changeCartStylist index value).items =
      s.items.modify index fun item => item.withStylist (.parseInt value) :=
  map_modify _ _ fun _ => rfl

theorem cartTotal_eq_sum (items : List CartItem) :
    cartTotal items = (items.map CartItem.amount).sum := by
  have onward (items : List CartItem) (total : Rat) :
      items.foldl (fun total item => total + item.amount) total =
        total + (items.map CartItem.amount).sum := by
    induction items generalizing total with
    | nil => simp
    | cons item items ih => rw [List.foldl_cons, ih, List.map_cons, List.sum_cons, add_assoc]
  rw [cartTotal, onward, zero_add]

theorem floor_half (n : Int) : ⌊(n : Rat) + 1 / 2⌋ = n := by
  rw [Int.floor_intCast_add]
  norm_num

/-- Whole cents are written as they are. -/
theorem toFixed2_cents (n : Int) : toFixed2 (n / 100) = n / 100 := by
  rw [toFixed2]
  split
  · rfl
  · split
    · have cents : -((n : Rat) / 100) * 100 + 1 / 2 = ((-n : Int) : Rat) + 1 / 2 := by
        push_cast
        ring
      rw [cents, floor_half]
      push_cast
      ring
    · have cents : (n : Rat) / 100 * 100 + 1 / 2 = (n : Rat) + 1 / 2 := by ring
      rw [cents, floor_half]

/-- What is written is at most half a cent from the total. -/
theorem toFixed2_near (x : Rat) : |toFixed2 x - x| ≤ 1 / 200 := by
  have near (y : Rat) : |(⌊y * 100 + 1 / 2⌋ : Rat) / 100 - y| ≤ 1 / 200 := by
    have below := Int.floor_le (y * 100 + 1 / 2)
    have above := Int.lt_floor_add_one (y * 100 + 1 / 2)
    rw [abs_le]
    constructor <;> linarith
  rw [toFixed2]
  split
  · rw [sub_self, abs_zero]
    norm_num
  · split
    · have opposite := near (-x)
      rwa [sub_neg_eq_add, ← abs_neg, neg_add, ← sub_eq_add_neg] at opposite
    · exact near x

theorem cartTotal_cents {items : List CartItem}
    (cents : ∀ item ∈ items, ∃ c : Int, item.price = c / 100) : ∃ n : Int, cartTotal items = n / 100 := by
  rw [cartTotal_eq_sum]
  induction items with
  | nil => exact ⟨0, by simp⟩
  | cons item items ih =>
    rw [List.forall_mem_cons] at cents
    obtain ⟨⟨c, price⟩, rest⟩ := cents
    obtain ⟨n, sum⟩ := ih rest
    refine ⟨c * item.quantity + n, ?_⟩
    rw [List.map_cons, List.sum_cons, sum, CartItem.amount, price]
    push_cast
    ring

end Specs

end Saloon.Source
