import Saloon.Lib.Run
import Saloon.Lib.Splice
import Saloon.Source.Php

/-!
# The POS screen of the web client

`js/app.js:651-875`: the cart, its rows on the page, the checkout button, and the
checkout requests whose responses are still to come. `renderCheckout` shows a spinner
until its four lists have arrived; the page with the cart, and a new button, come then.
Ids are integers below 2^53, where JavaScript's numbers are exact.
-/
namespace Saloon.Source

open Lib

/-- What JavaScript finds, or computes, where it expects an id. -/
inductive JsId where
  | undefined
  | null
  | num (n : Int)
  | nan
  deriving DecidableEq

namespace JsId

/-- `a === b`. -/
def strictEq (a b : JsId) : Bool := a ≠ .nan && a = b

/-- An id in a template literal. -/
def text : JsId → String
  | undefined => "undefined"
  | null => "null"
  | num n => toString n
  | nan => "NaN"

/-- White space and line ends of JavaScript; the no-break space is one. -/
def isSpace (c : Char) : Bool :=
  [0x20, 0xa0, 0x1680, 0x2028, 0x2029, 0x202f, 0x205f, 0x3000, 0xfeff].contains c.toNat ||
    (9 ≤ c.toNat && c.toNat ≤ 13) || (0x2000 ≤ c.toNat && c.toNat ≤ 0x200a)

def decimal (cs : List Char) : Option Nat :=
  if Numeral.digits cs = [] then none else some (Nat.ofDigitChars 10 (Numeral.digits cs) 0)

def hexDigit (c : Char) : Option Nat :=
  if c.isDigit then some (c.toNat - '0'.toNat)
  else if 'a' ≤ c ∧ c ≤ 'f' then some (c.toNat - 'a'.toNat + 10)
  else if 'A' ≤ c ∧ c ≤ 'F' then some (c.toNat - 'A'.toNat + 10)
  else none

def hexadecimal (cs : List Char) : Option Nat :=
  match (cs.map hexDigit).takeWhile Option.isSome with
  | [] => none
  | ds => some (ds.foldl (fun value d => 16 * value + d.getD 0) 0)

/-- The digits behind the sign: hexadecimal ones behind `0x`, else decimal ones. -/
def magnitude : List Char → Option Nat
  | '0' :: 'x' :: cs => hexadecimal cs
  | '0' :: 'X' :: cs => hexadecimal cs
  | cs => decimal cs

/-- `parseInt` of the text of an option: white space, a sign, digits. -/
def parseInt (s : String) : JsId :=
  let (negative, rest) := Numeral.splitSign (s.toList.dropWhile isSpace)
  match magnitude rest with
  | none => nan
  | some value => num (if negative then -value else value)

/-- What `JSON.stringify` makes of a property: nothing of `undefined`, null of `NaN`. -/
def property (k : String) : JsId → List (String × Val)
  | undefined => []
  | null => [(k, .null)]
  | num n => [(k, .int n)]
  | nan => [(k, .null)]

end JsId

/-- `st.id` of an entry of the staff list; an id column is an integer or null. -/
def stylistId (st : Val) : JsId :=
  match st with
  | .arr entries =>
    match entries.lookup "id" with
    | none => .undefined
    | some (.int n) => .num n
    | some _ => .null
  | _ => .undefined

/-- A JavaScript number as PHP decodes it. -/
def jsonNumber (q : Rat) : Val := if q.den = 1 then .int q.num else .float q

structure CartItem where
  itemType : String
  itemId : Int
  name : String
  price : Rat
  quantity : Int
  stylistId : JsId

def CartItem.json (item : CartItem) : Val :=
  .arr ([("item_type", .str item.itemType), ("item_id", .int item.itemId),
    ("name", .str item.name), ("price", jsonNumber item.price), ("quantity", .int item.quantity)] ++
    item.stylistId.property "stylist_id")

/-- An entry of `posCart` with its row on the page. -/
structure Line where
  item : CartItem
  /-- the option that the row's stylist list shows -/
  selected : Option Nat
  /-- Observation: the units that the quantity counts. -/
  units : List Nat

/-- The option a list shows once drawn: the last one marked as selected, else the first. -/
def shownOption (stylists : List Val) (id : JsId) : Option Nat :=
  match (stylists.zipIdx.filter fun (st, _) => id.strictEq (stylistId st)).getLast? with
  | some (_, j) => some j
  | none => if stylists = [] then none else some 0

def Line.draw (stylists : List Val) (line : Line) : Line :=
  { line with selected := shownOption stylists line.item.stylistId }

/-- A checkout request that was sent. -/
structure Posted where
  body : Val
  /-- the button that `submitPOSCheckout` holds -/
  button : Nat
  /-- Observation: the units in the cart it was made from. -/
  units : List Nat

/-- The checkout button of one rendering of the page. -/
structure Button where
  number : Nat
  disabled : Bool

structure Screen where
  stylistsList : List Val
  posCart : List Line
  selectedPaymentMethod : String
  /-- the value of the client list, none for a walk-in customer -/
  client : Option Int
  /-- the button, while the page is drawn; none behind the spinner -/
  page : Option Button
  /-- pages drawn so far -/
  drawn : Nat
  /-- calls of `renderCheckout` that wait for their lists -/
  loading : Nat
  /-- checkouts without a response -/
  inFlight : List Posted
  /-- Observation: checkouts that succeeded. -/
  charged : List Posted
  /-- Observation: units put in the cart so far. -/
  added : Nat
  /-- Observation: units the user took out again. -/
  removed : List Nat

namespace Screen

/-- The POS page was just chosen. -/
def start : Screen := ⟨[], [], "cash", none, none, 0, 1, [], [], 0, []⟩

def updateCartUI (s : Screen) : Screen :=
  { s with
    posCart := s.posCart.map (Line.draw s.stylistsList)
    page := s.page.map fun b => { b with disabled := s.posCart.isEmpty } }

/-- The stylist a new item gets. -/
def firstStylist (s : Screen) : JsId :=
  match s.stylistsList with
  | [] => .null
  | st :: _ => stylistId st

def sameItem (itemType : String) (itemId : Int) (line : Line) : Bool :=
  line.item.itemType = itemType && line.item.itemId = itemId

/-- `existing.quantity++`. -/
def oneMore (unit : Nat) (line : Line) : Line :=
  { line with
    item := { line.item with quantity := line.item.quantity + 1 }
    units := line.units ++ [unit] }

def addCartItem (itemType : String) (itemId : Int) (name : String) (price : Rat) (s : Screen) :
    Screen :=
  let posCart :=
    match s.posCart.findIdx? (sameItem itemType itemId) with
    | some i => s.posCart.modify i (oneMore s.added)
    | none => s.posCart ++ [⟨⟨itemType, itemId, name, price, 1, s.firstStylist⟩, none, [s.added]⟩]
  updateCartUI { s with posCart, added := s.added + 1 }

def removeCartItem (index : Nat) (s : Screen) : Screen :=
  updateCartUI
    { s with
      posCart := s.posCart.eraseIdx index
      removed := s.removed ++ (s.posCart[index]?.map Line.units).getD [] }

def changeCartStylist (index : Nat) (value : String) (s : Screen) : Screen :=
  { s with
    posCart := s.posCart.modify index fun line =>
      { line with item := { line.item with stylistId := .parseInt value } } }

/-- A choice in a row's stylist list, and its `onchange`. -/
def chooseStylist (index option : Nat) (s : Screen) : Screen :=
  match s.stylistsList[option]? with
  | none => s
  | some st =>
    changeCartStylist index (stylistId st).text
      { s with posCart := s.posCart.modify index fun line => { line with selected := some option } }

/-- `quantity = parseInt(qty)`; `fresh` is the first unit not yet in use. -/
def setQuantity (qty : Int) (fresh : Nat) (line : Line) : Line :=
  { line with
    item := { line.item with quantity := qty }
    units := line.units.take qty.toNat ++ List.range' fresh (qty.toNat - line.units.length) }

/-- A row that does not exist is a TypeError. -/
def changeCartQty (index : Nat) (qty : Int) (s : Screen) : Screen :=
  match s.posCart[index]? with
  | none => s
  | some line =>
    let s :=
      { s with
        posCart := s.posCart.set index (setQuantity qty s.added line)
        added := s.added + (qty.toNat - line.units.length)
        removed := s.removed ++ line.units.drop qty.toNat }
    if qty ≤ 0 then removeCartItem index s else updateCartUI s

def payload (s : Screen) : Val :=
  .arr [("client_id", match s.client with | some id => .int id | none => .null),
    ("payment_method", .str s.selectedPaymentMethod),
    ("items", .list (s.posCart.map fun line => line.item.json))]

/-- The units in the cart. -/
def units (s : Screen) : List Nat := s.posCart.flatMap Line.units

/-- `submitPOSCheckout` up to its request; a disabled button does not call it. -/
def submitPOSCheckout (s : Screen) : Screen :=
  match s.page with
  | none => s
  | some button =>
    if button.disabled then s
    else
      { s with
        page := some { button with disabled := true }
        inFlight := s.inFlight ++ [⟨s.payload, button.number, s.units⟩] }

/-- The response is a success: `renderCheckout` starts over. -/
def succeeded (i : Nat) (s : Screen) : Screen :=
  match s.inFlight[i]? with
  | none => s
  | some posted =>
    { s with
      inFlight := s.inFlight.eraseIdx i
      charged := s.charged ++ [posted]
      page := none
      loading := s.loading + 1 }

/-- Any other end of the request: its button, if it is still there, is enabled again. -/
def failed (i : Nat) (s : Screen) : Screen :=
  match s.inFlight[i]? with
  | none => s
  | some posted =>
    { s with
      inFlight := s.inFlight.eraseIdx i
      page := s.page.map fun b =>
        if b.number = posted.button then { b with disabled := false } else b }

/-- The lists of a `renderCheckout` have arrived, the staff list among them. -/
def rendered (staff : List Val) (s : Screen) : Screen :=
  if s.loading = 0 then s
  else
    updateCartUI
      { s with
        page := some ⟨s.drawn, true⟩
        drawn := s.drawn + 1
        loading := s.loading - 1
        posCart := []
        selectedPaymentMethod := "cash"
        client := none
        stylistsList := staff }

/-- One of the lists has not arrived. -/
def loadFailed (s : Screen) : Screen := { s with loading := s.loading - 1 }

end Screen

/-- What the user does to the cart. -/
inductive CartEdit where
  | add (itemType : String) (itemId : Int) (name : String) (price : Rat)
  | remove (index : Nat)
  | quantity (index : Nat) (qty : Int)
  | stylist (index option : Nat)

def Screen.edit : CartEdit → Screen → Screen
  | .add itemType itemId name price => addCartItem itemType itemId name price
  | .remove index => removeCartItem index
  | .quantity index qty => changeCartQty index qty
  | .stylist index option => chooseStylist index option

inductive ScreenEvent where
  | edit (e : CartEdit)
  | setPaymentMethod (method : String)
  | chooseClient (id : Option Int)
  | checkout
  | succeeded (i : Nat)
  | failed (i : Nat)
  | rendered (staff : List Val)
  | loadFailed

/-- Behind the spinner there is nothing for the user to act on. -/
def Screen.step (e : ScreenEvent) (s : Screen) : Screen :=
  match e with
  | .edit e => if s.page.isSome then s.edit e else s
  | .setPaymentMethod method =>
    if s.page.isSome then { s with selectedPaymentMethod := method } else s
  | .chooseClient client => if s.page.isSome then { s with client } else s
  | .checkout => s.submitPOSCheckout
  | .succeeded i => s.succeeded i
  | .failed i => s.failed i
  | .rendered staff => s.rendered staff
  | .loadFailed => s.loadFailed

/-- The page with the staff list that the server sent. -/
def Screen.opened (staff : List Val) : Screen := Screen.start.rendered staff

section Specs

theorem JsId.isSpace_of_isDigit {c : Char} (digit : c.isDigit = true) : isSpace c = false := by
  have code := Numeral.code_of_isDigit digit
  simp only [isSpace, Bool.or_eq_false_iff, Bool.and_eq_false_iff, List.contains_eq_mem,
    decide_eq_false_iff_not, List.mem_cons, List.not_mem_nil, or_false]
  omega

/-- Decimal digits have no `x` among them. -/
theorem JsId.magnitude_of_isDigit {cs : List Char} (number : ∀ c ∈ cs, c.isDigit = true) :
    magnitude cs = decimal cs := by
  unfold magnitude
  split
  · exact absurd (number 'x' (by simp)) (by decide)
  · exact absurd (number 'X' (by simp)) (by decide)
  · rfl

theorem JsId.parseInt_toString (n : Nat) : parseInt (toString n) = num n := by
  have text : (toString n).toList = Nat.toDigits 10 n := Nat.toList_repr
  have number : ∀ c ∈ Nat.toDigits 10 n, c.isDigit = true := fun c member =>
    Nat.isDigit_of_mem_toDigits (by decide) (by decide) member
  cases digits : Nat.toDigits 10 n with
  | nil => exact absurd digits Nat.toDigits_ne_nil
  | cons d ds =>
    rw [digits] at number
    have first : d.isDigit = true := number d (by simp)
    have skip : (d :: ds).dropWhile isSpace = d :: ds := by simp [isSpace_of_isDigit first]
    have all : Numeral.digits (d :: ds) = d :: ds := by
      have taken : ((d :: ds) ++ []).takeWhile Char.isDigit =
          (d :: ds) ++ [].takeWhile Char.isDigit := List.takeWhile_append_of_pos number
      simpa [Numeral.digits] using taken
    have value : Nat.ofDigitChars 10 (d :: ds) 0 = n := by
      rw [← digits]
      exact Nat.ofDigitChars_toDigits (by decide) (by decide)
    rw [parseInt, text, digits, skip, Numeral.splitSign_of_isDigit ds first]
    simp [magnitude_of_isDigit number, decimal, all, value]

/-- The one option with this id is the one that the drawn list shows. -/
theorem shownOption_of_unique {stylists : List Val} {option : Nat} {st : Val} {n : Int}
    (spot : stylists[option]? = some st) (named : stylistId st = .num n)
    (unique : ∀ j other, stylists[j]? = some other → stylistId other = .num n → j = option) :
    shownOption stylists (.num n) = some option := by
  have marked : (st, option) ∈
      stylists.zipIdx.filter fun (st, _) => (JsId.num n).strictEq (stylistId st) :=
    List.mem_filter.mpr ⟨List.mk_mem_zipIdx_iff_getElem?.mpr spot, by simp [JsId.strictEq, named]⟩
  unfold shownOption
  split
  · rename_i other j last
    obtain ⟨listed, same⟩ := List.mem_filter.mp (List.mem_of_getLast? last)
    have equal : stylistId other = .num n := by simpa [JsId.strictEq, eq_comm] using same
    rw [unique j other (List.mk_mem_zipIdx_iff_getElem?.mp listed) equal]
  · rename_i none
    rw [List.getLast?_eq_none_iff.mp none] at marked
    cases marked

/-- A posted id is a number only where the cart has one. -/
theorem CartItem.json_stylist (item : CartItem) :
    item.json.field "stylist_id" =
      match item.stylistId with
      | .num n => .int n
      | _ => .null := by
  obtain ⟨itemType, itemId, name, price, quantity, id⟩ := item
  cases id <;> rfl

/-- A property of rows that each way of making or changing one keeps. -/
structure LineInvariant (stylists : List Val) (P : Line → Prop) : Prop where
  new : ∀ (s : Screen) itemType itemId name price unit, s.stylistsList = stylists →
    P (Line.draw stylists ⟨⟨itemType, itemId, name, price, 1, s.firstStylist⟩, none, [unit]⟩)
  draw : ∀ line, P line → P (line.draw stylists)
  more : ∀ unit line, P line → P (Screen.oneMore unit line)
  count : ∀ qty fresh line, 0 < qty → P line → P (Screen.setQuantity qty fresh line)
  choose : ∀ option st line, stylists[option]? = some st → P line →
    P { line with
      item := { line.item with stylistId := .parseInt (stylistId st).text }
      selected := some option }

/-- Every row of the cart has the property. -/
def Screen.Rows (P : Line → Prop) (s : Screen) : Prop := ∀ line ∈ s.posCart, P line

section Rows

variable {stylists : List Val} {P : Line → Prop} {s : Screen}

theorem Screen.rows_updateCartUI (drawn : ∀ line ∈ s.posCart, P (line.draw s.stylistsList)) :
    s.updateCartUI.Rows P := by
  intro line member
  obtain ⟨old, oldMember, rfl⟩ := List.mem_map.mp member
  exact drawn old oldMember

/-- What the user does to the cart keeps the property of its rows. -/
theorem LineInvariant.edit (invariant : LineInvariant stylists P)
    (list : s.stylistsList = stylists) (rows : s.Rows P) (e : CartEdit) :
    (s.edit e).stylistsList = stylists ∧ (s.edit e).Rows P := by
  subst list
  have redrawn : ∀ line, P line → P (line.draw s.stylistsList) := invariant.draw
  cases e with
  | add itemType itemId name price =>
    refine ⟨rfl, Screen.rows_updateCartUI fun line member => ?_⟩
    dsimp only at member
    split at member
    · rcases mem_of_mem_modify member with old | ⟨old, oldMember, rfl⟩
      · exact redrawn line (rows line old)
      · exact redrawn _ (invariant.more _ old (rows old oldMember))
    · rcases List.mem_append.mp member with old | new
      · exact redrawn line (rows line old)
      · rw [List.mem_singleton.mp new]
        exact invariant.new s itemType itemId name price s.added rfl
  | remove index =>
    exact ⟨rfl, Screen.rows_updateCartUI fun line member =>
      redrawn line (rows line (List.mem_of_mem_eraseIdx member))⟩
  | quantity index qty =>
    show (s.changeCartQty index qty).stylistsList = _ ∧ (s.changeCartQty index qty).Rows P
    rw [Screen.changeCartQty]
    split
    · exact ⟨rfl, rows⟩
    · rename_i line found
      dsimp only
      split
      · refine ⟨rfl, Screen.rows_updateCartUI fun other member => ?_⟩
        rw [List.eraseIdx_set_eq] at member
        exact redrawn other (rows other (List.mem_of_mem_eraseIdx member))
      · rename_i some
        refine ⟨rfl, Screen.rows_updateCartUI fun other member => redrawn other ?_⟩
        rcases List.mem_or_eq_of_mem_set member with old | rfl
        · exact rows other old
        · exact invariant.count qty _ line (not_le.mp some) (rows line (List.mem_of_getElem? found))
  | stylist index option =>
    show (s.chooseStylist index option).stylistsList = _ ∧ (s.chooseStylist index option).Rows P
    rw [Screen.chooseStylist]
    split
    · exact ⟨rfl, rows⟩
    · rename_i st chosen
      refine ⟨rfl, fun line member => ?_⟩
      simp only [Screen.changeCartStylist, List.modify_modify_eq] at member
      rcases mem_of_mem_modify member with old | ⟨old, oldMember, rfl⟩
      · exact rows line old
      · exact invariant.choose option st old chosen (rows old oldMember)

end Rows

section Units

variable {s : Screen}

/-- What an edit does to the units: some stay, some are taken out, new ones come in. -/
structure CartChange (s t : Screen) : Prop where
  parts : ∃ kept dropped, s.units.Perm (kept ++ dropped) ∧
    t.units.Perm (kept ++ List.range' s.added (t.added - s.added)) ∧
    t.removed = s.removed ++ dropped
  added : s.added ≤ t.added
  inFlight : t.inFlight = s.inFlight
  charged : t.charged = s.charged
  loading : t.loading = s.loading
  page : t.page.isSome = s.page.isSome

theorem Screen.units_updateCartUI (s : Screen) : s.updateCartUI.units = s.units := by
  rw [units, updateCartUI, List.flatMap_map]
  rfl

theorem CartChange.refl (s : Screen) : CartChange s s where
  parts := ⟨s.units, [], by simp, by simp, by simp⟩
  added := le_rfl
  inFlight := rfl
  charged := rfl
  loading := rfl
  page := rfl

/-- Drawing the cart again changes no unit. -/
theorem CartChange.drawn {t : Screen} (change : CartChange s t) : CartChange s t.updateCartUI where
  parts := by
    rw [Screen.units_updateCartUI]
    exact change.parts
  added := change.added
  inFlight := change.inFlight
  charged := change.charged
  loading := change.loading
  page := by
    rw [← change.page]
    exact Option.isSome_map

theorem change_addCartItem (itemType : String) (itemId : Int) (name : String) (price : Rat)
    (s : Screen) : CartChange s (s.addCartItem itemType itemId name price) := by
  refine CartChange.drawn ⟨⟨s.units, [], by simp, ?_, by simp⟩, Nat.le_succ _, rfl, rfl, rfl, rfl⟩
  have fresh : List.range' s.added (s.added + 1 - s.added) = [s.added] := by simp
  rw [fresh]
  show List.Perm (List.flatMap Line.units _) (s.posCart.flatMap Line.units ++ _)
  split
  · rename_i found
    obtain ⟨bound, -⟩ := List.findIdx?_eq_some_iff_getElem.mp found
    have present := List.getElem?_eq_getElem bound
    have after := flatMap_modify_perm present (Screen.oneMore s.added) Line.units
    have before := flatMap_perm present Line.units
    exact after.trans ((perm_append_right_comm _ _ _).trans (before.symm.append_right _))
  · rw [List.flatMap_append]
    exact .refl _

theorem change_removeCartItem (index : Nat) (s : Screen) :
    CartChange s (s.removeCartItem index) := by
  refine CartChange.drawn ⟨?_, le_rfl, rfl, rfl, rfl, rfl⟩
  cases present : s.posCart[index]? with
  | none =>
    refine ⟨s.units, [], by simp, ?_, by simp⟩
    simp [Screen.units, List.eraseIdx_of_length_le (List.getElem?_eq_none_iff.mp present)]
  | some line =>
    refine ⟨(s.posCart.eraseIdx index).flatMap Line.units, line.units, ?_, ?_, by simp⟩
    · exact (flatMap_perm present Line.units).trans List.perm_append_comm
    · simp [Screen.units]

theorem change_changeCartQty (index : Nat) (qty : Int) (s : Screen) :
    CartChange s (s.changeCartQty index qty) := by
  rw [Screen.changeCartQty]
  split
  · exact .refl s
  · rename_i line present
    have units : s.units.Perm
        ((line.units.take qty.toNat ++ (s.posCart.eraseIdx index).flatMap Line.units) ++
          line.units.drop qty.toNat) := by
      have split := flatMap_perm present Line.units
      rw [← List.take_append_drop qty.toNat line.units] at split
      exact split.trans (perm_append_right_comm _ _ _)
    have bound := (List.getElem?_eq_some_iff.mp present).1
    dsimp only
    split
    · rename_i nothing
      have zero : qty.toNat = 0 := by omega
      refine CartChange.drawn ⟨⟨_, _, units, ?_, ?_⟩, Nat.le_add_right _ _, rfl, rfl, rfl, rfl⟩
      · simp [Screen.units, List.eraseIdx_set_eq, zero]
      · simp [List.getElem?_set_self bound, Screen.setQuantity, zero]
    · refine CartChange.drawn ⟨⟨_, _, units, ?_, rfl⟩, Nat.le_add_right _ _, rfl, rfl, rfl, rfl⟩
      have after := flatMap_set_perm bound (Screen.setQuantity qty s.added line) Line.units
      have fresh : s.added + (qty.toNat - line.units.length) - s.added =
          qty.toNat - line.units.length := by omega
      simp only [fresh]
      exact after.trans (perm_append_right_comm _ _ _)

/-- A choice of stylists leaves the units where they are. -/
theorem units_chooseStylist (index option : Nat) (s : Screen) :
    (s.chooseStylist index option).units = s.units := by
  rw [Screen.chooseStylist]
  split
  · rfl
  · rw [Screen.changeCartStylist, Screen.units, List.modify_modify_eq]
    exact flatMap_modify_same _ fun _ => rfl

theorem change_chooseStylist (index option : Nat) (s : Screen) :
    CartChange s (s.chooseStylist index option) := by
  have units := units_chooseStylist index option s
  rw [Screen.chooseStylist] at units ⊢
  split
  · exact .refl s
  · rename_i st chosen
    simp only [chosen] at units
    refine ⟨⟨s.units, [], by simp, ?_, (List.append_nil _).symm⟩, le_rfl, rfl, rfl, rfl, rfl⟩
    rw [units]
    simp [Screen.changeCartStylist]

theorem change_edit (e : CartEdit) (s : Screen) : CartChange s (s.edit e) := by
  cases e with
  | add itemType itemId name price => exact change_addCartItem itemType itemId name price s
  | remove index => exact change_removeCartItem index s
  | quantity index qty => exact change_changeCartQty index qty s
  | stylist index option => exact change_chooseStylist index option s

end Units

section Steps

variable {s : Screen}

/-- The checkouts after a step: those before it, or one of the cart there was. -/
theorem posted_step (e : ScreenEvent) {posted : Posted}
    (member : posted ∈ (s.step e).inFlight ++ (s.step e).charged) :
    posted ∈ s.inFlight ++ s.charged ∨ ∃ button, posted = ⟨s.payload, button, s.units⟩ := by
  cases e with
  | edit e =>
    rw [Screen.step] at member
    split at member
    · have change := change_edit e s
      rw [change.inFlight, change.charged] at member
      exact .inl member
    · exact .inl member
  | setPaymentMethod method =>
    rw [Screen.step] at member
    split at member <;> exact .inl member
  | chooseClient id =>
    rw [Screen.step] at member
    split at member <;> exact .inl member
  | checkout =>
    rw [Screen.step, Screen.submitPOSCheckout] at member
    split at member
    · exact .inl member
    · split at member
      · exact .inl member
      · simp only [List.append_assoc, List.mem_append, List.mem_singleton] at member
        rcases member with old | new | old
        · exact .inl (List.mem_append_left _ old)
        · exact .inr ⟨_, new⟩
        · exact .inl (List.mem_append_right _ old)
  | succeeded i =>
    rw [Screen.step, Screen.succeeded] at member
    split at member
    · exact .inl member
    · rename_i settled present
      simp only [List.mem_append, List.mem_singleton] at member
      rcases member with other | old | rfl
      · exact .inl (List.mem_append_left _ (List.mem_of_mem_eraseIdx other))
      · exact .inl (List.mem_append_right _ old)
      · exact .inl (List.mem_append_left _ (List.mem_of_getElem? present))
  | failed i =>
    rw [Screen.step, Screen.failed] at member
    split at member
    · exact .inl member
    · rcases List.mem_append.mp member with other | old
      · exact .inl (List.mem_append_left _ (List.mem_of_mem_eraseIdx other))
      · exact .inl (List.mem_append_right _ old)
  | rendered staff =>
    rw [Screen.step, Screen.rendered] at member
    split at member <;> exact .inl member
  | loadFailed => exact .inl member

/-- What a step does to the cart: an edit, nothing, or a reset. -/
inductive CartStep (s t : Screen) : Prop where
  | edited (e : CartEdit) (drawn : s.page.isSome = true) (same : t = s.edit e)
  | stood (cart : t.posCart = s.posCart) (added : t.added = s.added)
      (page : t.page.isSome = true → s.page.isSome = true ∧ t.charged = s.charged)
  | emptied (cart : t.posCart = []) (added : t.added = s.added)

theorem CartStep.refl (s : Screen) : CartStep s s := .stood rfl rfl fun drawn => ⟨drawn, rfl⟩

theorem cart_step (e : ScreenEvent) (s : Screen) : CartStep s (s.step e) := by
  cases e with
  | edit edit =>
    rw [Screen.step]
    split
    · exact .edited edit ‹_› rfl
    · exact .refl s
  | setPaymentMethod method =>
    rw [Screen.step]
    split
    · exact .stood rfl rfl fun drawn => ⟨drawn, rfl⟩
    · exact .refl s
  | chooseClient id =>
    rw [Screen.step]
    split
    · exact .stood rfl rfl fun drawn => ⟨drawn, rfl⟩
    · exact .refl s
  | checkout =>
    rw [Screen.step, Screen.submitPOSCheckout]
    split
    · exact .refl s
    · rename_i button page
      split
      · exact .refl s
      · exact .stood rfl rfl fun _ => ⟨by simp [page], rfl⟩
  | succeeded i =>
    rw [Screen.step, Screen.succeeded]
    split
    · exact .refl s
    · exact .stood rfl rfl fun drawn => absurd drawn (by simp)
  | failed i =>
    rw [Screen.step, Screen.failed]
    split
    · exact .refl s
    · exact .stood rfl rfl fun drawn => ⟨by simpa using drawn, rfl⟩
  | rendered staff =>
    rw [Screen.step, Screen.rendered]
    split
    · exact .refl s
    · exact .emptied rfl rfl
  | loadFailed => exact .stood rfl rfl fun drawn => ⟨drawn, rfl⟩

end Steps

end Specs

end Saloon.Source
