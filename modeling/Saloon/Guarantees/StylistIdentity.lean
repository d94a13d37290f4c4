import Saloon.Guarantees.Serving
import Saloon.Source.PosScreen

/-!
# The stylist between the staff list and the invoice

The POS page reads `id` from the entries of the staff list. The public list has it;
the list for the desk calls it `staff_id`. A cart made from the public list credits
the stylists its rows show, and one made from the desk's list credits nobody.
-/
namespace Saloon.Guarantees

open Lib Source

/-- The entries of the list that a request answers with. -/
def received (php : Platform) (e : Event) (db : Db) : List Val :=
  match (serve php e db).response.output with
  | some output => output.elems
  | none => []

/-- The page opened with a staff list, after a sequence of cart operations. -/
def edited (staff : List Val) (edits : List CartEdit) : Screen :=
  run Screen.edit (Screen.opened staff) edits

def isStylist (st : Val) : Bool := (st.field "role").is "stylist"

/-- The row of the cart shows this entry of the staff list as selected. -/
def Shows (staff : List Val) (line : Line) (st : Val) : Prop :=
  ∃ option, line.selected = some option ∧ staff[option]? = some st

/-- The staff row of an entry is that of its user. -/
def StaffOf (st : Val) (s : Row Staff) : Prop := .ofId s.cols.userId = st.field "user_id"

/-- What a commission profile gives for `quantity` units at `price`. -/
def commission (u : User) (price : Rat) (quantity : Int) : Rat :=
  if u.commissionType = "percentage" then price * quantity * (u.commissionRate / 100)
  else u.commissionRate * quantity

/-- The invoice row goes to this staff row, with the commission of its user's profile. -/
structure Credits (db : Db) (staffId : Nat) (row : InvoiceItem) : Prop where
  stylist : row.stylistId = some staffId
  commission : ∀ s ∈ db.staff.rows, s.id = staffId → ∀ u ∈ db.users.rows,
    s.cols.userId = some u.id → row.commissionPaid = commission u.cols row.price row.quantity

/-- A checkout of the screen's cart goes through. -/
def Sells (e : Event) (screen : Screen) (payload : Val) (db after : Db) : Prop :=
  body e = screen.payload ∧ ∃ invoiceId, checkoutOf e payload db = (.ok invoiceId, after)

/-- The invoice rows that `after` has more than `db`. -/
def newItems (db after : Db) : List InvoiceItem :=
  (after.invoiceItems.rows.drop db.invoiceItems.rows.length).map Row.cols

/-- The stylists of a staff list keep their identity up to the invoice. -/
structure Identified (db : Db) (staff : List Val) : Prop where
  carried : ∀ st ∈ staff, isStylist st = true → ∃ s ∈ db.staff.rows, stylistId st = .num s.id
  posted : ∀ edits, ∀ line ∈ (edited staff edits).posCart, ∀ st, Shows staff line st →
    isStylist st = true →
    ∃ s ∈ db.staff.rows, StaffOf st s ∧ line.item.json.field "stylist_id" = .int s.id
  credited : ∀ edits e payload later after, Sells e (edited staff edits) payload later after →
    ∀ (k : Nat) line row st, (edited staff edits).posCart[k]? = some line →
      (newItems later after)[k]? = some row → Shows staff line st → isStylist st = true →
      ∃ s ∈ db.staff.rows, StaffOf st s ∧ Credits later s.id row

/-- Whatever the user does to the cart, it posts no stylist, and no row of its invoice has a
stylist or a commission. -/
structure Uncredited (staff : List Val) : Prop where
  posted : ∀ edits, ∀ line ∈ (edited staff edits).posCart,
    line.item.json.field "stylist_id" = .null
  sold : ∀ edits e payload db after, Sells e (edited staff edits) payload db after →
    ∀ row ∈ newItems db after, row.stylistId = none ∧ row.commissionPaid = 0

section Invoices

/-- Each line of the cart becomes one row of the invoice. -/
theorem sold_rows {e : Event} {screen : Screen} {payload : Val} {db after : Db}
    (sells : Sells e screen payload db after) :
    List.Forall₂ (fun line row => Invoice.Sold db db.invoices.nextId line.item.json row)
      screen.posCart (newItems db after) := by
  obtain ⟨sent, invoiceId, done⟩ := sells
  obtain ⟨sale, drawers, -, charged, rfl⟩ := Invoice.checkoutStatements_eq_ok done
  have items : argOr e "items" (.arr []) =
      .list (screen.posCart.map fun line => line.item.json) := by
    rw [argOr, sent]
    rfl
  have rows : newItems db (sale.post e.clock drawers db) = sale.lines := by
    rw [newItems, List.map_drop, Sale.post, Table.cols_foldl_insert]
    exact List.drop_left' (List.length_map _)
  have lines := charged.lines
  rw [items, Val.elems_list, List.forall₂_map_left_iff] at lines
  rw [rows]
  exact lines

/-- A row of the invoice stands where its line stood in the cart. -/
theorem sold_at {e : Event} {screen : Screen} {payload : Val} {db after : Db}
    (sells : Sells e screen payload db after) {k : Nat} {row : InvoiceItem}
    (spot : (newItems db after)[k]? = some row) :
    ∃ line, screen.posCart[k]? = some line ∧
      Invoice.Sold db db.invoices.nextId line.item.json row := by
  obtain ⟨short, rfl⟩ := List.getElem?_eq_some_iff.mp spot
  obtain ⟨lengths, each⟩ := List.forall₂_iff_get.mp (sold_rows sells)
  have inCart : k < screen.posCart.length := lengths ▸ short
  exact ⟨screen.posCart[k], List.getElem?_eq_getElem inCart, each k inCart short⟩

/-- A line without a stylist id is nobody's, and pays no commission. -/
theorem uncredited_of_null {db : Db} {invoiceId : Nat} {item : Val} {row : InvoiceItem}
    (sold : Invoice.Sold db invoiceId item row) (nobody : item.field "stylist_id" = .null) :
    row.stylistId = none ∧ row.commissionPaid = 0 := by
  obtain ⟨-, -, stylist, found, rfl⟩ := sold
  rw [nobody] at found
  have none : stylist = none := (Option.some.inj found).symm
  refine ⟨none, ?_⟩
  rw [Invoice.lineOf, nobody]
  rfl

/-- A line with the id of a staff row goes to it. -/
theorem credits_of_id {db : Db} {invoiceId staffId : Nat} {item : Val} {row : InvoiceItem}
    (sold : Invoice.Sold db invoiceId item row)
    (named : item.field "stylist_id" = .int staffId) : Credits db staffId row := by
  obtain ⟨-, -, stylist, found, rfl⟩ := sold
  rw [named] at found
  obtain ⟨r, member, rfl⟩ := exists_of_foreignKey found (by simp [Val.key])
  obtain rfl : r.id = staffId := by
    simpa [Val.key] using (foreignKey_eq_some.mp found).1.symm
  refine ⟨rfl, fun s sMember sId u uMember linked => ?_⟩
  obtain rfl : s = r := db.staff.eq_of_id_eq sMember member sId
  have profile : Invoice.commissionProfile db (Val.int s.id).key = some u.cols := by
    have staff : lookup db.staff (Val.int s.id).key = some s :=
      lookup_eq_some.mpr ⟨member, by simp [Val.key]⟩
    have user : lookup db.users (.num u.id) = some u := lookup_eq_some.mpr ⟨uMember, rfl⟩
    simp only [Invoice.commissionProfile, staff, Option.bind_some, linked, user, Option.map_some]
  have truthy : (Val.int s.id).truthy = true :=
    truthy_of_key (db.staff.ids_range s member).1 (by simp [Val.key])
  simp only [Invoice.lineOf, Invoice.commissionPaid, named, truthy, if_true, profile, commission]

end Invoices

/-- What edits keep of every row holds whatever was done to the cart. -/
theorem rows_edited {staff : List Val} {P : Line → Prop}
    (invariant : LineInvariant staff P) (edits : List CartEdit) : (edited staff edits).Rows P :=
  (run_keeps (P := fun s : Screen => s.stylistsList = staff ∧ s.Rows P)
    (fun e _ kept => invariant.edit kept.1 kept.2 e) ⟨rfl, fun _ none => by cases none⟩ edits).2

section Public

/-! The public list: each entry has its own `id`. -/

/-- Every entry has a numeric id, and no two have the same. -/
structure Keyed (staff : List Val) : Prop where
  numeric : ∀ st ∈ staff, ∃ n : Nat, stylistId st = .num n
  unique : ∀ (i j : Nat) st other, staff[i]? = some st → staff[j]? = some other →
    stylistId st = stylistId other → i = j

/-- The cart has the id of the entry that its row shows. -/
theorem keyed_lines {staff : List Val} (keyed : Keyed staff) :
    LineInvariant staff fun line => staff = [] ∨
      ∃ option st, line.selected = some option ∧ staff[option]? = some st ∧
        line.item.stylistId = stylistId st := by
  have drawn : ∀ (option : Nat) st, staff[option]? = some st →
      shownOption staff (stylistId st) = some option := by
    intro option st spot
    obtain ⟨n, named⟩ := keyed.numeric st (List.mem_of_getElem? spot)
    rw [named]
    exact shownOption_of_unique spot named fun j other there same =>
      keyed.unique j option other st there spot (same.trans named.symm)
  refine
    { new := fun s itemType itemId name price unit list => ?_
      draw := fun line kept => ?_
      more := fun _ _ kept => kept
      count := fun _ _ _ _ kept => kept
      choose := fun option st line spot _ => ?_ }
  · rw [Screen.firstStylist, list]
    cases staff with
    | nil => exact .inl rfl
    | cons st rest => exact .inr ⟨0, st, drawn 0 st rfl, rfl, rfl⟩
  · rcases kept with none | ⟨option, st, -, spot, id⟩
    · exact .inl none
    · refine .inr ⟨option, st, ?_, spot, id⟩
      rw [Line.draw, id]
      exact drawn option st spot
  · obtain ⟨n, named⟩ := keyed.numeric st (List.mem_of_getElem? spot)
    refine .inr ⟨option, st, rfl, spot, ?_⟩
    rw [named]
    exact JsId.parseInt_toString n

/-- With a keyed list a sale credits each row's stylist, whatever was done to the cart. -/
theorem keyed_credited {staff : List Val} (keyed : Keyed staff) {edits : List CartEdit} {e : Event}
    {payload : Val} {db after : Db} (sells : Sells e (edited staff edits) payload db after)
    {k : Nat} {line : Line} {row : InvoiceItem} {st : Val}
    (inCart : (edited staff edits).posCart[k]? = some line)
    (spot : (newItems db after)[k]? = some row) (shown : Shows staff line st) :
    ∃ n : Nat, stylistId st = .num n ∧ Credits db n row := by
  obtain ⟨other, there, sold⟩ := sold_at sells spot
  obtain rfl : other = line := by simpa [there] using inCart
  obtain ⟨option, selected, listed⟩ := shown
  obtain ⟨n, named⟩ := keyed.numeric st (List.mem_of_getElem? listed)
  refine ⟨n, named, credits_of_id sold ?_⟩
  rcases rows_edited (keyed_lines keyed) edits other (List.mem_of_getElem? there) with
    none | ⟨drawn, entry, same, found, id⟩
  · rw [none] at listed
    cases listed
  · obtain rfl : drawn = option := by simpa [same] using selected
    obtain rfl : entry = st := by simpa [found] using listed
    rw [CartItem.json_stylist, id, named]

theorem stylistId_entry (s : Row Staff) : stylistId (Staff.entry s) = .num s.id := rfl

theorem keyed_public (db : Db) : Keyed (Staff.getAll db) where
  numeric st member := by
    obtain ⟨s, -, rfl⟩ := List.mem_map.mp member
    exact ⟨s.id, stylistId_entry s⟩
  unique i j st other first second same := by
    rw [Staff.getAll, List.getElem?_map] at first second
    obtain ⟨s, sSpot, rfl⟩ := Option.map_eq_some_iff.mp first
    obtain ⟨t, tSpot, rfl⟩ := Option.map_eq_some_iff.mp second
    have ids : s.id = t.id := by simpa [stylistId_entry] using same
    have equal : s = t := db.staff.eq_of_id_eq (mem_orderBy.mp (List.mem_of_getElem? sSpot))
      (mem_orderBy.mp (List.mem_of_getElem? tSpot)) ids
    have sorted := perm_orderBy (compareOn fun s : Row Staff => s.cols.name) db.staff.rows
    have nodup := sorted.nodup_iff.mpr (List.Nodup.of_map Row.id db.staff.ids_nodup)
    exact (List.getElem?_inj (List.getElem?_eq_some_iff.mp sSpot).1 nodup).mp
      (by rw [sSpot, tSpot, equal])

/-- The page with the public list: each row of an invoice credits the staff row that its line
of the cart shows. -/
theorem public_sales_credited (db : Db) {edits : List CartEdit} {e : Event} {payload : Val}
    {later after : Db} (sells : Sells e (edited (Staff.getAll db) edits) payload later after)
    {k : Nat} {line : Line} {row : InvoiceItem} {st : Val}
    (inCart : (edited (Staff.getAll db) edits).posCart[k]? = some line)
    (spot : (newItems later after)[k]? = some row) (shown : Shows (Staff.getAll db) line st) :
    ∃ s ∈ db.staff.rows, st = Staff.entry s ∧ Credits later s.id row := by
  obtain ⟨n, named, credits⟩ := keyed_credited (keyed_public db) sells inCart spot shown
  obtain ⟨option, -, listed⟩ := shown
  obtain ⟨s, member, rfl⟩ := List.mem_map.mp (List.mem_of_getElem? listed)
  obtain rfl : s.id = n := by simpa [stylistId_entry] using named
  exact ⟨s, mem_orderBy.mp member, rfl, credits⟩

end Public

section Desk

/-! The list for the desk: no entry has an `id`. -/

theorem stylistId_staffEntry (u : Row User) (s : Option (Row Staff)) :
    stylistId (User.staffEntry u s) = .undefined := rfl

theorem isStylist_staffEntry (u : Row User) (s : Option (Row Staff)) :
    isStylist (User.staffEntry u s) = true ↔ u.cols.role = "stylist" := by
  have role : (User.staffEntry u s).field "role" = .str u.cols.role := rfl
  simp [isStylist, role, Val.is]

/-- The entries of the desk's list are those of the users. -/
theorem exists_user_of_mem {db : Db} {st : Val} (member : st ∈ User.getAllStaff db) :
    ∃ u ∈ db.users.rows, ∃ s, st = User.staffEntry u s := by
  obtain ⟨⟨u, s⟩, joined, rfl⟩ := List.mem_map.mp member
  exact ⟨u, fst_mem_of_mem_leftJoin (mem_orderBy.mp joined), s, rfl⟩

theorem exists_mem_of_user {db : Db} {u : Row User} (member : u ∈ db.users.rows) :
    ∃ s, User.staffEntry u s ∈ User.getAllStaff db := by
  obtain ⟨s, joined⟩ : ∃ s, (u, s) ∈ leftJoin db.users.rows db.staff.rows
      fun u s => s.cols.userId = some u.id := exists_mem_leftJoin member
  exact ⟨s, List.mem_map.mpr ⟨(u, s), mem_orderBy.mpr joined, rfl⟩⟩

/-- Without ids in the list, the cart has none. -/
theorem desk_lines (db : Db) :
    LineInvariant (User.getAllStaff db) fun line => ∀ n, line.item.stylistId ≠ .num n where
  new s itemType itemId name price unit list := by
    show ∀ n, s.firstStylist ≠ .num n
    rw [Screen.firstStylist, list]
    cases entries : User.getAllStaff db with
    | nil => simp
    | cons st rest =>
      have member : st ∈ User.getAllStaff db := by simp [entries]
      obtain ⟨u, -, s, rfl⟩ := exists_user_of_mem member
      simp [stylistId_staffEntry]
  draw _ unnamed := unnamed
  more _ _ unnamed := unnamed
  count _ _ _ _ unnamed := unnamed
  choose option st line found _ := by
    obtain ⟨u, -, s, rfl⟩ := exists_user_of_mem (List.mem_of_getElem? found)
    have none : JsId.parseInt (JsId.text .undefined) = .nan := by decide +kernel
    rw [stylistId_staffEntry, none]
    simp

theorem uncredited_desk (db : Db) : Uncredited (User.getAllStaff db) := by
  have posted : ∀ edits, ∀ line ∈ (edited (User.getAllStaff db) edits).posCart,
      line.item.json.field "stylist_id" = .null := by
    intro edits line member
    rw [CartItem.json_stylist]
    split
    · exact absurd ‹_› (rows_edited (desk_lines db) edits line member _)
    · rfl
  refine ⟨posted, fun edits e payload later after sells row member => ?_⟩
  obtain ⟨k, spot⟩ := List.mem_iff_getElem?.mp member
  obtain ⟨line, inCart, sold⟩ := sold_at sells spot
  exact uncredited_of_null sold (posted edits line (List.mem_of_getElem? inCart))

/-- A logged-in admin or receptionist receives the desk's list. -/
theorem received_desk {php : Platform} {e : Event} {db : Db} {payload : Val}
    (asked : Asks e "staff" ["GET"]) (passed : Passes php e [.admin, .receptionist] payload) :
    received php e db = User.getAllStaff db := by
  have started : index php e = AuthController.getStaffList (e.env php) :=
    (index_get asked).trans rfl
  have given : (!emptyBytes (e.env php).headers.authHeader) = true := by
    rw [Passes, AuthMiddleware.check, AuthMiddleware.ruling] at passed
    split at passed
    · cases passed
    · rename_i given
      simpa [Event.env] using given
  have answered : (index php e (.start db)).1 =
      .error (.exit ⟨200, some (.list (User.getAllStaff db))⟩) := by
    rw [started, AuthController.getStaffList, if_pos given,
      Prog.bind_of_ok (handle_run (e.env php) passed _)]
    rfl
  rw [received, serve_response, answered]
  exact Val.elems_list _

/-- For every database and every logged-in admin or receptionist: the staff list that the
client receives keeps the identity of its stylists exactly when it has none; and no sale
of a cart made from it has a stylist or a commission. -/
theorem stylist_identity_iff {php : Platform} {e : Event} {db : Db} {payload : Val}
    (asked : Asks e "staff" ["GET"]) (passed : Passes php e [.admin, .receptionist] payload) :
    (Identified db (received php e db) ↔ ∀ u ∈ db.users.rows, u.cols.role ≠ "stylist") ∧
      Uncredited (received php e db) := by
  rw [received_desk asked passed]
  refine ⟨⟨fun identified u member stylist => ?_, fun nobody => ?_⟩, uncredited_desk db⟩
  · obtain ⟨s, entry⟩ := exists_mem_of_user member
    obtain ⟨other, -, same⟩ :=
      identified.carried _ entry ((isStylist_staffEntry u s).mpr stylist)
    rw [stylistId_staffEntry] at same
    cases same
  · have none : ∀ st ∈ User.getAllStaff db, ¬ isStylist st = true := by
      intro st member stylist
      obtain ⟨u, uMember, s, rfl⟩ := exists_user_of_mem member
      exact nobody u uMember ((isStylist_staffEntry u s).mp stylist)
    exact
      { carried := fun st member stylist => absurd stylist (none st member)
        posted := fun _ _ _ st ⟨_, _, spot⟩ stylist =>
          absurd stylist (none st (List.mem_of_getElem? spot))
        credited := fun _ _ _ _ _ _ _ _ _ st _ _ ⟨_, _, spot⟩ stylist =>
          absurd stylist (none st (List.mem_of_getElem? spot)) }

/-- The administrator opens the POS page. -/
def staffRequest : Event := adminRequest "staff" "GET" []

theorem asks_staffRequest : Asks staffRequest "staff" ["GET"] :=
  ⟨rfl, by simp [staffRequest, adminRequest, adminRequestAt]⟩

theorem seeded_staff_list : ∃ payload,
    Passes recorded staffRequest [.admin, .receptionist] payload ∧
      ((Identified morningDb (received recorded staffRequest morningDb) ↔
        ∀ u ∈ morningDb.users.rows, u.cols.role ≠ "stylist") ∧
        Uncredited (received recorded staffRequest morningDb)) := by
  obtain ⟨payload, passed⟩ : ∃ payload,
      Passes recorded staffRequest [.admin, .receptionist] payload :=
    exists_passes (by decide +kernel)
  exact ⟨payload, passed, stylist_identity_iff asks_staffRequest passed⟩

/-- The first service in the cart shows a stylist and posts none. -/
theorem haircut_uncredited :
    ¬ Identified morningDb (received recorded staffRequest morningDb) := by
  intro identified
  obtain ⟨payload, passed⟩ : ∃ payload,
      Passes recorded staffRequest [.admin, .receptionist] payload :=
    exists_passes (by decide +kernel)
  rw [received_desk asks_staffRequest passed] at identified
  let haircut : List CartEdit := [.add "service" 1 "Haircut" 45]
  have shown : ((edited (User.getAllStaff morningDb) haircut).posCart.any fun line =>
      (line.selected.bind fun option => (User.getAllStaff morningDb)[option]?).any isStylist) =
      true := by decide +kernel
  obtain ⟨line, member, stylist⟩ := List.any_eq_true.mp shown
  obtain ⟨st, found, isIt⟩ := (Option.any_eq_true _ _).mp stylist
  obtain ⟨option, selected, spot⟩ := Option.bind_eq_some_iff.mp found
  obtain ⟨s, -, -, posted⟩ := identified.posted haircut line member st ⟨option, selected, spot⟩ isIt
  rw [(uncredited_desk morningDb).posted haircut line member] at posted
  cases posted

end Desk

end Saloon.Guarantees
