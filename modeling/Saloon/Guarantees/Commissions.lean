import Saloon.Guarantees.Books
import Saloon.Guarantees.Correspondence

/-!
# The two commission views

The report groups the lines by staff row, a stylist's payouts join them through
invoices and staff. Both show every credited line once: a line's invoice and
stylist exist, a line without a stylist has no commission, and a stylist has
one staff row.
-/
namespace Saloon.Guarantees

open Lib Source

/-- The stylist of a line exists, and a line without one has no commission. -/
def CreditsHold (db : Db) : Prop :=
  ∀ x ∈ db.invoiceItems.rows,
    (∀ s, x.cols.stylistId = some s → ∃ r ∈ db.staff.rows, r.id = s) ∧
      (x.cols.stylistId = none → x.cols.commissionPaid = 0)

/-- The figure that the payouts endpoint adds up for a user. -/
def totalEarned (userId : SqlVal) (db : Db) : Rat :=
  ((Invoice.getStylistPayouts userId db).map fun p => (p.field "commission_paid").floatval).sum

section Credits

variable {php : Platform} {e : Event} {user : Option Val} {db after : Db}

theorem Served.credits (served : Served php e user db after) (holds : CreditsHold db) :
    CreditsHold after := by
  have staff := served.writes.rows.staff
  have kept : ∀ s, (∃ r ∈ db.staff.rows, r.id = s) → ∃ r ∈ after.staff.rows, r.id = s := by
    rintro s ⟨r, member, rfl⟩
    exact staff.exists_id member
  intro x member
  cases served.books_cases with
  | same invoices items | client c unspent invoices items | product asked p stocked invoices items
    | stock asked checked invoices items =>
    rw [items] at member
    exact ⟨fun s named => kept s ((holds x member).1 s named), (holds x member).2⟩
  | sale sale sound source invoices items =>
    rw [items] at member
    rcases Table.mem_foldl_insert member with old | new
    · exact ⟨fun s named => kept s ((holds x old).1 s named), (holds x old).2⟩
    · exact ⟨fun s named => kept s (sound.stylist _ new s named), sound.uncredited _ new⟩

theorem credits_hold (php : Platform) (hash : String → String) (clock : Clock)
    (events : List Event) : CreditsHold (afterRun php hash clock events) :=
  afterRun_keeps (fun _ _ _ member => by cases member) (fun _ _ _ _ served => served.credits) hash
    clock events

end Credits

section Report

variable {db : Db}

/-- Over distinct ids an amount that is for one of them, or is zero, counts once. -/
theorem sum_credited {ids : List Nat} (nodup : ids.Nodup) {stylist : Option Nat} {amount : Rat}
    (known : ∀ s, stylist = some s → s ∈ ids) (free : stylist = none → amount = 0) :
    (ids.map fun i => if stylist = some i then amount else 0).sum = amount := by
  cases stylist with
  | none => simp [free rfl]
  | some s =>
    have single := List.sum_map_eq_nsmul_single (l := ids) s
      (fun i => if some s = some i then amount else 0)
      fun i other _ => if_neg fun same => other (Option.some.inj same).symm
    rw [single, List.count_eq_one_of_mem nodup (known s rfl), if_pos rfl, one_nsmul]

/-- The figures of the staff rows add up to all commissions. -/
theorem sum_commissionEarned (holds : CreditsHold db) :
    (db.staff.rows.map fun s => Invoice.commissionEarned s.id db).sum =
      (db.invoiceItems.rows.map fun x => x.cols.commissionPaid).sum := by
  unfold Invoice.commissionEarned Table.sumOver
  unfold CreditsHold at holds
  generalize db.invoiceItems.rows = rows at holds ⊢
  induction rows with
  | nil => simp
  | cons x rows ih =>
    have first : ∀ s : Row Staff, (((x :: rows).filter fun r => r.cols.stylistId = some s.id).map
        fun r => r.cols.commissionPaid).sum =
        (if x.cols.stylistId = some s.id then x.cols.commissionPaid else 0) +
          ((rows.filter fun r => r.cols.stylistId = some s.id).map
            fun r => r.cols.commissionPaid).sum := by
      intro s
      by_cases own : x.cols.stylistId = some s.id <;> simp [own]
    obtain ⟨known, free⟩ := holds x (by simp)
    have credited : (db.staff.rows.map fun s =>
        if x.cols.stylistId = some s.id then x.cols.commissionPaid else 0).sum =
        x.cols.commissionPaid := by
      have byId := sum_credited db.staff.ids_nodup
        (fun s named => List.mem_map.mpr (known s named)) free
      rwa [List.map_map] at byId
    rw [List.map_congr_left fun s _ => first s, List.sum_map_add, credited,
      ih fun y member => holds y (by simp [member]), List.map_cons, List.sum_cons]

theorem report_staff (db : Db) :
    ((Invoice.getCommissionReport db).map fun row => row.field "staff_id").Perm
      (db.staff.rows.map fun s => .int s.id) := by
  rw [Invoice.getCommissionReport, List.map_map]
  exact (perm_orderBy _ _).map _

theorem report_total (holds : CreditsHold db) :
    ((Invoice.getCommissionReport db).map
      fun row => (row.field "total_commission_earned").floatval).sum =
      (db.invoiceItems.rows.map fun x => x.cols.commissionPaid).sum := by
  rw [← sum_commissionEarned holds, Invoice.getCommissionReport, List.map_map]
  exact ((perm_orderBy _ _).map _).sum_eq

/-- The report's row of a staff member. -/
theorem report_row {s : Row Staff} (member : s ∈ db.staff.rows) :
    ∃ row ∈ Invoice.getCommissionReport db, row.field "staff_id" = .int s.id ∧
      (row.field "total_commission_earned").floatval = Invoice.commissionEarned s.id db := by
  refine ⟨_, List.mem_map.mpr ⟨s, mem_orderBy.mpr member, rfl⟩, rfl, rfl⟩

end Report

section Payouts

variable {db : Db} {u : Row User} {s : Row Staff}

/-- The joins keep the lines of the staff member, and each once. -/
theorem payouts_items
    (invoiced : ∀ x ∈ db.invoiceItems.rows, ∃ i ∈ db.invoices.rows, i.id = x.cols.invoiceId)
    (member : s ∈ db.staff.rows) (profile : s.cols.userId = some u.id)
    (single : ∀ t ∈ db.staff.rows, t.cols.userId = some u.id → t = s) :
    (Invoice.payouts (.num u.id) db).map Invoice.Payout.item =
      db.invoiceItems.rows.filter fun x => x.cols.stylistId = some s.id := by
  rw [Invoice.payouts, List.map_flatMap]
  refine flatMap_eq_filter fun x xMember => ?_
  obtain ⟨i, iMember, invoice⟩ := invoiced x xMember
  have oneInvoice : (db.invoices.rows.filter fun inv => inv.id = x.cols.invoiceId) = [i] := by
    refine Table.filter_of_unique iMember (by simpa using invoice) fun j jMember same => ?_
    refine db.invoices.eq_of_id_eq jMember iMember ?_
    rw [invoice]
    simpa using same
  rw [oneInvoice, List.flatMap_singleton, List.map_map]
  by_cases credited : x.cols.stylistId = some s.id
  · have oneStaff : (db.staff.rows.filter fun t =>
        x.cols.stylistId = some t.id && hasUserId (.num u.id) t) = [s] := by
      refine Table.filter_of_unique member (by simp [credited, hasUserId_num.mpr profile])
        fun t tMember selected => ?_
      rw [Bool.and_eq_true] at selected
      exact single t tMember (hasUserId_num.mp selected.2)
    rw [oneStaff]
    simp [credited]
  · have noStaff : (db.staff.rows.filter fun t =>
        x.cols.stylistId = some t.id && hasUserId (.num u.id) t) = [] := by
      rw [List.filter_eq_nil_iff]
      intro t tMember selected
      simp only [Bool.and_eq_true, decide_eq_true_eq] at selected
      rw [single t tMember (hasUserId_num.mp selected.2)] at selected
      exact credited selected.1
    rw [noStaff]
    simp [credited]

/-- The two views of a staff member's lines: the payouts' figure is the report's. -/
theorem totalEarned_eq
    (items : (Invoice.payouts (.num u.id) db).map Invoice.Payout.item =
      db.invoiceItems.rows.filter fun x => x.cols.stylistId = some s.id) :
    totalEarned (.num u.id) db = Invoice.commissionEarned s.id db := by
  rw [totalEarned, Invoice.getStylistPayouts, List.map_map, Invoice.commissionEarned, Table.sumOver,
    ← items, List.map_map]
  exact ((perm_orderBy _ _).map _).sum_eq

theorem payouts_ids
    (items : (Invoice.payouts (.num u.id) db).map Invoice.Payout.item =
      db.invoiceItems.rows.filter fun x => x.cols.stylistId = some s.id) :
    ((Invoice.getStylistPayouts (.num u.id) db).map fun p => p.field "id").Perm
      ((db.invoiceItems.rows.filter fun x => x.cols.stylistId = some s.id).map
        fun x => .int x.id) := by
  rw [Invoice.getStylistPayouts, List.map_map, ← items, List.map_map]
  exact (perm_orderBy _ _).map _

/-- The left joins to services and products change nothing in that. -/
theorem payoutsJoined_items (userId : SqlVal) (db : Db) :
    ((Invoice.payoutsJoined userId db).map fun q => q.1.1.item) =
      (Invoice.payouts userId db).map Invoice.Payout.item := by
  have names := congrArg (List.map fun n => n.1.item) (Invoice.payoutsJoined_names userId db)
  rwa [List.map_map, List.map_map] at names

end Payouts

section Endpoints

variable {php : Platform} {e : Event} {db : Db} {payload : Val}

theorem serve_report (asked : Asks e "commission_report" ["GET"])
    (checked : Passes php e [.admin, .receptionist] payload) :
    (serve php e db).response = ⟨200, some (.list (Invoice.getCommissionReport db))⟩ := by
  have routed : index php e = POSController.getCommissionReport (e.env php) :=
    (index_get asked).trans rfl
  rw [serve_response, routed, POSController.getCommissionReport,
    Prog.bind_of_ok (handle_run (e.env php) checked _)]
  rfl

theorem serve_payouts (asked : Asks e "stylist_payouts" ["GET"])
    (checked : Passes php e [.stylist] payload) :
    (serve php e db).response = ⟨200, some (.arr
      [("total_earned", .float (totalEarned (payload.field "id").key db)),
        ("payouts", .list (Invoice.getStylistPayouts (payload.field "id").key db))])⟩ := by
  have routed : index php e = POSController.getStylistPayouts (e.env php) :=
    (index_get asked).trans rfl
  rw [serve_response, routed, POSController.getStylistPayouts,
    Prog.bind_of_ok (handle_run (e.env php) checked _)]
  rfl

end Endpoints

/-- After every run the commission report has one row for each staff row, and its figures
add up to all commissions; each stylist has one staff row, whose figure is what the
stylist's payouts add up to, and whose lines are what the joins give, each once. -/
theorem commission_views_agree (php : Platform) (hash : String → String) (clock : Clock)
    (events : List Event) :
    let db := afterRun php hash clock events
    ((Invoice.getCommissionReport db).map
      fun row => (row.field "total_commission_earned").floatval).sum =
      (db.invoiceItems.rows.map fun x => x.cols.commissionPaid).sum ∧
    ((Invoice.getCommissionReport db).map fun row => row.field "staff_id").Perm
      (db.staff.rows.map fun s => .int s.id) ∧
    (∀ u ∈ db.users.rows, u.cols.role = "stylist" →
      ∃ s ∈ db.staff.rows, s.cols.userId = some u.id ∧
        (∀ t ∈ db.staff.rows, t.cols.userId = some u.id → t = s) ∧
        (∃ row ∈ Invoice.getCommissionReport db, row.field "staff_id" = .int s.id ∧
          (row.field "total_commission_earned").floatval = totalEarned (.num u.id) db) ∧
        ((Invoice.getStylistPayouts (.num u.id) db).map fun p => p.field "id").Perm
          ((db.invoiceItems.rows.filter fun x => x.cols.stylistId = some s.id).map
            fun x => .int x.id) ∧
        ((Invoice.payoutsJoined (.num u.id) db).map fun q => q.1.1.item) =
          db.invoiceItems.rows.filter fun x => x.cols.stylistId = some s.id) ∧
    (∀ e payload, Asks e "commission_report" ["GET"] →
      Passes php e [.admin, .receptionist] payload →
      (serve php e db).response = ⟨200, some (.list (Invoice.getCommissionReport db))⟩) ∧
    ∀ e payload, Asks e "stylist_payouts" ["GET"] → Passes php e [.stylist] payload →
      (serve php e db).response = ⟨200, some (.arr
        [("total_earned", .float (totalEarned (payload.field "id").key db)),
          ("payouts", .list (Invoice.getStylistPayouts (payload.field "id").key db))])⟩ := by
  intro db
  have roster : RosterHolds db := roster_holds php hash clock events
  have books : BooksHold (seedClients clock.now) db := books_hold php hash clock events
  refine ⟨report_total (credits_hold php hash clock events), report_staff db,
    fun u member stylist => ?_, fun e payload => serve_report, fun e payload => serve_payouts⟩
  obtain ⟨s, sMember, profile, -⟩ := roster.profiles u member stylist
  have single : ∀ t ∈ db.staff.rows, t.cols.userId = some u.id → t = s := fun t tMember same =>
    roster.single t tMember s sMember (same.trans profile.symm)
  have items := payouts_items books.invoiced sMember profile single
  obtain ⟨row, rowMember, staffId, figure⟩ := report_row sMember
  exact ⟨s, sMember, profile, single,
    ⟨row, rowMember, staffId, figure.trans (totalEarned_eq items).symm⟩, payouts_ids items,
    (payoutsJoined_items _ _).trans items⟩

end Saloon.Guarantees
