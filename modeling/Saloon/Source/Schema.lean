import Mathlib.Tactic.Simps.Basic
import Saloon.Lib.Table
import Saloon.Source.Php

/-!
# The SQLite tables

`core/Database.php:35-155`, `createTables`. TEXT columns are never NULL in this code
and hold texts; REAL columns are exact rationals, and an amount is stored as
it is, not as the fourteen digits that PDO binds; an INTEGER column under a
foreign key is null or the id of a row of its parent. DATE columns and
`item_id`, which has no foreign key, store whatever they are bound to after
their column's numeric affinity.
-/
namespace Saloon.Source

open Lib

/-- A stored value: the storage classes of SQLite with integers and reals joined. -/
inductive SqlVal where
  | null
  | num (q : Rat)
  | text (s : String)
  deriving DecidableEq

/-- What a parameter becomes in, or compared to, a column of numeric affinity.
PDO binds every value but null as text, a float with fourteen digits, and a text
that is a number as a whole turns into it. -/
def Val.key : Val → SqlVal
  | .null => .null
  | .bool b => if b then .num 1 else .text ""
  | .int n => .num n
  | .float q =>
    match Numeral.whole (floatText q).toList with
    | some r => .num r
    | none => .text (floatText q)
  | .str s =>
    match Numeral.whole s.toList with
    | some q => .num q
    | none => .text s
  | .arr _ => .text "Array"

/-- The date key of a date text. -/
def dateKey (date : String) : SqlVal := (Val.str date).key

/-- A column's value as it is fetched: an integer where it is one. -/
def SqlVal.fetch : SqlVal → Val
  | .null => .null
  | .num q => if q.den = 1 then .int q.num else .float q
  | .text s => .str s

/-- A column with an id, fetched. -/
def Val.ofId : Option Nat → Val
  | none => .null
  | some i => .int i

/-- A text column, fetched through a join that may have no row for it. -/
def Val.ofText : Option String → Val
  | none => .null
  | some s => .str s

def DateTime.text (t : DateTime) : String := t.date ++ " " ++ t.time

def Val.ofDateTime (t : DateTime) : Val := .str t.text

structure User where
  name : String
  username : String
  passwordHash : String
  /-- admin, receptionist, stylist -/
  role : String
  commissionRate : Rat
  /-- percentage, fixed -/
  commissionType : String
  createdAt : DateTime
  deriving DecidableEq

structure Service where
  name : String
  description : String
  durationMins : Int
  price : Rat
  category : String
  deriving DecidableEq

structure Staff where
  userId : Option Nat
  name : String
  role : String
  specializations : String
  /-- available, in_service, off -/
  status : String
  deriving DecidableEq

structure Client where
  name : String
  email : String
  phone : String
  totalSpent : Rat
  lastVisit : SqlVal
  createdAt : DateTime
  deriving DecidableEq

structure Appointment where
  clientId : Option Nat
  staffId : Option Nat
  serviceId : Option Nat
  appointmentDate : SqlVal
  startTime : String
  endTime : String
  /-- upcoming, active, completed, cancelled -/
  status : String
  /-- pre-booked, walk-in -/
  clientType : String
  createdAt : DateTime
  deriving DecidableEq

structure Product where
  name : String
  description : String
  price : Rat
  stockQuantity : Rat
  /-- salon_consumption, retail_sale -/
  category : String
  minStockAlert : Rat
  deriving DecidableEq

structure Invoice where
  clientId : Option Nat
  loggedBy : Nat
  /-- cash, digital -/
  paymentMethod : String
  paymentStatus : String
  totalAmount : Rat
  appointmentId : Option Nat
  createdAt : DateTime
  deriving DecidableEq

structure InvoiceItem where
  invoiceId : Nat
  /-- service, product -/
  itemType : String
  itemId : SqlVal
  stylistId : Option Nat
  quantity : Int
  price : Rat
  commissionPaid : Rat
  deriving DecidableEq

structure Expense where
  category : String
  amount : Rat
  description : String
  expenseDate : SqlVal
  loggedBy : Nat
  createdAt : DateTime
  deriving DecidableEq

structure CashReconciliation where
  /-- UNIQUE -/
  reconciliationDate : SqlVal
  openingCash : Rat
  totalCashSales : Rat
  digitalPayments : Rat
  loggedExpenses : Rat
  closingBalance : Rat
  /-- open, closed -/
  status : String
  closedBy : Option Nat
  closedAt : Option DateTime
  deriving DecidableEq

@[ext] structure Db where
  users : Table User
  services : Table Service
  staff : Table Staff
  clients : Table Client
  appointments : Table Appointment
  products : Table Product
  invoices : Table Invoice
  invoiceItems : Table InvoiceItem
  expenses : Table Expense
  cashReconciliation : Table CashReconciliation

namespace Db

@[simps] def setUsers (db : Db) (t : Table User) : Db := { db with users := t }

@[simps] def setServices (db : Db) (t : Table Service) : Db := { db with services := t }

@[simps] def setStaff (db : Db) (t : Table Staff) : Db := { db with staff := t }

@[simps] def setClients (db : Db) (t : Table Client) : Db := { db with clients := t }

@[simps] def setAppointments (db : Db) (t : Table Appointment) : Db :=
  { db with appointments := t }

@[simps] def setProducts (db : Db) (t : Table Product) : Db := { db with products := t }

@[simps] def setInvoices (db : Db) (t : Table Invoice) : Db := { db with invoices := t }

@[simps] def setInvoiceItems (db : Db) (t : Table InvoiceItem) : Db :=
  { db with invoiceItems := t }

@[simps] def setExpenses (db : Db) (t : Table Expense) : Db := { db with expenses := t }

@[simps] def setCashReconciliation (db : Db) (t : Table CashReconciliation) : Db :=
  { db with cashReconciliation := t }

end Db

section Keys

variable {α : Type}

/-- `WHERE id = :id` with a bound parameter. -/
def byId (k : SqlVal) (r : Row α) : Bool := SqlVal.num r.id = k

/-- `SELECT … WHERE id = :id`. -/
def lookup (t : Table α) (k : SqlVal) : Option (Row α) := t.find? (byId k)

/-- A value for a column with a foreign key into `t`: NULL passes, anything else
must be the id of a row. -/
def foreignKey (t : Table α) (k : SqlVal) : Option (Option Nat) :=
  if k = .null then some none else (lookup t k).map fun r => some r.id

@[simp] theorem byId_iff {k : SqlVal} {r : Row α} : byId k r = true ↔ SqlVal.num r.id = k := by
  simp [byId]

theorem lookup_eq_some {t : Table α} {k : SqlVal} {r : Row α} :
    lookup t k = some r ↔ r ∈ t.rows ∧ k = .num r.id := by
  constructor
  · intro found
    obtain ⟨member, selected⟩ := Table.mem_of_find? found
    exact ⟨member, (byId_iff.mp selected).symm⟩
  · rintro ⟨member, rfl⟩
    refine Table.find?_of_unique member (by simp) fun s sMember selected => ?_
    refine t.eq_of_id_eq sMember member ?_
    simpa using byId_iff.mp selected

theorem lookup_eq_none {t : Table α} {k : SqlVal} :
    lookup t k = none ↔ ∀ r ∈ t.rows, SqlVal.num r.id ≠ k := by
  simp [lookup, Table.find?_eq_none, byId]

/-- A row is found under its id whatever its columns became. -/
theorem lookup_modify (t : Table α) (p : Row α → Bool) (f : α → α) (k : SqlVal) :
    lookup (t.modify p f) k =
      (lookup t k).map fun r => if p r then { r with cols := f r.cols } else r := by
  have same : (byId k ∘ fun r => if p r then { r with cols := f r.cols } else r) = byId k := by
    funext r
    simp only [Function.comp_apply, byId]
    split <;> rfl
  rw [lookup, Table.find?, Table.modify, List.find?_map, same]
  rfl

theorem foreignKey_eq_some {t : Table α} {k : SqlVal} {i : Nat} :
    foreignKey t k = some (some i) ↔ k = .num i ∧ ∃ r ∈ t.rows, r.id = i := by
  unfold foreignKey
  constructor
  · intro found
    split at found
    · simp at found
    · simp only [Option.map_eq_some_iff, Option.some.injEq] at found
      obtain ⟨r, hit, rfl⟩ := found
      obtain ⟨member, rfl⟩ := lookup_eq_some.mp hit
      exact ⟨rfl, r, member, rfl⟩
  · rintro ⟨rfl, r, member, rfl⟩
    rw [if_neg (by simp), lookup_eq_some.mpr ⟨member, rfl⟩]
    rfl

theorem foreignKey_eq_none_id {t : Table α} {k : SqlVal} :
    foreignKey t k = some none ↔ k = .null := by
  unfold foreignKey
  split
  · simp_all
  · simp_all [Option.map_eq_some_iff]

theorem exists_of_foreignKey {t : Table α} {k : SqlVal} {i : Option Nat}
    (found : foreignKey t k = some i) (given : k ≠ .null) : ∃ r ∈ t.rows, i = some r.id := by
  cases i with
  | none => exact absurd (foreignKey_eq_none_id.mp found) given
  | some i =>
    obtain ⟨-, r, member, rfl⟩ := foreignKey_eq_some.mp found
    exact ⟨r, member, rfl⟩

/-- An id column bound as it was fetched is stored as it was. -/
theorem eq_of_foreignKey_ofId {t : Table α} {i j : Option Nat}
    (found : foreignKey t (Val.ofId i).key = some j) : j = i := by
  cases i with
  | none =>
    have absent : foreignKey t (Val.ofId none).key = some none := foreignKey_eq_none_id.mpr rfl
    exact Option.some.inj (found.symm.trans absent)
  | some i =>
    obtain ⟨r, member, rfl⟩ := exists_of_foreignKey found (by simp [Val.ofId, Val.key])
    obtain ⟨key, -⟩ := foreignKey_eq_some.mp found
    simp only [Val.ofId, Val.key, SqlVal.num.injEq] at key
    rw [Option.some.injEq]
    exact_mod_cast key.symm

end Keys

theorem key_eq_null {v : Val} : v.key = .null ↔ v = .null := by
  cases v with
  | bool b => cases b <;> simp [Val.key]
  | float q =>
    simp only [Val.key]
    split <;> simp
  | str s =>
    simp only [Val.key]
    split <;> simp
  | _ => simp [Val.key]

/-- A parameter that names a row is truthy: ids begin at one. -/
theorem truthy_of_key {v : Val} {i : Nat} (pos : 1 ≤ i) (key : v.key = .num i) :
    v.truthy = true := by
  have nonzero : (i : Rat) ≠ 0 := by exact_mod_cast Nat.one_le_iff_ne_zero.mp pos
  cases v with
  | null => simp [Val.key] at key
  | bool b =>
    cases b
    · simp [Val.key] at key
    · rfl
  | int n =>
    simp only [Val.key, SqlVal.num.injEq] at key
    have : n ≠ 0 := by
      rintro rfl
      exact nonzero key.symm
    simp [Val.truthy, this]
  | float q =>
    have notZero : q ≠ 0 := by
      rintro rfl
      have zero : Numeral.whole (floatText 0).toList = some 0 := by decide +kernel
      simp only [Val.key, zero, SqlVal.num.injEq] at key
      exact nonzero key.symm
    simp [Val.truthy, notZero]
  | str s =>
    have notEmpty : s ≠ "" := by
      rintro rfl
      simp [Val.key, Numeral.whole, Numeral.scan, Numeral.splitSign, Numeral.afterDigits,
        Numeral.digits, Numeral.splitFraction] at key
    have notZero : s ≠ "0" := by
      rintro rfl
      have zero : Numeral.whole "0".toList = some 0 := by decide +kernel
      simp only [Val.key, zero, SqlVal.num.injEq] at key
      exact nonzero key.symm
    simp [Val.truthy, notEmpty, notZero]
  | arr entries => simp [Val.key] at key

theorem isDigit_of_mem_fourDigits {n : Nat} {c : Char} (member : c ∈ fourDigits n) :
    c.isDigit = true := by
  simp only [fourDigits, List.leftpad, List.mem_append, List.mem_replicate] at member
  rcases member with ⟨_, rfl⟩ | digit
  · decide
  · exact Nat.isDigit_of_mem_toDigits (by decide) (by decide) digit

theorem fourDigits_ne_nil (n : Nat) : fourDigits n ≠ [] := by
  intro empty
  have := congrArg List.length empty
  simp only [fourDigits, List.length_leftpad, List.length_nil] at this
  omega

/-- No day from the year 0000 on has a negative year. -/
theorem year_nonneg {days : Int} (anno : -719528 ≤ days) : 0 ≤ (civil days).year := by
  have inEra : 0 ≤ days + 719468 ∨ (days + 719468) / 146097 = -1 ∧
      146037 ≤ ((days + 719468) % 146097).toNat ∧ ((days + 719468) % 146097).toNat ≤ 146096 := by
    omega
  simp only [civil]
  rcases inEra with later | ⟨era, low, high⟩
  · split <;> omega
  -- the sixty days before the first of March of the year 0000 end the era before
  · rw [era]
    generalize ((days + 719468) % 146097).toNat = doe at low high ⊢
    have yoe : (doe - doe / 1460 + doe / 36524 - doe / 146096) / 365 = 399 := by omega
    rw [yoe]
    split <;> omega

/-- A date column keeps a day of the server's calendar as the text it is. -/
theorem dateKey_dateYmd {ts : Int} (anno : -62167219200 ≤ ts) :
    dateKey (dateYmd ts) = .text (dateYmd ts) := by
  have year : 0 ≤ (civil (ts / 86400)).year := year_nonneg (by omega)
  obtain ⟨d, ds, first⟩ :=
    List.exists_cons_of_ne_nil (fourDigits_ne_nil (civil (ts / 86400)).year.natAbs)
  have digit : ∀ c ∈ d :: ds, c.isDigit = true := by
    rw [← first]
    exact fun c => isDigit_of_mem_fourDigits
  have notNumber : Numeral.whole (dateYmd ts).toList = none := by
    simp only [dateYmd, if_neg (Int.not_lt.mpr year), first, String.toList_ofList, List.cons_append]
    exact Numeral.whole_eq_none_of_dash d ds _ (digit d (by simp))
      (fun c member => digit c (by simp [member]))
  simp [dateKey, Val.key, notNumber]

theorem dateKey_today (c : Clock) : dateKey c.today = .text c.today :=
  dateKey_dateYmd (le_trans (by decide) c.epoch)

section Seed

def seedServices : Table Service := .ofList [
  ⟨"Women's Haircut", "Includes wash & blowdry", 60, 85, "Haircuts & Styling"⟩,
  ⟨"Men's Haircut", "Includes wash & style", 45, 45, "Haircuts & Styling"⟩,
  ⟨"Blowout", "Wash & premium blowout", 45, 55, "Haircuts & Styling"⟩,
  ⟨"Full Color", "Single process color", 90, 120, "Color & Highlights"⟩,
  ⟨"Partial Highlights", "Crown & front frame", 120, 145, "Color & Highlights"⟩,
  ⟨"Balayage", "Hand-painted highlights", 180, 210, "Color & Highlights"⟩]

def seedStaff : Table Staff := .ofList [
  ⟨some 3, "Emma Watson", "Master Stylist", "Colorist, Balayage", "available"⟩,
  ⟨some 4, "David Lee", "Senior Barber", "Men's Cuts, Fades", "available"⟩]

def seedProducts : Table Product := .ofList [
  ⟨"Premium Hair Wax", "Strong hold styling wax", 18, 50, "retail_sale", 10⟩,
  ⟨"Argan Styling Oil", "Hydrating organic argan oil", 35, 30, "retail_sale", 5⟩,
  ⟨"Dye Developer 20V", "Fractional professional developer", 0, 150, "salon_consumption", 20⟩,
  ⟨"Shampoo Gallon", "Backbar salon shampoo", 0, 25 / 2, "salon_consumption", 3⟩]

def seedClients (now : DateTime) : Table Client := .ofList [
  ⟨"Amanda Smith", "amanda.s@example.com", "+1 (555) 234-5678", 850, dateKey "2026-06-10", now⟩,
  ⟨"John Doe", "john.doe@example.com", "+1 (555) 345-6789", 210, dateKey "2026-06-12", now⟩]

/-- `hash` gives the four bcrypt hashes of the seed passwords. -/
def seedUsers (hash : String → String) (now : DateTime) : Table User := .ofList [
  ⟨"System Administrator", "admin", hash "adminpass", "admin", 0, "percentage", now⟩,
  ⟨"Sarah Receptionist", "recep", hash "receppass", "receptionist", 0, "percentage", now⟩,
  ⟨"Emma Watson", "emma", hash "emmapass", "stylist", 40, "percentage", now⟩,
  ⟨"David Lee", "david", hash "davidpass", "stylist", 30, "percentage", now⟩]

def seedAppointments (date : String) (now : DateTime) : Table Appointment := .ofList [
  ⟨some 1, some 1, some 6, dateKey date, "10:00:00", "13:00:00", "active", "pre-booked", now⟩,
  ⟨some 2, some 2, some 2, dateKey date, "13:30:00", "14:15:00", "upcoming", "pre-booked", now⟩]

def seedDrawer (date : String) : Table CashReconciliation := .ofList [
  ⟨dateKey date, 200, 0, 0, 0, 200, "open", none, none⟩]

/-- The database that `createTables` leaves on the day of `clock`. -/
def seed (hash : String → String) (clock : Clock) : Db where
  users := seedUsers hash clock.now
  services := seedServices
  staff := seedStaff
  clients := seedClients clock.now
  appointments := seedAppointments clock.today clock.now
  products := seedProducts
  invoices := .empty
  invoiceItems := .empty
  expenses := .empty
  cashReconciliation := seedDrawer clock.today

end Seed

end Saloon.Source
