import Mathlib.Tactic.IntervalCases
import Saloon.Lib.Interleave
import Saloon.Source.Router

/-!
# The first connection

`core/Database.php:7-33` (`getConnection`) and `core/Database.php:35-202`
(`createTables`), statement by statement. Whether to initialise is decided before the
file is opened, and opening it makes it. The statements of the three batches commit
one by one; one that throws ends the request with a 500, and a process can be killed
at any point.
-/
namespace Saloon.Source

open Lib

/-- The database file: a table is there once it is created. -/
structure DbFile where
  users : Option (Table User)
  services : Option (Table Service)
  staff : Option (Table Staff)
  clients : Option (Table Client)
  appointments : Option (Table Appointment)
  products : Option (Table Product)
  invoices : Option (Table Invoice)
  invoiceItems : Option (Table InvoiceItem)
  expenses : Option (Table Expense)
  cashReconciliation : Option (Table CashReconciliation)

def noSuchTable (name : String) : Thrown :=
  .exception ("SQLSTATE[HY000]: General error: 1 no such table: " ++ name)

def Db.file (db : Db) : DbFile where
  users := some db.users
  services := some db.services
  staff := some db.staff
  clients := some db.clients
  appointments := some db.appointments
  products := some db.products
  invoices := some db.invoices
  invoiceItems := some db.invoiceItems
  expenses := some db.expenses
  cashReconciliation := some db.cashReconciliation

namespace DbFile

variable {α : Type}

def empty : DbFile := ⟨none, none, none, none, none, none, none, none, none, none⟩

/-- The database of a file that has all its tables. -/
def db? (f : DbFile) : Option Db :=
  match f with
  | ⟨some users, some services, some staff, some clients, some appointments, some products,
      some invoices, some invoiceItems, some expenses, some cashReconciliation⟩ =>
    some ⟨users, services, staff, clients, appointments, products, invoices, invoiceItems, expenses,
      cashReconciliation⟩
  | _ => none

/-- CREATE TABLE IF NOT EXISTS. -/
def created (t : Option (Table α)) : Option (Table α) := some (t.getD .empty)

/-- One INSERT: all its rows, or none of them. -/
def insertRows (name : String) (t : Option (Table α)) (rows : List α)
    (refusal : Table α → Option Thrown) : Except Thrown (Option (Table α)) :=
  match t with
  | none => .error (noSuchTable name)
  | some t =>
    match refusal t with
    | some why => .error why
    | none => .ok (some (rows.foldl Table.insert t))

/-- The rows that an INSERT of the seed data lists. -/
def seedRows (t : Table α) : List α := t.rows.map Row.cols

/-- A foreign key into a table that the same process has created. -/
def refers (parent : Option (Table α)) (id : Option Nat) : Bool :=
  match parent, id with
  | _, none => true
  | some t, some i => t.rows.any fun r => r.id = i
  | none, some _ => false

def insertUsers (hash : String → String) (clock : Clock) (f : DbFile) : Except Thrown DbFile := do
  let rows := seedRows (seedUsers hash clock.now)
  let users ← insertRows "users" f.users rows fun t =>
    if rows.any fun u => t.rows.any fun r => r.cols.username = u.username then
      some (uniqueFailed "users.username")
    else none
  pure { f with users }

def insertServices (f : DbFile) : Except Thrown DbFile := do
  let services ← insertRows "services" f.services (seedRows seedServices) fun _ => none
  pure { f with services }

def insertStaff (f : DbFile) : Except Thrown DbFile := do
  let rows := seedRows seedStaff
  let staff ← insertRows "staff" f.staff rows fun _ =>
    if rows.all fun s => refers f.users s.userId then none else some foreignKeyFailed
  pure { f with staff }

def insertProducts (f : DbFile) : Except Thrown DbFile := do
  let products ← insertRows "products" f.products (seedRows seedProducts) fun _ => none
  pure { f with products }

def insertClients (clock : Clock) (f : DbFile) : Except Thrown DbFile := do
  let clients ← insertRows "clients" f.clients (seedRows (seedClients clock.now)) fun _ => none
  pure { f with clients }

def insertAppointments (clock : Clock) (f : DbFile) : Except Thrown DbFile := do
  let rows := seedRows (seedAppointments clock.today clock.now)
  let appointments ← insertRows "appointments" f.appointments rows fun _ =>
    if rows.all fun a =>
      refers f.clients a.clientId && refers f.staff a.staffId && refers f.services a.serviceId
    then none else some foreignKeyFailed
  pure { f with appointments }

def insertReconciliation (clock : Clock) (f : DbFile) : Except Thrown DbFile := do
  let rows := seedRows (seedDrawer clock.today)
  let cashReconciliation ← insertRows "cash_reconciliation" f.cashReconciliation rows fun t =>
    if rows.any fun d => t.rows.any fun r =>
      r.cols.reconciliationDate = d.reconciliationDate then
      some (uniqueFailed "cash_reconciliation.reconciliation_date")
    else none
  pure { f with cashReconciliation }

/-- The statements of `createTables`: the schema, and the two batches of seed data. -/
def createTables (hash : String → String) (clock : Clock) :
    List (DbFile → Except Thrown DbFile) := [
  fun f => .ok { f with users := created f.users },
  fun f => .ok { f with services := created f.services },
  fun f => .ok { f with staff := created f.staff },
  fun f => .ok { f with clients := created f.clients },
  fun f => .ok { f with appointments := created f.appointments },
  fun f => .ok { f with products := created f.products },
  fun f => .ok { f with invoices := created f.invoices },
  fun f => .ok { f with invoiceItems := created f.invoiceItems },
  fun f => .ok { f with expenses := created f.expenses },
  fun f => .ok { f with cashReconciliation := created f.cashReconciliation },
  insertUsers hash clock, insertServices, insertStaff, insertProducts, insertClients clock,
  insertAppointments clock, insertReconciliation clock]

/-- The file after some of the statements, each on what the one before left. -/
def execAll (statements : List (DbFile → Except Thrown DbFile)) (f : DbFile) :
    Except Thrown DbFile :=
  statements.foldlM (fun f statement => statement f) f

end DbFile

/-- A request on its way through `getConnection`, and what its process draws for bcrypt. -/
structure Visit where
  event : Event
  hash : String → String

namespace Visit

/-- Where a request is. -/
inductive Phase where
  | begun
  /-- `$is_new_db` is known -/
  | tested (isNew : Bool)
  /-- `new PDO` has returned; the PRAGMAs come next -/
  | opened (isNew : Bool)
  /-- so many statements of `createTables` are committed -/
  | initialising (statements : Nat)
  /-- a controller has the connection -/
  | handed
  | served
  /-- the 500 with this error -/
  | failed (error : String)
  | killed

/-- How the next step of a request goes. -/
inductive Fate where
  | proceeds
  | throws (message : String)
  | dies
  deriving DecidableEq

/-- `Database connection failed: …`. -/
def connectionFailed (message : String) : Phase :=
  .failed ("Database connection failed: " ++ message)

/-- The next step, when nothing goes wrong with it from outside. -/
def proceed (php : Platform) (visit : Visit) : Phase → Option DbFile → Phase × Option DbFile
  | .begun, file => (.tested file.isNone, file)
  | .tested isNew, file => (.opened isNew, some (file.getD .empty))
  | .opened isNew, file => (if isNew then .initialising 0 else .handed, file)
  | .initialising statements, file =>
    match (DbFile.createTables visit.hash visit.event.clock)[statements]? with
    | none => (.handed, file)
    | some statement =>
      match statement (file.getD .empty) with
      | .ok after => (.initialising (statements + 1), some after)
      | .error (.exception message) => (connectionFailed message, file)
      | .error (.error message) => (.failed message, file)
  | .handed, file =>
    -- on an empty file the first statement of any action fails; what an action makes of a
    -- file with some of the tables is not followed further
    match file.bind DbFile.db? with
    | some db => (.served, some (serve php visit.event db).db.file)
    | none => (.served, file)
  | phase, file => (phase, file)

/-- Inside the `try` of `getConnection`. -/
def Phase.trying : Phase → Bool
  | tested _ => true
  | opened _ => true
  | initialising _ => true
  | _ => false

def Phase.over : Phase → Bool
  | served => true
  | failed _ => true
  | killed => true
  | _ => false

def act (php : Platform) (visit : Visit) (fate : Fate) (phase : Phase) (file : Option DbFile) :
    Phase × Option DbFile :=
  match fate with
  | .proceeds => visit.proceed php phase file
  | .throws message => (if phase.trying then connectionFailed message else phase, file)
  | .dies => (if phase.over then phase else .killed, file)

/-- A step of one of the requests. -/
abbrev Move : Type := Nat × Fate

def move (php : Platform) (visits : Nat → Visit) (m : Move)
    (s : System Nat Phase (Option DbFile)) : System Nat Phase (Option DbFile) :=
  System.step (fun i => (visits i).act php m.2) m.1 s

/-- No file, and no request has begun its work. -/
def firstRun : System Nat Phase (Option DbFile) := ⟨none, fun _ => .begun⟩

end Visit

section Specs

namespace DbFile

theorem execAll_append (first second : List (DbFile → Except Thrown DbFile)) (f : DbFile) :
    execAll (first ++ second) f = execAll first f >>= execAll second :=
  List.foldlM_append

/-- On an empty file the statements make the seeded database. -/
theorem execAll_createTables (hash : String → String) (clock : Clock) :
    execAll (createTables hash clock) .empty = .ok (seed hash clock).file := rfl

variable {hash : String → String} {clock : Clock} {k : Nat} {f : DbFile}

theorem exists_statement (hash : String → String) (clock : Clock) (before : k < 17) :
    ∃ statement, (createTables hash clock)[k]? = some statement :=
  ⟨_, List.getElem?_eq_getElem before⟩

/-- The file after the first `k` statements. -/
def BuiltUpTo (hash : String → String) (clock : Clock) (k : Nat) (f : DbFile) : Prop :=
  execAll ((createTables hash clock).take k) .empty = .ok f

/-- None of the statements fails on what those before it left. -/
theorem exists_builtUpTo (hash : String → String) (clock : Clock) (k : Nat) :
    ∃ f, BuiltUpTo hash clock k f := by
  have whole := execAll_createTables hash clock
  rw [← List.take_append_drop k (createTables hash clock), execAll_append] at whole
  unfold BuiltUpTo
  cases first : execAll ((createTables hash clock).take k) .empty with
  | error why =>
    rw [first] at whole
    cases whole
  | ok f => exact ⟨f, rfl⟩

theorem BuiltUpTo.next {statement : DbFile → Except Thrown DbFile} (built : BuiltUpTo hash clock k f)
    (present : (createTables hash clock)[k]? = some statement) :
    ∃ after, statement f = .ok after ∧ BuiltUpTo hash clock (k + 1) after := by
  obtain ⟨after, next⟩ := exists_builtUpTo hash clock (k + 1)
  refine ⟨after, ?_, next⟩
  rw [BuiltUpTo, List.take_add_one, present, execAll_append, built] at next
  exact (bind_pure (statement f)).symm.trans next

/-- The file with the first `k` tables, all empty. -/
def schema (k : Nat) : DbFile where
  users := if 0 < k then some .empty else none
  services := if 1 < k then some .empty else none
  staff := if 2 < k then some .empty else none
  clients := if 3 < k then some .empty else none
  appointments := if 4 < k then some .empty else none
  products := if 5 < k then some .empty else none
  invoices := if 6 < k then some .empty else none
  invoiceItems := if 7 < k then some .empty else none
  expenses := if 8 < k then some .empty else none
  cashReconciliation := if 9 < k then some .empty else none

theorem builtUpTo_schema (bound : k ≤ 10) : BuiltUpTo hash clock k (schema k) := by
  interval_cases k <;> rfl

/-- Creating a table again changes nothing. -/
theorem schema_again {n : Nat} {statement : DbFile → Except Thrown DbFile} (bound : n ≤ 10)
    (created : k < n) (present : (createTables hash clock)[k]? = some statement) :
    statement (schema n) = .ok (schema n) := by
  interval_cases n <;> interval_cases k <;> cases present <;> rfl

theorem file_again {statement : DbFile → Except Thrown DbFile} (db : Db) (creates : k < 10)
    (present : (createTables hash clock)[k]? = some statement) :
    statement db.file = .ok db.file := by
  interval_cases k <;> cases present <;> rfl

/-- One of the seeded accounts still has its name. -/
def Taken (db : Db) : Prop :=
  ∃ u ∈ db.users.rows, u.cols.username ∈ ["admin", "recep", "emma", "david"]

/-- The users are not inserted twice. -/
theorem insertUsers_taken {db : Db} (taken : Taken db) :
    insertUsers hash clock db.file = .error (uniqueFailed "users.username") := by
  have clash : (seedRows (seedUsers hash clock.now)).any (fun seeded =>
      db.users.rows.any fun r => r.cols.username = seeded.username) = true := by
    obtain ⟨u, member, name⟩ := taken
    obtain ⟨seeded, listed, same⟩ : ∃ seeded ∈ seedRows (seedUsers hash clock.now),
        seeded.username = u.cols.username := List.mem_map.mp name
    rw [List.any_eq_true]
    refine ⟨seeded, listed, List.any_eq_true.mpr ⟨u, member, ?_⟩⟩
    rw [same, decide_eq_true rfl]
  rw [insertUsers, Db.file, insertRows]
  dsimp only
  rw [if_pos clash]
  rfl

/-- While the seed data are inserted all tables are there, and the drawer comes last. -/
theorem BuiltUpTo.leading (built : BuiltUpTo hash clock k f) (lead : 10 < k) (before : k < 17) :
    ∃ db : Db, f = db.file ∧ db.users = seedUsers hash clock.now ∧
      db.cashReconciliation = .empty := by
  interval_cases k <;> cases built <;> exact ⟨⟨_, _, _, _, _, _, _, _, _, _⟩, rfl, rfl, rfl⟩

/-- After the last of them it is the seeded database. -/
theorem BuiltUpTo.finished (built : BuiltUpTo hash clock k f)
    (past : (createTables hash clock)[k]? = none) : f = (seed hash clock).file := by
  rw [BuiltUpTo, List.take_of_length_le (List.getElem?_eq_none_iff.mp past),
    execAll_createTables] at built
  cases built
  rfl

end DbFile

end Specs

end Saloon.Source
