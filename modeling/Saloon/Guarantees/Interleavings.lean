import Saloon.Guarantees.Exchanges
import Saloon.Lib.Linearized

/-!
# Interleaved requests to the API

Requests whose statements meet in the database in any order. Bookings, completions
and the view of today's drawer send several transactions; every other request
sends one at most. Among those, an interleaving is one run of the sequential API.
-/
namespace Saloon.Guarantees

open Lib Source

/-- A request that can write, with the script of its statements. -/
structure Writer (php : Platform) where
  event : Event
  script : Exchange
  sends : exchange php event = some script

variable {ι : Type} {php : Platform}

theorem Writer.alone_eq (w : Writer php) (db : Db) :
    w.script.alone db = ((serve php w.event db).response, request php w.event db) :=
  alone_of_sends w.sends db

/-- The requests' statements in the order of a schedule. -/
def concurrently [DecidableEq ι] (requests : ι → Writer php) (db : Db)
    (schedule : List (ι × Bool)) : System ι (Sender Db Response) (Store ι Db) :=
  interleave (fun i => (requests i).script) db schedule

/-- The requests of a log, served one after the other. -/
def inTurn (requests : ι → Writer php) (db : Db) (log : List ι) : Db :=
  run (request php) db (log.map fun i => (requests i).event)

/-- The request is for the completion of an appointment. -/
def AsksCompletion (e : Event) : Prop :=
  Asks e "appointments_update" ["POST", "PUT"] ∧ (statusOf e).is "completed" = true

/-- The request is served in one transaction at most. -/
def Atomic (e : Event) : Prop :=
  ¬ AsksBooking e ∧ ¬ AsksCompletion e ∧ ¬ Asks e "reconciliation_today" ["GET"]

/-- The request reads in a transaction that it writes in later. -/
def ReadsFirst (e : Event) : Prop :=
  AsksRegister e ∨ Asks e "appointments_update" ["POST", "PUT"]

instance (e : Event) : Decidable (ReadsFirst e) :=
  inferInstanceAs (Decidable ((_ ∨ _) ∨ _))

/-- The answer to a request whose write the store refused. -/
def lockedOut : Response := caught (fun _ : Unit => .null) (.error databaseLocked)

/-- The scripts that a request can send, by what it asks for. -/
inductive Sent (php : Platform) (e : Event) : Exchange → Prop
  | register (asked : AsksRegister e) : Sent php e (AuthController.registerExchange (e.env php))
  | updateStaff : Sent php e (AuthController.updateStaffExchange (e.env php))
  | availability : Sent php e (AuthController.updateStatusExchange (e.env php))
  | booking (asked : AsksBooking e) :
      Sent php e (AppointmentController.createAppointmentExchange (e.env php))
  | statusUpdate (asked : Asks e "appointments_update" ["POST", "PUT"]) :
      Sent php e (AppointmentController.updateStatusExchange (e.env php))
  | addClient : Sent php e (ClientController.addClientExchange (e.env php))
  | addService : Sent php e (ServiceController.addServiceExchange (e.env php))
  | updateService : Sent php e (ServiceController.updateServiceExchange (e.env php))
  | checkout : Sent php e (POSController.checkoutExchange (e.env php))
  | addProduct : Sent php e (InventoryController.addProductExchange (e.env php))
  | updateStock : Sent php e (InventoryController.updateStockExchange (e.env php))
  | expense : Sent php e (ExpenseController.logExpenseExchange (e.env php))
  | viewDrawer (asked : Asks e "reconciliation_today" ["GET"]) :
      Sent php e (ReconciliationController.getTodayStatusExchange (e.env php))
  | closeDrawer : Sent php e (ReconciliationController.closeDrawerExchange (e.env php))

theorem exchange_expense {e : Event} (asked : Asks e "expenses" ["POST"]) :
    exchange php e = some (ExpenseController.logExpenseExchange (e.env php)) := by
  rw [exchange, asked.1, List.mem_singleton.mp asked.2]
  rfl

theorem sent_of_if {e : Event} {c : Prop} [Decidable c] {script sent : Exchange}
    (sends : (if c then some sent else none) = some script) (is : c → Sent php e sent) :
    Sent php e script := by
  split at sends <;> cases sends
  exact is ‹_›

theorem sent_of_exchange {e : Event} {script : Exchange} (sends : exchange php e = some script) :
    Sent php e script := by
  unfold exchange exchangeOf at sends
  split at sends
  · exact sent_of_if sends fun post => .register (.inl ⟨‹_›, by simpa⟩)
  · exact sent_of_if sends fun post => .register (.inr ⟨‹_›, by simpa⟩)
  · exact sent_of_if sends fun _ => .updateStaff
  · exact sent_of_if sends fun _ => .availability
  · exact sent_of_if sends fun post => .booking (.inl ⟨‹_›, by simpa⟩)
  · exact sent_of_if sends fun post => .booking (.inr ⟨‹_›, by simpa⟩)
  · exact sent_of_if sends fun sent => .statusUpdate ⟨‹_›, by simpa⟩
  · exact sent_of_if sends fun _ => .addClient
  · exact sent_of_if sends fun _ => .addService
  · exact sent_of_if sends fun _ => .updateService
  · exact sent_of_if sends fun _ => .checkout
  · exact sent_of_if sends fun _ => .addProduct
  · exact sent_of_if sends fun _ => .updateStock
  · exact sent_of_if sends fun _ => .expense
  · exact sent_of_if sends fun get => .viewDrawer ⟨‹_›, by simpa⟩
  · exact sent_of_if sends fun _ => .closeDrawer
  · cases sends

section Shapes

/-! What each script is made of. -/

variable {α : Type} {env : Env} {roles : List Role} {script : Exchange}

/-- A response at once, or one transaction behind a `try`. -/
inductive Simple (writesFirst : Prop) : Exchange → Prop
  | responds (response : Response) : Simple writesFirst (.answer response)
  | attempts {α : Type} {body : SqlBody α} {next : Except Thrown α → Exchange}
      (answers : ∀ outcome, ∃ response, next outcome = .answer response)
      (locked : next (.error databaseLocked) = .answer lockedOut)
      (writes : writesFirst → body.WritesFirst) : Simple writesFirst (inTransaction body next)

variable {writesFirst : Prop}

theorem simple_ite {c : Prop} [Decidable c] {script other : Exchange}
    (yes : Simple writesFirst script) (no : Simple writesFirst other) :
    Simple writesFirst (if c then script else other) := by
  split
  · exact yes
  · exact no

theorem simple_guarded {action : Val → Exchange} (passed : ∀ payload, Simple writesFirst (action payload)) :
    Simple writesFirst (guarded env roles action) := by
  unfold guarded
  split
  · exact .responds _
  · exact passed _

theorem simple_attempt {body : SqlBody α} (answer : α → Val)
    (writes : writesFirst → body.WritesFirst) : Simple writesFirst (attemptBody body answer) :=
  .attempts (fun _ => ⟨_, rfl⟩) rfl writes

theorem Simple.single (simple : Simple writesFirst script) : script.Single := by
  cases simple with
  | responds response => trivial
  | attempts answers locked writes =>
    refine Script.last_seal (fun outcome => ?_) _
    obtain ⟨response, same⟩ := answers outcome
    rw [same]
    trivial

theorem Simple.refuses {b : Response} (simple : Simple writesFirst script)
    (refuses : script.Refuses b) : b = lockedOut := by
  cases simple with
  | responds response => exact refuses.elim
  | attempts answers locked writes =>
    rcases Script.refuses_of_seal refuses with answer | ⟨outcome, later⟩
    · rw [locked] at answer
      cases answer
      rfl
    · obtain ⟨response, same⟩ := answers outcome
      rw [same] at later
      exact later.elim

theorem Simple.straight (simple : Simple writesFirst script) (first : writesFirst) :
    script.Straight .fresh := by
  cases simple with
  | responds response => trivial
  | attempts answers locked writes =>
    refine Script.straight_seal (fun outcome => ?_) (writes first)
    obtain ⟨response, same⟩ := answers outcome
    rw [same]
    trivial

/-- The items of a checkout are looked at before its first statement. -/
theorem addItems_writesFirst (items : List Val) (totalAmount : Rat) :
    (Invoice.addItemsBody totalAmount items).WritesFirst := by
  have offset : ∀ (v : Val) (k : String), (v.offsetBody k).WritesFirst := by
    intro v k
    cases v <;> trivial
  induction items generalizing totalAmount with
  | nil => trivial
  | cons item items ih =>
    refine Body.writesFirst_bind (offset _ _) fun price => ?_
    exact Body.writesFirst_bind (offset _ _) fun quantity => ih _

theorem checkout_writesFirst (clock : Clock)
    (clientId loggedById paymentMethod items appointmentId : Val) :
    (Invoice.checkoutBody clock clientId loggedById paymentMethod items appointmentId
      ).WritesFirst :=
  Body.writesFirst_bind (addItems_writesFirst _ _) fun _ => trivial

theorem updateUser_writesFirst (salt : Nat) (userId : Int) (name username password : Val)
    (commissionRate : Rat) (commissionType specializations : Val) :
    (User.updateBody php salt userId name username password commissionRate commissionType
      specializations).WritesFirst := by
  have hash : (User.hashPasswordBody php salt password).WritesFirst := by
    unfold User.hashPasswordBody
    split
    · trivial
    · split <;> trivial
  have newHash : (User.newHashBody php salt password).WritesFirst := by
    unfold User.newHashBody
    split
    · trivial
    · exact Body.writesFirst_bind hash fun _ => trivial
  exact Body.writesFirst_bind newHash fun _ => trivial

theorem Simple.imp {other : Prop} (weaker : other → writesFirst) (simple : Simple writesFirst script) :
    Simple other script := by
  cases simple with
  | responds response => exact .responds response
  | attempts answers locked writes =>
    exact .attempts answers locked fun first => writes (weaker first)

theorem register_simple (env : Env) : Simple False (AuthController.registerExchange env) :=
  simple_guarded fun _ => simple_ite (.responds _) (simple_ite (.responds _)
    (simple_attempt _ False.elim))

theorem statusUpdate_simple (env : Env)
    (unfinished : (env.getBody.fieldOr "status" (.str "")).is "completed" = false) :
    Simple False (AppointmentController.updateStatusExchange env) := by
  refine simple_guarded fun payload => simple_ite (.responds _) (simple_ite (.responds _) ?_)
  refine .attempts (fun outcome => ?_) rfl False.elim
  rcases outcome with why | ⟨⟩
  · exact ⟨_, rfl⟩
  · dsimp only
    rw [if_neg (by simp [unfinished])]
    exact ⟨_, rfl⟩

theorem updateStaff_simple (env : Env) : Simple True (AuthController.updateStaffExchange env) :=
  simple_guarded fun _ => simple_ite (.responds _)
    (simple_attempt _ fun _ => updateUser_writesFirst _ _ _ _ _ _ _ _)

theorem availability_simple (env : Env) : Simple True (AuthController.updateStatusExchange env) :=
  simple_guarded fun _ => simple_ite (.responds _) (simple_attempt _ fun _ => trivial)

theorem addClient_simple (env : Env) : Simple True (ClientController.addClientExchange env) :=
  simple_guarded fun _ => simple_ite (.responds _) (simple_attempt _ fun _ => trivial)

theorem addService_simple (env : Env) : Simple True (ServiceController.addServiceExchange env) :=
  simple_guarded fun _ => simple_ite (.responds _) (simple_attempt _ fun _ => trivial)

theorem updateService_simple (env : Env) :
    Simple True (ServiceController.updateServiceExchange env) :=
  simple_guarded fun _ => simple_ite (.responds _) (simple_attempt _ fun _ => trivial)

theorem checkout_simple (env : Env) : Simple True (POSController.checkoutExchange env) :=
  simple_guarded fun _ => simple_ite (.responds _)
    (simple_attempt _ fun _ => checkout_writesFirst _ _ _ _ _ _)

theorem addProduct_simple (env : Env) : Simple True (InventoryController.addProductExchange env) :=
  simple_guarded fun _ => simple_ite (.responds _) (simple_ite (.responds _)
    (simple_attempt _ fun _ => trivial))

theorem updateStock_simple (env : Env) :
    Simple True (InventoryController.updateStockExchange env) :=
  simple_guarded fun _ => simple_ite (.responds _) (simple_attempt _ fun _ => trivial)

theorem expense_simple (env : Env) : Simple True (ExpenseController.logExpenseExchange env) :=
  simple_guarded fun _ => simple_ite (.responds _) (simple_attempt _ fun _ => trivial)

theorem close_simple (env : Env) :
    Simple True (ReconciliationController.closeDrawerExchange env) := by
  refine simple_guarded fun payload => .attempts (fun outcome => ?_) rfl fun _ => trivial
  rcases outcome with why | success | success <;> exact ⟨_, rfl⟩

/-- What a request in one transaction sends. -/
theorem simple_of_atomic {e : Event} (atomic : Atomic e) (sends : exchange php e = some script) :
    Simple (¬ ReadsFirst e) script := by
  obtain ⟨booking, completion, drawer⟩ := atomic
  cases sent_of_exchange sends with
  | register asked => exact (register_simple _).imp fun never => never (.inl asked)
  | booking asked => exact absurd asked booking
  | statusUpdate asked =>
    have unfinished : (statusOf e).is "completed" = false := by
      simpa using fun completed => completion ⟨asked, completed⟩
    exact (statusUpdate_simple (e.env php) unfinished).imp fun never => never (.inr asked)
  | viewDrawer asked => exact absurd asked drawer
  | updateStaff => exact (updateStaff_simple _).imp fun _ => trivial
  | availability => exact (availability_simple _).imp fun _ => trivial
  | addClient => exact (addClient_simple _).imp fun _ => trivial
  | addService => exact (addService_simple _).imp fun _ => trivial
  | updateService => exact (updateService_simple _).imp fun _ => trivial
  | checkout => exact (checkout_simple _).imp fun _ => trivial
  | addProduct => exact (addProduct_simple _).imp fun _ => trivial
  | updateStock => exact (updateStock_simple _).imp fun _ => trivial
  | expense => exact (expense_simple _).imp fun _ => trivial
  | closeDrawer => exact (close_simple _).imp fun _ => trivial

end Shapes

/-- The store alone decides what the requests of a log leave. -/
theorem replay_eq (requests : ι → Writer php) (db : Db) (log : List ι) :
    replay (fun i => (requests i).script) db log = inTurn requests db log := by
  rw [replay, inTurn]
  induction log generalizing db with
  | nil => rfl
  | cons i log ih =>
    rw [run_cons, List.map_cons, run_cons, (requests i).alone_eq]
    exact ih _

section Linearized

variable [DecidableEq ι] {requests : ι → Writer php} {db : Db} {schedule : List (ι × Bool)}

theorem concurrently_linear (atomic : ∀ i, Atomic (requests i).event) (db : Db)
    (schedule : List (ι × Bool)) :
    Linear (fun i => (requests i).script) db
      (fun i => decide (ReadsFirst (requests i).event ∨ (i, false) ∈ schedule))
      (concurrently requests db schedule) := by
  have simple i := simple_of_atomic (atomic i) (requests i).sends
  refine interleave_linear (fun i => (simple i).single) (fun i never => ?_) db
    fun slot member never => ?_
  · refine (simple i).straight ?_
    simp only [decide_eq_false_iff_not, not_or] at never
    exact never.1
  · obtain ⟨i, waits⟩ := slot
    simp only [decide_eq_false_iff_not, not_or] at never
    cases waits with
    | true => rfl
    | false => exact absurd member never.2

/-- A request that writes first and has only had turns that wait is not refused: it has an
answer of the sequential API. -/
theorem answered_in_turn (atomic : ∀ i, Atomic (requests i).event) {i : ι} {response : Response}
    (first : ¬ ReadsFirst (requests i).event) (waited : (i, false) ∉ schedule)
    (answered : Answers response ((concurrently requests db schedule).locals i)) :
    ∃ before, before <+: (concurrently requests db schedule).shared.log ∧
      response = (serve php (requests i).event (inTurn requests db before)).response := by
  cases (concurrently_linear atomic db schedule).settled answered with
  | committed before after split _ _ alone =>
    rw [replay_eq, (requests i).alone_eq] at alone
    exact ⟨before, ⟨i :: after, split.symm⟩, alone.symm⟩
  | unwritten absent before past alone =>
    rw [replay_eq, (requests i).alone_eq] at alone
    exact ⟨before, past, (congrArg Prod.fst alone).symm⟩
  | refused absent may refuses =>
    rcases of_decide_eq_true may with reads | hurried
    · exact absurd reads first
    · exact absurd hurried waited

/-- Where each request is served in one transaction at most, every interleaving is
linearizable: what is committed is what the sequential API leaves after the requests in
the order of their commits, each of them once; who has committed has the answer that the
sequential API gives at that place; who has answered without a commit has the answer and
the lack of effect of the sequential API on a state between two commits, or was refused a
write, having read first or not having waited. -/
theorem interleavings_sequential (requests : ι → Writer php)
    (atomic : ∀ i, Atomic (requests i).event) (db : Db) (schedule : List (ι × Bool)) :
    let s := concurrently requests db schedule
    s.shared.committed = inTurn requests db s.shared.log ∧ s.shared.log.Nodup ∧
      (∀ i ∈ s.shared.log, ∃ response, Answers response (s.locals i)) ∧
      ∀ i response, Answers response (s.locals i) →
        (∃ before after, s.shared.log = before ++ i :: after ∧
          response = (serve php (requests i).event (inTurn requests db before)).response) ∨
        i ∉ s.shared.log ∧ (∃ before, before <+: s.shared.log ∧
          response = (serve php (requests i).event (inTurn requests db before)).response ∧
          request php (requests i).event (inTurn requests db before) =
            inTurn requests db before) ∨
        i ∉ s.shared.log ∧ response = lockedOut ∧
          (ReadsFirst (requests i).event ∨ (i, false) ∈ schedule) := by
  intro s
  have linear := concurrently_linear atomic db schedule
  refine ⟨?_, linear.nodup, fun i logged => linear.answered logged, fun i response answered => ?_⟩
  · rw [← replay_eq]
    exact linear.replayed
  · cases linear.settled answered with
    | committed before after split first last alone =>
      refine .inl ⟨before, after, split, ?_⟩
      rw [← alone, replay_eq, (requests i).alone_eq]
    | unwritten absent before past alone =>
      rw [replay_eq, (requests i).alone_eq] at alone
      refine .inr (.inl ⟨absent, before, past, ?_, ?_⟩)
      · exact (congrArg Prod.fst alone).symm
      · exact congrArg Prod.snd alone
    | refused absent may refuses =>
      refine .inr (.inr ⟨absent, ?_, of_decide_eq_true may⟩)
      exact (simple_of_atomic (atomic i) (requests i).sends).refuses refuses

end Linearized

section Progress

variable [DecidableEq ι]

/-- No request is stuck: wherever a schedule has brought the requests, turns that wait for
the lock bring any of them to their answers, and who has an answer keeps it. Where each
request is served in one transaction at most, one that writes first and never ran into the
lock without waiting is not locked out: it comes to an answer that the sequential API gives
after some of the requests that have committed. -/
theorem interleavings_progress (requests : ι → Writer php) (db : Db) (schedule : List (ι × Bool))
    (members : List ι) :
    ∃ more : List (ι × Bool), (∀ slot ∈ more, slot.2 = true) ∧
      (∀ i ∈ members, ∃ response,
        Answers response ((concurrently requests db (schedule ++ more)).locals i)) ∧
      (∀ i response, Answers response ((concurrently requests db schedule).locals i) →
        Answers response ((concurrently requests db (schedule ++ more)).locals i)) ∧
      ((∀ i, Atomic (requests i).event) → ∀ i ∈ members,
        ¬ ReadsFirst (requests i).event → (i, false) ∉ schedule →
        ∃ before, before <+: (concurrently requests db (schedule ++ more)).shared.log ∧
          Answers (serve php (requests i).event (inTurn requests db before)).response
            ((concurrently requests db (schedule ++ more)).locals i)) := by
  obtain ⟨more, waits, answered⟩ :=
    interleave_progress (fun i => (requests i).script) db schedule members
  refine ⟨more, waits, answered, fun i response => interleave_answered _ db schedule more,
    fun atomic i member first waited => ?_⟩
  obtain ⟨response, given⟩ := answered i member
  have patient : (i, false) ∉ schedule ++ more := by
    intro hurried
    rcases List.mem_append.mp hurried with before | later
    · exact waited before
    · cases waits _ later
  obtain ⟨before, past, rfl⟩ := answered_in_turn atomic first patient given
  exact ⟨before, past, given⟩

end Progress

section Two

/-- A request of the test script. -/
def supplies : Event :=
  adminRequest "expenses" "POST" [("category", .str "Salon Supplies"), ("amount", .int 10),
    ("description", .str "Concurrency Test Write")]

/-- Two of them. -/
def bothSupplies (_ : Bool) : Writer recorded where
  event := supplies
  script := ExpenseController.logExpenseExchange (supplies.env recorded)
  sends := exchange_expense (by decide +kernel)

/-- The second one meets the lock of the first one and waits. -/
def meeting : List (Bool × Bool) :=
  [false, true, false, true, false, true, false, false, true, true, true, true].map (·, true)

theorem supplies_atomic : Atomic supplies := by
  refine ⟨?_, fun completes => ?_, by decide +kernel⟩
  · rintro (asks | asks) <;> exact absurd asks.1 (by decide +kernel)
  · exact absurd completes.1.1 (by decide +kernel)

/-- Two expenses at once are two expenses in turn. -/
theorem supplies_in_turn :
    (concurrently bothSupplies morningDb meeting).shared.committed =
      inTurn bothSupplies morningDb (concurrently bothSupplies morningDb meeting).shared.log :=
  (interleavings_sequential bothSupplies (fun _ => supplies_atomic) morningDb meeting).1

end Two

end Saloon.Guarantees
