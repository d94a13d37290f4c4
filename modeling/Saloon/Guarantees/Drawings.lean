import Saloon.Guarantees.PagesShown

/-!
# What the pages draw

The pages read texts and lists in what the API answers, and a value of another kind is
a TypeError. Every answer has what its page reads. Drawing fails only where nobody is
logged in any more, or where a service's category is a property of every object.
-/
namespace Saloon.Guarantees

open Lib Source

section Needs

/-- What the pages read of an answer; of the staff list only the desk's is drawn. -/
def needs (action : String) (bearer : Option String) (v : Val) : Bool :=
  match action with
  | "dashboard" => eachIfAny (v.field "todayAppointmentsList") drawsAppointment
  | "commission_report" => eachIfAny v fun _ => true
  | "appointments" => eachOf v fun apt => drawsAppointment apt && (apt.field "status").isText
  | "services" => eachOf v fun s => (s.field "name").isText && (s.field "description").isText
  | "staff" => bearer.isNone || drawsStaff v
  | "inventory" => drawsInventory v
  | "clients" | "expenses" | "reconciliation" => eachOf v fun _ => true
  | _ => true

variable {p q : Val → Bool} {v : Val} {vs : List Val}

theorem eachOf_iff : eachOf v p = true ↔
    ∃ items, v.elements = some items ∧ ∀ item ∈ items, item.isNull = false ∧ p item = true := by
  unfold eachOf
  split
  · rename_i items elements
    simp [elements]
  · rename_i none
    simp [none]

theorem eachOf_list (each : ∀ item ∈ vs, item.isNull = false ∧ p item = true) :
    eachOf (.list vs) p = true := eachOf_iff.mpr ⟨vs, Val.elements_list vs, each⟩

theorem eachIfAny_list (each : ∀ item ∈ vs, item.isNull = false ∧ p item = true) :
    eachIfAny (.list vs) p = true := by
  rw [eachIfAny, Val.elements_list]
  refine List.all_eq_true.mpr fun item member => ?_
  obtain ⟨object, met⟩ := each item member
  simp [object, met]

theorem objects {α : Type} (columns : α → List (String × Val)) (rows : List α) :
    ∀ item ∈ rows.map fun r => Val.arr (columns r), item.isNull = false ∧ true = true := by
  intro item member
  obtain ⟨r, -, rfl⟩ := List.mem_map.mp member
  exact ⟨rfl, rfl⟩

theorem eachOf_mono (weaker : ∀ item, p item = true → q item = true) (each : eachOf v p = true) :
    eachOf v q = true := by
  obtain ⟨items, elements, met⟩ := eachOf_iff.mp each
  exact eachOf_iff.mpr ⟨items, elements, fun item member =>
    ⟨(met item member).1, weaker item (met item member).2⟩⟩

theorem textIfAny_str (text : String) : (Val.str text).textIfAny = true := Bool.or_true _

theorem textIfAny_ofText (text : Option String) : (Val.ofText text).textIfAny = true := by
  cases text with
  | none => rfl
  | some text => exact textIfAny_str text

theorem drawsAppointment_of_texts {apt : Val} {startTime staffName : String}
    (time : apt.field "start_time" = .str startTime)
    (name : apt.field "staff_name" = .str staffName) : drawsAppointment apt = true := by
  rw [drawsAppointment, time, name, textIfAny_str]
  rfl

end Needs

section Answers

variable {php : Platform} {e : Event} {action : String} {bearer : Option String}

theorem draws_today (clock : Clock) (staffId : Option SqlVal) (db : Db) :
    ∀ apt ∈ Appointment.getTodayAppointments clock staffId db,
      apt.isNull = false ∧ drawsAppointment apt = true := by
  intro apt member
  obtain ⟨l, -, rfl⟩ := List.mem_map.mp member
  exact ⟨rfl, drawsAppointment_of_texts rfl rfl⟩

theorem draws_all (staffId : Option SqlVal) (db : Db) :
    ∀ apt ∈ Appointment.getAll staffId db,
      apt.isNull = false ∧ (drawsAppointment apt && (apt.field "status").isText) = true := by
  intro apt member
  obtain ⟨l, -, rfl⟩ := List.mem_map.mp member
  exact ⟨rfl, Bool.and_eq_true_iff.mpr ⟨drawsAppointment_of_texts rfl rfl, rfl⟩⟩

theorem draws_services (db : Db) : ∀ s ∈ Service.getAll db,
    s.isNull = false ∧ ((s.field "name").isText && (s.field "description").isText) = true := by
  intro s member
  obtain ⟨r, -, rfl⟩ := List.mem_map.mp member
  exact ⟨rfl, rfl⟩

theorem draws_products (db : Db) : ∀ item ∈ Product.getAll db, item.isNull = false ∧
    ((item.field "category").isText && (item.field "name").isText) = true := by
  intro item member
  obtain ⟨r, -, rfl⟩ := List.mem_map.mp member
  exact ⟨rfl, rfl⟩

theorem draws_staff (db : Db) : drawsStaff (.list (User.getAllStaff db)) = true := by
  refine eachOf_list fun st member => ?_
  obtain ⟨p, -, rfl⟩ := List.mem_map.mp member
  have specializations := textIfAny_ofText (p.2.map fun r => r.cols.specializations)
  have status := textIfAny_ofText (p.2.map fun r => r.cols.status)
  refine ⟨rfl, ?_⟩
  show (Val.textIfAny _ && Val.textIfAny _ && true && true) = true
  simp [Val.field, User.staffEntry, List.lookup_cons, specializations, status]

theorem needs_dashboard (asked : Asks e "dashboard" ["GET"]) :
    Responds (Brings fun v => needs "dashboard" bearer v = true) (index php e) := by
  rw [show index php e = AppointmentController.getDashboard (e.env php) from
    (index_get asked).trans rfl]
  exact brings_handle fun _ => responds_query fun db => responds_json
    (brings_json (eachIfAny_list (draws_today _ none db)))

theorem needs_commissions (asked : Asks e "commission_report" ["GET"]) :
    Responds (Brings fun v => needs "commission_report" bearer v = true) (index php e) := by
  rw [show index php e = POSController.getCommissionReport (e.env php) from
    (index_get asked).trans rfl]
  exact brings_handle fun _ => brings_list fun db => eachIfAny_list (objects _ _)

/-- A stylist without a staff row has none to show, and gets no list. -/
theorem needs_appointments (asked : Asks e "appointments" ["GET"]) :
    Responds (Brings fun v => needs "appointments" bearer v = true) (index php e) := by
  rw [show index php e = AppointmentController.getAppointments (e.env php) from
    (index_get asked).trans rfl]
  have all (staffId : Option SqlVal) :
      Responds (Brings fun v => needs "appointments" bearer v = true)
        (list (Appointment.getAll staffId)) :=
    brings_list fun db => eachOf_list (draws_all staffId db)
  refine brings_handle fun payload => responds_ite (fun _ => ?_) fun _ => all none
  refine responds_bind (responds_exec _) fun staffId => ?_
  cases staffId with
  | none => exact responds_json (brings_failed (show 300 ≤ 404 by decide))
  | some staffId => exact all _

theorem needs_services (asked : Asks e "services" ["GET"]) :
    Responds (Brings fun v => needs "services" bearer v = true) (index php e) := by
  rw [show index php e = ServiceController.getServices from (index_get asked).trans rfl]
  exact brings_list fun db => eachOf_list (draws_services db)

theorem needs_staff (asked : Asks e "staff" ["GET"])
    (bears : bearer.isNone = false → emptyBytes e.request.headers.authHeader = false) :
    Responds (Brings fun v => needs "staff" bearer v = true) (index php e) := by
  rw [show index php e = AuthController.getStaffList (e.env php) from (index_get asked).trans rfl]
  refine responds_ite (fun _ => ?_) fun anonymous => ?_
  · exact brings_handle fun _ => brings_list fun db =>
      Bool.or_eq_true_iff.mpr (.inr (draws_staff db))
  · refine brings_list fun db => Bool.or_eq_true_iff.mpr (.inl ?_)
    by_contra given
    exact anonymous (by simp [Event.env, bears (Bool.eq_false_iff.mpr given)])

theorem needs_inventory (asked : Asks e "inventory" ["GET"]) :
    Responds (Brings fun v => needs "inventory" bearer v = true) (index php e) := by
  rw [show index php e = InventoryController.getInventory (e.env php) from
    (index_get asked).trans rfl]
  exact brings_handle fun _ => brings_list fun db => eachOf_list (draws_products db)

theorem needs_clients (asked : Asks e "clients" ["GET"]) :
    Responds (Brings fun v => needs "clients" bearer v = true) (index php e) := by
  rw [show index php e = ClientController.getClients (e.env php) from (index_get asked).trans rfl]
  exact brings_handle fun _ => brings_list fun db => eachOf_list (objects _ _)

theorem needs_expenses (asked : Asks e "expenses" ["GET"]) :
    Responds (Brings fun v => needs "expenses" bearer v = true) (index php e) := by
  rw [show index php e = ExpenseController.getExpenses (e.env php) from (index_get asked).trans rfl]
  exact brings_handle fun _ => brings_list fun db => eachOf_list (objects _ _)

theorem needs_reconciliation (asked : Asks e "reconciliation" ["GET"]) :
    Responds (Brings fun v => needs "reconciliation" bearer v = true) (index php e) := by
  rw [show index php e = ReconciliationController.getReconciliations (e.env php) from
    (index_get asked).trans rfl]
  exact brings_handle fun _ => brings_list fun db => eachOf_list (objects _ _)

/-- The GET requests of the pages. -/
def readings : List String :=
  ["dashboard", "commission_report", "appointments", "services", "staff", "inventory", "clients",
    "expenses", "reconciliation", "reconciliation_today"]

theorem fetches_subset (p : Page) : fetches p ⊆ readings := by
  cases p <;> decide

/-- An answer of the API has what the pages read of it. -/
theorem needs_serve {p : Page} (listed : action ∈ fetches p) (asked : Asks e action ["GET"])
    (bears : bearer.isNone = false → emptyBytes e.request.headers.authHeader = false) (db : Db) :
    Brings (fun v => needs action bearer v = true) (serve php e db).response := by
  have reading := fetches_subset p listed
  simp only [readings, List.mem_cons, List.not_mem_nil, or_false] at reading
  obtain rfl | rfl | rfl | rfl | rfl | rfl | rfl | rfl | rfl | rfl := reading
  · exact serve_brings (needs_dashboard asked) db
  · exact serve_brings (needs_commissions asked) db
  · exact serve_brings (needs_appointments asked) db
  · exact serve_brings (needs_services asked) db
  · exact serve_brings (needs_staff asked bears) db
  · exact serve_brings (needs_inventory asked) db
  · exact serve_brings (needs_clients asked) db
  · exact serve_brings (needs_expenses asked) db
  · exact serve_brings (needs_reconciliation asked) db
  · exact fun v _ => rfl

end Answers

section Drawing

variable {p : Page} {user : Option Val} {filter : String} {before pieces : List Piece}
  {last : Piece} {v : Val}

/-- Each piece has what the page reads of it. -/
def Assembled (p : Page) (pieces : List Piece) : Prop :=
  ∀ (i : Nat) (action : String) (piece : Piece) v, (fetches p)[i]? = some action →
    pieces[i]? = some piece → piece.data = some v → needs action piece.bearer v = true

theorem Assembled.append {action : String} (assembled : Assembled p before)
    (asked : (fetches p)[before.length]? = some action)
    (meets : ∀ v, last.data = some v → needs action last.bearer v = true) :
    Assembled p (before ++ [last]) := by
  intro i other piece v listed here data
  rcases Nat.lt_or_ge i before.length with old | new
  · rw [List.getElem?_append_left old] at here
    exact assembled i other piece v listed here data
  · rw [List.getElem?_append_right new] at here
    obtain ⟨zero, rfl⟩ := List.getElem?_eq_some_iff.mp here
    have spot : i = before.length := by
      have : i - before.length < 1 := zero
      omega
    subst spot
    obtain rfl : action = other := Option.some.inj (asked.symm.trans listed)
    simp only [Nat.sub_self, List.getElem_cons_zero] at data ⊢
    exact meets v data

/-- A service whose category every object has. -/
def ReservedCategory (v : Val) : Prop :=
  ∃ items, v.elements = some items ∧
    ∃ s ∈ items, ∃ category ∈ objectProperties, s.field "category" = .str category

theorem drawsServices_iff {bearer : Option String} (met : needs "services" bearer v = true) :
    drawsServices v = true ↔ ¬ ReservedCategory v := by
  obtain ⟨items, elements, each⟩ := eachOf_iff.mp met
  constructor
  · rintro drawn ⟨others, same, s, member, category, reserved, named⟩
    obtain ⟨all, listed, ok⟩ := eachOf_iff.mp drawn
    obtain rfl : all = others := Option.some.inj (listed.symm.trans same)
    have free := (ok s member).2
    rw [named] at free
    simp [reserved] at free
  · intro free
    refine eachOf_iff.mpr ⟨items, elements, fun s member => ⟨(each s member).1, ?_⟩⟩
    have texts := (each s member).2
    rw [Bool.and_assoc, texts, Bool.and_true]
    split
    · rename_i category named
      refine decide_eq_true fun reserved => free ?_
      exact ⟨items, elements, s, member, category, reserved, named⟩
    · rfl

theorem drawsAppointments_of_needs {bearer : Option String}
    (met : needs "appointments" bearer v = true) : drawsAppointments filter v = true := by
  unfold drawsAppointments
  split
  · exact eachOf_mono (fun apt both => (Bool.and_eq_true_iff.mp both).1) met
  · refine eachOf_mono (fun apt both => ?_) met
    obtain ⟨drawn, text⟩ := Bool.and_eq_true_iff.mp both
    split
    · split
      · exact drawn
      · rfl
    · rename_i other
      unfold Val.isText at text
      split at text
      · exact absurd ‹_› (other _)
      · cases text

theorem drawsDashboard_iff {report : Option Val} {bearer : Option String}
    (met : needs "dashboard" bearer v = true)
    (commissions : ∀ w, report = some w → ∃ other, needs "commission_report" other w = true) :
    drawsDashboard user v report = true ↔ user.isSome = true := by
  have listed : eachIfAny (report.getD .null) (fun _ => true) = true := by
    cases report with
    | none => rfl
    | some w =>
      obtain ⟨other, listed⟩ := commissions w rfl
      exact listed
  have today : eachIfAny (v.field "todayAppointmentsList") drawsAppointment = true := met
  simp [drawsDashboard, listed, today]

/-- What drawing fails on. -/
inductive Throws : Page → Option Val → List Piece → Prop where
  | nobody (pieces : List Piece) : Throws .dashboard none pieces
  | category {user : Option Val} {pieces : List Piece} {piece : Piece} {v : Val}
      (there : piece ∈ pieces) (data : piece.data = some v) (reserved : ReservedCategory v) :
      Throws .services user pieces

theorem complete_of_turn (other : p ≠ .dashboard)
    (turn : p.turn user (before ++ [last]) = .draw) :
    p.laterActions.length ≤ before.length ∧
      ∀ piece ∈ before ++ [last], piece.data.isSome = true := by
  have length : (before ++ [last]).length - 1 = before.length := by simp
  unfold Page.turn at turn
  split at turn
  · exact absurd rfl other
  · exact absurd rfl other
  · rw [length] at turn
    split at turn
    · cases turn
    · rename_i none
      split at turn
      · rename_i all
        exact ⟨List.getElem?_eq_none_iff.mp none, fun piece => List.all_eq_true.mp all piece⟩
      · cases turn

/-- A page with one request is drawn with its answer. -/
theorem only_piece {action : String} (single : fetches p = [action]) (other : p ≠ .dashboard)
    (assembled : Assembled p (before ++ [last])) (asked : before.length < (fetches p).length)
    (turn : p.turn user (before ++ [last]) = .draw) :
    before = [] ∧ ∃ v, last.data = some v ∧ needs action last.bearer v = true := by
  have none : before = [] := by
    rw [single] at asked
    exact List.length_eq_zero_iff.mp (Nat.lt_one_iff.mp asked)
  subst none
  obtain ⟨v, data⟩ := Option.isSome_iff_exists.mp
    ((complete_of_turn other turn).2 last (List.mem_singleton.mpr rfl))
  exact ⟨rfl, v, data, assembled 0 action last v (by rw [single]; rfl) rfl data⟩

theorem draws_dashboard_iff (assembled : Assembled .dashboard (before ++ [last]))
    (asked : before.length < (fetches .dashboard).length)
    (overview : ∀ piece ∈ before, piece.data.isSome = true)
    (turn : Page.turn .dashboard user (before ++ [last]) = .draw) :
    Page.draws .dashboard user filter (before ++ [last]) = true ↔ user.isSome = true := by
  cases before with
  | nil =>
    have there : last.data.isSome = true := by
      by_contra none
      simp [Page.turn, none] at turn
    obtain ⟨v, data⟩ := Option.isSome_iff_exists.mp there
    have met := assembled 0 "dashboard" last v rfl rfl data
    simp only [Page.draws, List.nil_append, List.map_cons, List.map_nil, data]
    exact drawsDashboard_iff met fun w none => nomatch none
  | cons first rest =>
    obtain rfl : rest = [] := by
      have short : rest.length + 1 < 2 := asked
      exact List.length_eq_zero_iff.mp (by omega)
    obtain ⟨v, data⟩ := Option.isSome_iff_exists.mp (overview first (List.mem_singleton.mpr rfl))
    have met := assembled 0 "dashboard" first v rfl rfl data
    simp only [Page.draws, List.cons_append, List.nil_append, List.map_cons, List.map_nil, data]
    refine drawsDashboard_iff met fun w report => ⟨last.bearer, ?_⟩
    exact assembled 1 "commission_report" last w rfl rfl report

theorem draws_checkout (assembled : Assembled .checkout (before ++ [last]))
    (asked : before.length < (fetches .checkout).length)
    (turn : Page.turn .checkout user (before ++ [last]) = .draw) :
    Page.draws .checkout user filter (before ++ [last]) = true := by
  obtain ⟨complete, there⟩ := complete_of_turn (by decide) turn
  have three : before.length = 3 := by
    have least : 3 ≤ before.length := complete
    have most : before.length < 4 := asked
    omega
  obtain ⟨clients, services, products, rfl⟩ := List.length_eq_three.mp three
  obtain ⟨clientData, clientsData⟩ := Option.isSome_iff_exists.mp (there clients (by simp))
  obtain ⟨serviceData, servicesData⟩ := Option.isSome_iff_exists.mp (there services (by simp))
  obtain ⟨productData, productsData⟩ := Option.isSome_iff_exists.mp (there products (by simp))
  obtain ⟨staffData, lastData⟩ := Option.isSome_iff_exists.mp (there last (by simp))
  have metClients := assembled 0 "clients" clients clientData rfl rfl clientsData
  have metServices := assembled 1 "services" services serviceData rfl rfl servicesData
  have metProducts := assembled 2 "inventory" products productData rfl rfl productsData
  have named : eachOf serviceData (fun s => (s.field "name").isText) = true :=
    eachOf_mono (fun s both => (Bool.and_eq_true_iff.mp both).1) metServices
  have sold : eachOf productData
      (fun p => !(p.field "category").is "retail_sale" || (p.field "name").isText) = true :=
    eachOf_mono (fun p both => by simp [(Bool.and_eq_true_iff.mp both).2]) metProducts
  simp only [Page.draws, List.cons_append, List.nil_append, List.map_cons, List.map_nil,
    clientsData, servicesData, productsData, lastData, drawsCheckout, named, sold, Bool.true_and]
  exact metClients

theorem draws_reconciliation (assembled : Assembled .reconciliation (before ++ [last]))
    (asked : before.length < (fetches .reconciliation).length)
    (turn : Page.turn .reconciliation user (before ++ [last]) = .draw) :
    Page.draws .reconciliation user filter (before ++ [last]) = true := by
  obtain ⟨complete, there⟩ := complete_of_turn (by decide) turn
  have one : before.length = 1 := by
    have least : 1 ≤ before.length := complete
    have most : before.length < 2 := asked
    omega
  obtain ⟨today, rfl⟩ := List.length_eq_one_iff.mp one
  obtain ⟨todayData, data⟩ := Option.isSome_iff_exists.mp (there today (by simp))
  obtain ⟨historyData, lastData⟩ := Option.isSome_iff_exists.mp (there last (by simp))
  have met := assembled 1 "reconciliation" last historyData rfl rfl lastData
  simp only [Page.draws, List.cons_append, List.nil_append, List.map_cons, List.map_nil, data,
    lastData]
  exact met

/-- With the answers of its own requests a page is drawn, but for the two failures. -/
theorem draws_iff (assembled : Assembled p (before ++ [last]))
    (asked : before.length < (fetches p).length)
    (overview : p = .dashboard → ∀ piece ∈ before, piece.data.isSome = true)
    (staff : p = .staff → last.bearer.isSome = true)
    (turn : p.turn user (before ++ [last]) = .draw) :
    p.draws user filter (before ++ [last]) = true ↔ ¬ Throws p user (before ++ [last]) := by
  cases p with
  | dashboard =>
    rw [draws_dashboard_iff assembled asked (overview rfl) turn]
    cases user with
    | none => exact iff_of_false (by decide) fun free => free (.nobody _)
    | some user => exact iff_of_true rfl fun throws => nomatch throws
  | appointments =>
    obtain ⟨rfl, v, data, met⟩ := only_piece rfl (by decide) assembled asked turn
    refine iff_of_true ?_ fun throws => nomatch throws
    simp only [Page.draws, List.nil_append, List.map_cons, List.map_nil, data]
    exact drawsAppointments_of_needs met
  | services =>
    obtain ⟨rfl, v, data, met⟩ := only_piece rfl (by decide) assembled asked turn
    simp only [Page.draws, List.nil_append, List.map_cons, List.map_nil, data]
    rw [drawsServices_iff met]
    refine not_congr ⟨fun reserved => .category (List.mem_singleton.mpr rfl) data reserved, ?_⟩
    rintro (_ | ⟨there, brought, reserved⟩)
    rw [List.mem_singleton.mp there, data] at brought
    obtain rfl := Option.some.inj brought
    exact reserved
  | staff =>
    obtain ⟨rfl, v, data, met⟩ := only_piece rfl (by decide) assembled asked turn
    refine iff_of_true ?_ fun throws => nomatch throws
    simp only [Page.draws, List.nil_append, List.map_cons, List.map_nil, data]
    have given : last.bearer.isNone = false := by simpa using staff rfl
    exact (Bool.or_eq_true_iff.mp met).resolve_left (by simp [given])
  | checkout =>
    exact iff_of_true (draws_checkout assembled asked turn) fun throws => nomatch throws
  | reconciliation =>
    exact iff_of_true (draws_reconciliation assembled asked turn) fun throws => nomatch throws
  | inventory =>
    obtain ⟨rfl, v, data, met⟩ := only_piece rfl (by decide) assembled asked turn
    refine iff_of_true ?_ fun throws => nomatch throws
    simp only [Page.draws, List.nil_append, List.map_cons, List.map_nil, data]
    exact met
  | clients =>
    obtain ⟨rfl, v, data, met⟩ := only_piece rfl (by decide) assembled asked turn
    refine iff_of_true ?_ fun throws => nomatch throws
    simp only [Page.draws, List.nil_append, List.map_cons, List.map_nil, data]
    exact met
  | expenses =>
    obtain ⟨rfl, v, data, met⟩ := only_piece rfl (by decide) assembled asked turn
    refine iff_of_true ?_ fun throws => nomatch throws
    simp only [Page.draws, List.nil_append, List.map_cons, List.map_nil, data]
    exact met

end Drawing

section Runs

variable {php : Platform} {p : Page} {before : List Piece} {call : AdminCall}

/-- A request of a rendering is the next one of its page, and an answer to it has what the
page reads. -/
structure Rendering (p : Page) (before : List Piece) (call : AdminCall) : Prop where
  method : call.method = "GET"
  asked : (fetches p)[before.length]? = some call.action
  assembled : Assembled p before
  overview : p = .dashboard → ∀ piece ∈ before, piece.data.isSome = true
  staff : p = .staff → call.bearer.isSome = true
  met : ∀ answer, call.answer = some answer →
    Brings (fun v => needs call.action call.bearer v = true) answer.response

def RenderingKept (call : AdminCall) : Prop :=
  ∀ p before, call.resume = .render p before → Rendering p before call

theorem Rendering.settled {result : Option Val} (kept : Rendering p before call)
    (brought : Brought call result) : Assembled p (before ++ [call.piece result]) := by
  refine kept.assembled.append kept.asked fun v data => ?_
  obtain ⟨value, -⟩ := Option.filter_eq_some_iff.mp data
  obtain ⟨answer, answered, same⟩ := brought v value
  exact kept.met answer answered v same

/-- Whoever is logged in sends a token. -/
theorem SessionKept.bearer {t : AdminApp} (session : SessionKept php t.frame)
    (someone : t.currentUser.isSome = true) : t.bearer.isSome = true := by
  cases session with
  | loggedOut _ _ _ nobody =>
    have nobody : t.currentUser = none := nobody
    rw [nobody] at someone
    cases someone
  | @loggedIn token user _ own _ _ issued _ =>
    have own : t.token = some token := own
    simp [AdminApp.bearer, own, issued.nonempty]

theorem overview_of_turn {user : Option Val} {pieces : List Piece} {action : String}
    (turn : Page.turn .dashboard user pieces = .fetch action) :
    ∀ piece ∈ pieces, piece.data.isSome = true := by
  unfold Page.turn at turn
  split at turn
  · split at turn
    · rename_i there
      intro piece member
      rw [List.mem_singleton.mp member]
      exact there
    · cases turn
  · cases turn
  · exact absurd rfl ‹_›

theorem rendering_dispatched {t : AdminApp} {source : Option (AdminCall × Option Val)}
    (session : SessionKept php t.frame)
    (behind : ∀ sent result, source = some (sent, result) →
      RenderingKept sent ∧ Brought sent result)
    (dispatched : Dispatched t source call) : RenderingKept call := by
  intro p before rendering
  cases dispatched with
  | first p someone =>
    cases rendering
    exact ⟨rfl, rfl, (fun i action piece v listed none => nomatch none),
      (fun _ piece none => nomatch none), fun staff => session.bearer (someone staff),
      fun answer none => nomatch none⟩
  | @next sent result p pieces action behindIt sentRendering turn =>
    cases rendering
    obtain ⟨kept, brought⟩ := behind _ _ behindIt
    have asked := fetches_of_turn (by simp) turn
    refine ⟨rfl, asked, (kept _ _ sentRendering).settled brought, ?_, ?_,
      fun answer none => nomatch none⟩
    · rintro rfl
      exact overview_of_turn turn
    · rintro rfl
      rw [List.length_append] at asked
      exact nomatch asked
  | login => cases rendering
  | act => cases rendering
  | dialogServices => cases rendering
  | dialogStaff => cases rendering
  | booking => cases rendering

theorem rendering_served {clock : Clock} {salt : Nat} {db : Db} (kept : RenderingKept call) :
    RenderingKept
      { call with answer := some ⟨clock, (serve php (call.event clock salt) db).response⟩ } := by
  intro p before rendering
  have sent := kept p before rendering
  refine { sent with met := fun answer answered => ?_ }
  cases answered
  refine needs_serve (List.mem_of_getElem? sent.asked) ⟨rfl, ?_⟩ (fun given => ?_) db
  · simp [AdminCall.event, sent.method]
  · cases bears : call.bearer with
    | none => rw [bears] at given; cases given
    | some token =>
      rw [authHeader_event bears]
      rfl

/-- The user when the code behind an answer runs: a 401 logs him out first. -/
def userBehind (result : FetchResult) (s : AdminApp) : Option Val :=
  match result with
  | .unauthorized => none
  | _ => s.currentUser

/-- Where the answer completes a page, the page is drawn with what was brought for it, or
drawing throws and leaves the container as it was. -/
def DrawsOrThrows (php : Platform) (e : OfficeEvent) (s : BackOffice) : Prop :=
  ∀ call result p before, incoming e s.app = some (call, result) →
    call.resume = .render p before →
    p.turn (userBehind result s.app) (before ++ [call.piece result.value]) = .draw →
    (¬ Throws p (userBehind result s.app) (before ++ [call.piece result.value]) →
      (s.step php e).app.container = .drawn p (before ++ [call.piece result.value])) ∧
    (Throws p (userBehind result s.app) (before ++ [call.piece result.value]) →
      (s.step php e).app.container = s.app.container)

theorem container_draw {s : AdminApp} {pieces : List Piece}
    (turn : p.turn s.currentUser pieces = .draw) :
    (p.draws s.currentUser s.activeAptFilter pieces = true →
      (s.rendered p pieces).container = .drawn p pieces) ∧
    (p.draws s.currentUser s.activeAptFilter pieces ≠ true →
      (s.rendered p pieces).container = s.container) := by
  unfold AdminApp.rendered
  rw [turn]
  dsimp only
  unfold AdminApp.draw
  exact ⟨fun draws => by rw [if_pos draws], fun throws => by rw [if_neg throws]⟩

theorem rendered_settle {s : AdminApp} (result : FetchResult)
    (rendering : call.resume = .render p before) :
    ∃ t : AdminApp, t.currentUser = userBehind result s ∧ t.container = s.container ∧
      s.settle call result = t.rendered p (before ++ [call.piece result.value]) := by
  have resumed (t : AdminApp) (value : Option Val) :
      t.resume call value = t.rendered p (before ++ [call.piece value]) := by
    unfold AdminApp.resume
    rw [rendering]
  cases result with
  | unauthorized => exact ⟨s.logout, rfl, rfl, resumed _ none⟩
  | failed => exact ⟨s, rfl, rfl, resumed _ none⟩
  | data v => exact ⟨s, rfl, rfl, resumed _ (some v)⟩

structure DrawingsKept (php : Platform) (s : BackOffice) : Prop where
  office : OfficeKept php s
  calls : ∀ call ∈ s.app.inFlight, RenderingKept call

theorem drawingsKept_step {s : BackOffice} (e : OfficeEvent) (kept : DrawingsKept php s) :
    DrawingsKept php (s.step php e) where
  office := officeKept_step e kept.office
  calls := calls_step e
    (fun _ _ behind => rendering_dispatched (officeKept_step e kept.office).session behind)
    (fun _ _ _ before _ => rendering_served before) kept.calls

theorem drawsOrThrows {s : BackOffice} (e : OfficeEvent) (kept : DrawingsKept php s) :
    DrawsOrThrows php e s := by
  intro call result p before comes rendering turn
  obtain ⟨member, brought, rest, -, after⟩ := settle_of_incoming php comes
  have sent := kept.calls call member p before rendering
  obtain ⟨t, user, container, settled⟩ :=
    rendered_settle (s := { s.app with inFlight := rest }) result rendering
  have user : t.currentUser = userBehind result s.app := user
  rw [← user] at turn ⊢
  have exactly : p.draws t.currentUser t.activeAptFilter _ = true ↔ _ :=
    draws_iff (sent.settled brought) (List.getElem?_eq_some_iff.mp sent.asked).1 sent.overview
      sent.staff turn
  have outcome := container_draw turn
  rw [after, settled]
  constructor
  · intro free
    exact outcome.1 (exactly.mpr free)
  · intro throws
    exact (outcome.2 fun draws => exactly.mp draws throws).trans container

/-- In every run a page whose answers are complete is drawn with them, except that the
dashboard throws when nobody is logged in any more, and the services page when a category
is a property of every object. -/
theorem pages_drawn (php : Platform) (db : Db) (events : List OfficeEvent) (e : OfficeEvent) :
    DrawsOrThrows php e (officeAfter php db events) := by
  refine drawsOrThrows e (run_keeps (fun e s => drawingsKept_step e) ?_ events)
  exact ⟨⟨kept_start, fun _ none => nomatch none⟩, fun _ none => nomatch none⟩

end Runs

end Saloon.Guarantees
