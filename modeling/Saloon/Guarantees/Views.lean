import Saloon.Guarantees.Isolation
import Saloon.Guarantees.SideBySide
import Saloon.Lib.Parts

/-!
# What a reader may see

The part of the database that a token's bearer reads: the desk all of it, a
stylist the own appointments and commission lines with what stands beside them,
anyone else the staff and the services. A GET request is answered from that part
alone.
-/
namespace Saloon.Guarantees

open Lib Source

section Parts

/-- What an expense list shows of who logged it. -/
def nameOnly (u : User) : User := ⟨u.name, "", "", "", 0, "", ⟨"", ""⟩⟩

/-- What an appointment list shows of a client. -/
def contactOnly (c : Client) : Client := ⟨c.name, "", c.phone, 0, .null, ⟨"", ""⟩⟩

/-- What a payout list shows of an invoice. -/
def dateOnly (i : Invoice) : Invoice := ⟨none, 0, "", "", 0, none, i.createdAt⟩

/-- The staff rows of a user. -/
def ownRow (userId : SqlVal) (db : Db) (staffId : Option Nat) : Bool :=
  db.staff.rows.any fun s => hasUserId userId s && staffId = some s.id

/-- A client with an appointment at one of these staff rows. -/
def served (userId : SqlVal) (db : Db) (c : Row Client) : Bool :=
  db.appointments.rows.any fun a => ownRow userId db a.cols.staffId && a.cols.clientId = some c.id

/-- An invoice with a line of one of these staff rows. -/
def earnedOn (userId : SqlVal) (db : Db) (i : Row Invoice) : Bool :=
  db.invoiceItems.rows.any fun l => ownRow userId db l.cols.stylistId && i.id = l.cols.invoiceId

def stylistView (userId : SqlVal) (db : Db) : Db where
  users := db.users.mapCols nameOnly
  services := db.services
  staff := db.staff
  clients := (db.clients.filter (served userId db)).mapCols contactOnly
  appointments := db.appointments.filter fun a => ownRow userId db a.cols.staffId
  products := db.products
  invoices := (db.invoices.filter (earnedOn userId db)).mapCols dateOnly
  invoiceItems := db.invoiceItems.filter fun l => ownRow userId db l.cols.stylistId
  expenses := db.expenses
  cashReconciliation := .empty

def publicView (db : Db) : Db where
  users := .empty
  services := db.services
  staff := db.staff
  clients := .empty
  appointments := .empty
  products := .empty
  invoices := .empty
  invoiceItems := .empty
  expenses := .empty
  cashReconciliation := .empty

/-- The part that the bearer of the request's token reads. -/
def viewOf (php : Platform) (e : Event) (db : Db) : Db :=
  match AuthMiddleware.check php e.clock e.request.headers [.admin, .receptionist, .stylist] with
  | .error _ => publicView db
  | .ok payload =>
    if (payload.field "role").is "stylist" then stylistView (payload.field "id").key db else db

end Parts

section Lists

variable {userId : SqlVal} {db : Db}

/-- An appointment that a view shows, up to what it shows of the client. -/
def Shown (l m : Appointment.Listed) : Prop :=
  l.appointment = m.appointment ∧ l.service = m.service ∧ l.staff = m.staff ∧
    l.client.cols.name = m.client.cols.name ∧ l.client.cols.phone = m.client.cols.phone

/-- The appointments of the own staff rows are listed alike. -/
theorem listed_own :
    List.Forall₂ Shown
      ((Appointment.listed db).filter fun l => ownRow userId db l.appointment.cols.staffId)
      (Appointment.listed (stylistView userId db)) := by
  rw [Appointment.listed, Appointment.listed,
    filter_flatMap (q := fun a => ownRow userId db a.cols.staffId) fun a l member => by
      obtain ⟨c, -, member⟩ := List.mem_flatMap.mp member
      obtain ⟨s, -, member⟩ := List.mem_flatMap.mp member
      obtain ⟨st, -, rfl⟩ := List.mem_map.mp member
      rfl]
  refine List.rel_flatMap (R := fun a b => a = b ∧ a ∈ db.appointments.rows ∧
    ownRow userId db a.cols.staffId = true) (List.forall₂_same.mpr fun a member => ?_) ?_
  · exact ⟨rfl, List.mem_filter.mp member⟩
  · rintro a _ ⟨rfl, member, own⟩
    have clients := Table.forall₂_part (t := db.clients) (v := served userId db)
      (p := fun c => a.cols.clientId = some c.id) (q := fun c => a.cols.clientId = some c.id)
      (f := contactOnly)
      (fun c _ chosen => List.any_eq_true.mpr ⟨a, member, by rw [own]; exact chosen⟩) fun c => rfl
    refine List.rel_flatMap clients ?_
    rintro c _ rfl
    refine List.rel_flatMap (R := Eq) (List.forall₂_refl _) ?_
    rintro s _ rfl
    refine List.rel_map (R := Eq) ?_ (List.forall₂_refl _)
    rintro st _ rfl
    exact ⟨rfl, rfl, rfl, rfl, rfl⟩

/-- A selection among the appointments of the own staff rows. -/
theorem listed_selected {p : Appointment.Listed → Bool} (shared : ∀ l m, Shown l m → p l = p m)
    (own : ∀ l ∈ Appointment.listed db, p l = true →
      ownRow userId db l.appointment.cols.staffId = true) :
    List.Forall₂ Shown ((Appointment.listed db).filter p)
      ((Appointment.listed (stylistView userId db)).filter p) := by
  have whole : (Appointment.listed db).filter p =
      ((Appointment.listed db).filter fun l =>
        ownRow userId db l.appointment.cols.staffId).filter p := by
    rw [List.filter_filter]
    refine List.filter_congr fun l member => ?_
    by_cases chosen : p l = true
    · rw [chosen, own l member chosen]
      rfl
    · simp [chosen]
  rw [whole]
  exact forall₂_filter shared listed_own

/-- The staff row of a listed appointment is the one it is assigned to. -/
theorem staff_of_listed {l : Appointment.Listed} (member : l ∈ Appointment.listed db) :
    l.staff ∈ db.staff.rows ∧ l.appointment.cols.staffId = some l.staff.id := by
  obtain ⟨a, -, member⟩ := List.mem_flatMap.mp member
  obtain ⟨c, -, member⟩ := List.mem_flatMap.mp member
  obtain ⟨s, -, member⟩ := List.mem_flatMap.mp member
  obtain ⟨st, staff, rfl⟩ := List.mem_map.mp member
  obtain ⟨present, assigned⟩ := List.mem_filter.mp staff
  exact ⟨present, by simpa using assigned⟩

/-- A staff id by which a stylist's lists select: the own row's, or one that no row has. -/
def Selects (userId : SqlVal) (db : Db) (k : SqlVal) : Prop :=
  ∀ s ∈ db.staff.rows, byId k s = true → hasUserId userId s = true

theorem getAll_view {k : SqlVal} (own : Selects userId db k) :
    Appointment.getAll (some k) db = Appointment.getAll (some k) (stylistView userId db) := by
  refine map_eq_of_forall₂ (R := Shown) ?_ (forall₂_orderBy ?_ (listed_selected ?_ ?_))
  · rintro ⟨a, c, s, st⟩ ⟨_, c', _, _⟩ ⟨rfl, rfl, rfl, name, phone⟩
    dsimp only
    rw [show c.cols.name = c'.cols.name from name, show c.cols.phone = c'.cols.phone from phone]
  · rintro ⟨a, c, s, st⟩ ⟨a', c', s', st'⟩ ⟨_, _, _, _⟩ ⟨_, _, _, _⟩ ⟨rfl, -⟩ ⟨rfl, -⟩
    rfl
  · rintro ⟨a, c, s, st⟩ ⟨_, _, _, _⟩ ⟨rfl, rfl, rfl, -⟩
    rfl
  · intro l member chosen
    obtain ⟨present, assigned⟩ := staff_of_listed member
    exact List.any_eq_true.mpr ⟨l.staff, present, by simp [own l.staff present chosen, assigned]⟩

theorem getToday_view {k : SqlVal} (clock : Clock) (own : Selects userId db k) :
    Appointment.getTodayAppointments clock (some k) db =
      Appointment.getTodayAppointments clock (some k) (stylistView userId db) := by
  refine map_eq_of_forall₂ (R := Shown) ?_ (forall₂_orderBy ?_ (listed_selected ?_ ?_))
  · rintro ⟨a, c, s, st⟩ ⟨_, c', _, _⟩ ⟨rfl, rfl, rfl, name, phone⟩
    dsimp only
    rw [show c.cols.name = c'.cols.name from name, show c.cols.phone = c'.cols.phone from phone]
  · rintro ⟨a, c, s, st⟩ ⟨a', c', s', st'⟩ ⟨_, _, _, _⟩ ⟨_, _, _, _⟩ ⟨rfl, -⟩ ⟨rfl, -⟩
    rfl
  · rintro ⟨a, c, s, st⟩ ⟨_, _, _, _⟩ ⟨rfl, rfl, rfl, -⟩
    rfl
  · intro l member chosen
    obtain ⟨present, assigned⟩ := staff_of_listed member
    have selected : byId k l.staff = true := by
      simp only [Bool.and_eq_true] at chosen
      exact chosen.2
    exact List.any_eq_true.mpr ⟨l.staff, present, by simp [own l.staff present selected, assigned]⟩

/-- The commission lines of a user, with their invoices' dates. -/
theorem payouts_view :
    List.Forall₂
      (fun p q : Invoice.Payout => p.item = q.item ∧
        p.invoice.cols.createdAt = q.invoice.cols.createdAt)
      (Invoice.payouts userId db) (Invoice.payouts userId (stylistView userId db)) := by
  rw [Invoice.payouts, Invoice.payouts,
    flatMap_filter (q := fun l => ownRow userId db l.cols.stylistId)]
  · refine List.rel_flatMap (R := fun a b => a = b ∧ a ∈ db.invoiceItems.rows ∧
      ownRow userId db a.cols.stylistId = true) (List.forall₂_same.mpr fun a member => ?_) ?_
    · exact ⟨rfl, List.mem_filter.mp member⟩
    · rintro a _ ⟨rfl, member, own⟩
      have invoices := Table.forall₂_part (t := db.invoices) (v := earnedOn userId db)
        (p := fun i => i.id = a.cols.invoiceId) (q := fun i => i.id = a.cols.invoiceId)
        (f := dateOnly)
        (fun i _ chosen => List.any_eq_true.mpr ⟨a, member, by rw [own]; exact chosen⟩) fun i => rfl
      refine List.rel_flatMap invoices ?_
      rintro i _ rfl
      refine List.rel_map (R := Eq) ?_ (List.forall₂_refl _)
      rintro st _ rfl
      exact ⟨rfl, rfl⟩
  · intro l _ foreign
    refine List.flatMap_eq_nil_iff.mpr fun i _ => List.map_eq_nil_iff.mpr ?_
    refine List.filter_eq_nil_iff.mpr fun st member chosen => ?_
    have none : ¬ ownRow userId db l.cols.stylistId = true := by simp [foreign]
    refine none (List.any_eq_true.mpr ⟨st, member, ?_⟩)
    rw [Bool.and_comm]
    exact chosen

theorem getStylistPayouts_view :
    Invoice.getStylistPayouts userId db =
      Invoice.getStylistPayouts userId (stylistView userId db) := by
  refine map_eq_of_forall₂ (R := fun p q : Invoice.Payout => p.item = q.item ∧
    p.invoice.cols.createdAt = q.invoice.cols.createdAt) ?_ (forall₂_orderBy ?_ payouts_view)
  · rintro ⟨l, i⟩ ⟨_, i'⟩ ⟨rfl, date⟩
    rw [Invoice.payoutEntry, Invoice.payoutEntry]
    dsimp only
    rw [show i.cols.createdAt = i'.cols.createdAt from date]
    rfl
  · rintro ⟨l, i⟩ ⟨m, j⟩ ⟨_, i'⟩ ⟨_, j'⟩ ⟨rfl, left⟩ ⟨rfl, right⟩
    show compareOn _ _ _ = compareOn _ _ _
    simp only [compareOn, show i.cols.createdAt = i'.cols.createdAt from left,
      show j.cols.createdAt = j'.cols.createdAt from right]

theorem getExpenses_view :
    Expense.getAll db = Expense.getAll (stylistView userId db) := by
  have users : List.Forall₂ (fun r s : Row User => s = { r with cols := nameOnly r.cols })
      db.users.rows (stylistView userId db).users.rows :=
    List.forall₂_map_right_iff.mpr (List.forall₂_same.mpr fun r _ => rfl)
  refine map_eq_of_forall₂ (R := fun p q => p.1 = q.1 ∧ q.2 = { p.2 with cols := nameOnly p.2.cols })
    ?_ (forall₂_orderBy ?_ (forall₂_join_right ?_ users))
  · rintro ⟨e, r⟩ ⟨_, _⟩ ⟨rfl, rfl⟩
    rfl
  · rintro ⟨e, r⟩ ⟨e', r'⟩ ⟨_, _⟩ ⟨_, _⟩ ⟨rfl, -⟩ ⟨rfl, -⟩
    rfl
  · rintro e r _ rfl
    rfl

end Lists

section Actions

variable {php : Platform} {e : Event} {payload : Val}

/-- Who passes for some roles passes for more. -/
theorem passes_more {roles more : List Role} (passed : Passes php e roles payload)
    (some : roles ≠ []) (within : roles ⊆ more) : Passes php e more payload := by
  obtain ⟨⟨token, ⟨scheme, parts, bearer⟩, decoded⟩, truthy, granted⟩ :=
    AuthMiddleware.check_eq_ok passed
  obtain ⟨r, member, grant⟩ := granted some
  have given : ¬ emptyBytes e.request.headers.authHeader = true := by
    intro empty
    rw [Passes, AuthMiddleware.check, AuthMiddleware.ruling, if_pos empty] at passed
    cases passed
  have present : ¬ payload.empty = true := by simp [Val.empty, truthy]
  have named : (payload.fieldOr "role" (.str "")).inArray (more.map Role.name) = true :=
    List.any_eq_true.mpr ⟨r.name, List.mem_map_of_mem (within member), grant⟩
  rw [Passes, AuthMiddleware.check, AuthMiddleware.ruling, if_neg given, parts]
  simp [bearer, decoded, present, named]

theorem text_of_is {v : Val} {s : String} (same : v.is s = true) : v = .str s := by
  cases v with
  | str t => exact congrArg Val.str (of_decide_eq_true same)
  | _ => cases same

/-- A stylist is not of the desk. -/
theorem not_desk_of_stylist (role : (payload.field "role").is "stylist" = true) :
    ¬ Passes php e [.admin, .receptionist] payload := fun asDesk =>
  not_allowed_of_stylist (text_of_is role) (by decide) (allowed_of_check asDesk (by decide))

/-- A session on the database beside one on a view of it. -/
abbrev OnView (view : Db → Db) (db s t : Db) : Prop := s = db ∧ t = view db

/-- The action answers from the view what it answers from the database. -/
abbrev AnswersFrom (view : Db → Db) (db : Db) (x : Php Unit) : Prop :=
  Prog.Blind (SessionsAlike (OnView view db)) x

variable {view : Db → Db} {db : Db}

theorem answers_refused {roles : List Role} {k : Val → Php Unit}
    (refused : ∀ payload, ¬ Passes php e roles payload) :
    AnswersFrom view db ((e.env php).handle roles >>= k) :=
  inStep_handle fun payload passed => absurd passed (refused payload)

theorem answers_list {rows : Db → List Val} (same : rows db = rows (view db)) :
    AnswersFrom view db (list rows) := by
  refine inStep_list ?_
  rintro _ _ ⟨rfl, rfl⟩
  exact same

theorem answers_listing {roles : List Role} {rows : Db → List Val}
    (same : rows db = rows (view db)) :
    AnswersFrom view db (do
      let _ ← (e.env php).handle roles
      list rows) := inStep_handle fun _ _ => answers_list same

theorem answers_query {α : Type} {f : Db → α} {k : α → Php Unit} (same : f db = f (view db))
    (rest : AnswersFrom view db (k (f db))) : AnswersFrom view db (exec (.read f) >>= k) := by
  refine Prog.inStep_bind (P := fun a b => a = f db ∧ b = f db)
    (inStep_exec (Prog.inStep_read ?_)) ?_
  · rintro _ _ ⟨rfl, rfl⟩
    exact ⟨rfl, same.symm⟩
  · rintro _ _ ⟨rfl, rfl⟩
    exact rest

/-- Without a token that passes, a list is refused, or shows what is public. -/
theorem public_route (get : e.request.method = "GET")
    (refused : ∀ payload, ¬ Passes php e [.admin, .receptionist, .stylist] payload) :
    AnswersFrom publicView db (route e.request.action e.request.method (e.env php)) := by
  have none {roles : List Role} (some : roles ≠ []) (payload : Val) : ¬ Passes php e roles payload :=
    fun passed => refused payload (passes_more passed some fun r _ => by cases r <;> decide)
  have desk := @none [.admin, .receptionist] (by decide)
  have own := @none [.stylist] (by decide)
  rw [get]
  fun_cases route e.request.action "GET" (e.env php)
  -- a known action with another method
  any_goals first
    | exact absurd ‹"GET" = "POST"› (by decide)
    | exact absurd ‹"GET" = "POST" ∨ "GET" = "PUT"› (by decide)
    | with_reducible exact Prog.inStep_pure rfl
    | skip
  · exact Prog.blind_ite (fun _ => answers_refused desk) fun _ => answers_list rfl
  · exact answers_refused desk
  · exact answers_refused refused
  · exact answers_refused refused
  · exact answers_refused desk
  · exact answers_list rfl
  · exact answers_refused desk
  · exact answers_refused own
  · exact answers_refused refused
  · exact answers_refused desk
  · exact answers_refused refused
  · exact answers_refused desk
  · exact answers_refused desk
  · exact blind_json _ _

section Stylist

variable (passed : Passes php e [.admin, .receptionist, .stylist] payload)
  (role : (payload.field "role").is "stylist" = true)

/-- The own staff row's id selects the own appointments. -/
theorem selects_own {staffId : Nat} (own : AppointmentController.ownStaff payload db = some staffId) :
    Selects (payload.field "id").key db (.num staffId) := by
  intro s member chosen
  obtain ⟨r, hit, rfl⟩ := Option.map_eq_some_iff.mp own
  obtain ⟨present, selected⟩ := Table.mem_of_find? hit
  have same : s.id = r.id := by simpa using byId_iff.mp chosen
  rw [db.staff.eq_of_id_eq member present same]
  exact selected

include passed role

theorem stylist_appointments :
    AnswersFrom (stylistView (payload.field "id").key) db
      (AppointmentController.getAppointments (e.env php)) := by
  refine inStep_handle fun user asUser => ?_
  obtain rfl := passes_unique passed asUser
  rw [if_pos role]
  refine answers_query rfl ?_
  cases own : AppointmentController.ownStaff user db with
  | none => exact blind_json _ _
  | some staffId => exact answers_list (getAll_view (selects_own own))

theorem stylist_todayAppointments :
    AnswersFrom (stylistView (payload.field "id").key) db
      (AppointmentController.getTodayAppointments (e.env php)) := by
  refine inStep_handle fun user asUser => ?_
  obtain rfl := passes_unique passed asUser
  rw [if_pos role]
  refine answers_query rfl ?_
  cases own : AppointmentController.ownStaff user db with
  -- the filter by `false` selects nothing
  | none => exact answers_list (getToday_view _ fun s _ chosen => by simp [byId, Val.key] at chosen)
  | some staffId => exact answers_list (getToday_view _ (selects_own own))

theorem stylist_payouts :
    AnswersFrom (stylistView (payload.field "id").key) db
      (POSController.getStylistPayouts (e.env php)) := by
  refine inStep_handle fun user asUser => ?_
  obtain rfl := passes_unique passed (passes_more asUser (by decide) (by decide))
  exact answers_query getStylistPayouts_view (blind_json _ _)

theorem stylist_route (get : e.request.method = "GET") :
    AnswersFrom (stylistView (payload.field "id").key) db
      (route e.request.action e.request.method (e.env php)) := by
  have desk (other : Val) : ¬ Passes php e [.admin, .receptionist] other := by
    intro asDesk
    obtain rfl := passes_unique passed (passes_more asDesk (by decide) (by decide))
    exact not_desk_of_stylist role asDesk
  rw [get]
  fun_cases route e.request.action "GET" (e.env php)
  -- a known action with another method
  any_goals first
    | exact absurd ‹"GET" = "POST"› (by decide)
    | exact absurd ‹"GET" = "POST" ∨ "GET" = "PUT"› (by decide)
    | with_reducible exact Prog.inStep_pure rfl
    | skip
  · exact Prog.blind_ite (fun _ => answers_refused desk) fun _ => answers_list rfl
  · exact answers_refused desk
  · exact stylist_appointments passed role
  · exact stylist_todayAppointments passed role
  · exact answers_refused desk
  · exact answers_list rfl
  · exact answers_refused desk
  · exact stylist_payouts passed role
  · exact answers_listing rfl
  · exact answers_refused desk
  · exact answers_listing getExpenses_view
  · exact answers_refused desk
  · exact answers_refused desk
  · exact blind_json _ _

end Stylist

end Actions

section Reads

variable {php : Platform} {e : Event}

theorem response_of_view {view : Db → Db} {db : Db} (get : e.request.method = "GET")
    (answers : AnswersFrom view db (route e.request.action e.request.method (e.env php))) :
    (serve php e (view db)).response = (serve php e db).response := by
  have blind : AnswersFrom view db (index php e) := by
    have runs : ¬ e.request.method = "OPTIONS" := by rw [get]; decide
    rw [index, if_neg runs]
    exact answers
  exact (serve_alike blind ⟨rfl, rfl⟩).1.symm

/-- A GET request is answered from the part of the database that its bearer may see: all
of it for the desk, the own rows for a stylist, staff and services for anyone else. -/
theorem reads_within_view (php : Platform) (e : Event) (db : Db)
    (get : e.request.method = "GET") :
    (serve php e (viewOf php e db)).response = (serve php e db).response := by
  rw [viewOf]
  cases checked : AuthMiddleware.check php e.clock e.request.headers
      [.admin, .receptionist, .stylist] with
  | error response =>
    refine response_of_view get (public_route get fun payload passed => ?_)
    rw [Passes, checked] at passed
    cases passed
  | ok payload =>
    dsimp only
    split
    · exact response_of_view get (stylist_route checked ‹_› get)
    · rfl

/-- A stylist reads the appointments. -/
theorem emma_reads :
    (serve recordedEmma (emmaRequest "appointments" "GET" [])
        (viewOf recordedEmma (emmaRequest "appointments" "GET" []) morningDb)).response =
      (serve recordedEmma (emmaRequest "appointments" "GET" []) morningDb).response :=
  reads_within_view recordedEmma (emmaRequest "appointments" "GET" []) morningDb rfl

end Reads

end Saloon.Guarantees
