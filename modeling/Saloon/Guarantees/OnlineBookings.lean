import Saloon.Guarantees.AppointmentDialog
import Saloon.Source.OnlineBooking

/-!
# Bookings made online

The page of one visitor and the API, with answers on their way, lost, or given to a
request whose connection has failed. A confirmation is never shown without its
appointment, and a page books at most once more than its lost answers hide.
-/
namespace Saloon.Guarantees

open Lib Source

section Bodies

/-- The appointment is the one that the body asks for. -/
structure BookedAs (php : Platform) (body : Val) (a : Appointment) : Prop where
  staff : ∃ n : Nat, (body.field "staff_id").key = .num n ∧ a.staffId = some n
  service : ∃ n : Nat, (body.field "service_id").key = .num n ∧ a.serviceId = some n
  day : a.appointmentDate = (body.field "date").key
  begins : ∃ clock, a.startTime =
    dateHis (Appointment.startTimestamp php clock (body.field "date") (body.field "time"))

def InBooks (php : Platform) (db : Db) (body : Val) : Prop :=
  ∃ r ∈ db.appointments.rows, BookedAs php body r.cols

/-- What an appointment is booked for. -/
def slotOf (a : Appointment) : Option Nat × Option Nat × SqlVal × String :=
  (a.staffId, a.serviceId, a.appointmentDate, a.startTime)

variable {php : Platform} {e : Event} {db after : Db} {body : Val} {call : OnlineCall}

theorem BookedAs.of_slot {a b : Appointment} (booked : BookedAs php body a)
    (same : slotOf b = slotOf a) : BookedAs php body b := by
  simp only [slotOf, Prod.mk.injEq] at same
  obtain ⟨staff, service, day, begins⟩ := same
  exact ⟨staff ▸ booked.staff, service ▸ booked.service, day ▸ booked.day, begins ▸ booked.begins⟩

/-- No request moves an appointment. -/
theorem slots_kept (php : Platform) (e : Event) (db : Db) :
    db.appointments.KeepsColumn slotOf (serve php e db).db.appointments := by
  cases (serve_served php e db).appointment_cases with
  | same appointments =>
    rw [appointments]
    exact .refl _
  | booked a client named booking result asked =>
    rw [result, Db.setAppointments_appointments, (client_appointments client).1]
    exact Table.keepsColumn_insert _ _
  | marked asked checked known found appointments bill =>
    rw [appointments]
    exact Table.keepsColumn_modify _ _ fun _ => rfl

theorem InBooks.mono (kept : db.appointments.KeepsColumn slotOf after.appointments)
    (there : InBooks php db body) : InBooks php after body := by
  obtain ⟨r, member, booked⟩ := there
  obtain ⟨later, present, -, same⟩ := kept r member
  exact ⟨later, present, booked.of_slot same⟩

theorem booking_answers (php : Platform) (asked : AsksBooking e) (db : Db) :
    (serve php e db).response.status = 200 ∨ 300 ≤ (serve php e db).response.status := by
  refine serve_responds (Q := fun response => response.status = 200 ∨ 300 ≤ response.status) ?_
    (.inl rfl) (.inr (by decide)) db
  rw [index_booking asked, createAppointment_eq]
  refine responds_ite (fun _ => ?_) fun _ => ?_
  · exact responds_json (.inr (by decide))
  · refine responds_attempt ?_ (fun _ => .inl rfl) fun _ => .inr (show 300 ≤ 400 by decide)
    exact responds_bind (responds_exec _) fun _ => responds_transaction _

theorem ok_iff {response : Response} :
    response.ok = true ↔ 200 ≤ response.status ∧ response.status < 300 := by
  simp [Response.ok]

/-- The row that a booking adds is the one that it asks for. -/
theorem bookedAs_of_booked {mid : Db} {clientId clientType : Val} {a : Appointment}
    (given : lacksFields e = false)
    (booking : Appointment.Booked php e.clock mid clientId (arg e "staff_id") (arg e "service_id")
      (argOr e "date" (.str "")) (argOr e "time" (.str "")) clientType a)
    (read : Guarantees.body e = body)
    (dated : argOr e "date" (.str "") = body.field "date")
    (timed : argOr e "time" (.str "") = body.field "time") : BookedAs php body a := by
  have named : (arg e "staff_id").empty = false := by
    simp only [lacksFields, Bool.or_eq_false_iff] at given
    exact given.1.1.1.2
  obtain ⟨s, -, staff⟩ := exists_of_foreignKey booking.staff (key_ne_null_of_not_empty named)
  obtain ⟨r, -, key, -, service⟩ := service_of_duration booking.duration
  have staffKey := (foreignKey_eq_some.mp (staff ▸ booking.staff)).1
  have serviceId : a.serviceId = some r.id := Option.some.inj (booking.service.symm.trans service)
  rw [arg, read] at staffKey key
  rw [dated] at booking
  rw [timed] at booking
  exact ⟨⟨s.id, staffKey, staff⟩, ⟨r.id, key, serviceId⟩, booking.day, e.clock, booking.begins⟩

/-- A booking that is accepted is in the books. -/
theorem inBooks_of_ok {form : BookingPage} {inputs : FormInputs} {staffId : Val}
    (asked : AsksBooking e) (sent : e.request.body = form.payload inputs staffId)
    (ok : (serve php e db).response.ok = true) :
    InBooks php (serve php e db).db (form.payload inputs staffId) := by
  have accepted : (serve php e db).response.status = 200 := by
    have good := (ok_iff.mp ok).2
    rcases booking_answers php asked db with same | bad
    · exact same
    · omega
  have read : Guarantees.body e = form.payload inputs staffId := by
    rw [Guarantees.body, sent]
    rfl
  have dated : argOr e "date" (.str "") = (form.payload inputs staffId).field "date" := by
    rw [argOr, read]
    rfl
  have timed : argOr e "time" (.str "") = (form.payload inputs staffId).field "time" := by
    rw [argOr, read]
    rfl
  have outcome : BookingOutcome php e db (serve php e db).response (serve php e db).db :=
    booking_outcome asked
  generalize (serve php e db).db = after at outcome ⊢
  cases outcome with
  | incomplete lacks answer => rw [answer] at accepted; cases accepted
  | refused given client full answer => exact absurd accepted answer
  | booked given client offered booking answer =>
    exact ⟨_, Table.mem_insert_self _ _, bookedAs_of_booked given booking read dated timed⟩

end Bodies

section Phases

variable {php : Platform} {s : OnlineSite} {call : OnlineCall}

/-- A request of `init`. -/
def Loads (call : OnlineCall) : Prop :=
  call.resume = .loadServices ∨ call.resume = .loadStaff

/-- A request of the button, with what it sends. -/
structure Books (call : OnlineCall) : Prop where
  date : ∃ date, call.resume = .booking date
  asked : call.action = "book_online" ∧ call.method = "POST"
  body : ∃ form inputs staffId, call.body = BookingPage.payload form inputs staffId

/-- Where the page is between loading and a confirmation. -/
inductive Phase (php : Platform) (s : OnlineSite) : Prop where
  | loading {call : OnlineCall} (calls : s.page.inFlight = [call]) (loads : Loads call)
      (unready : s.page.form.serviceId = .null ∧ s.page.ready = false)
      (enabled : s.page.sending = false) (fresh : s.page.confirmation = none)
      (shown : s.page.formShown = true) (count : s.accepted = s.lost)
  | choosing (calls : s.page.inFlight = []) (enabled : s.page.sending = false)
      (fresh : s.page.confirmation = none) (shown : s.page.formShown = true)
      (count : s.accepted = s.lost)
  | waiting {call : OnlineCall} (calls : s.page.inFlight = [call]) (books : Books call)
      (disabled : s.page.sending = true) (fresh : s.page.confirmation = none)
      (shown : s.page.formShown = true) (count : s.accepted = s.lost + call.taken)
      (taken : call.taken = 1 → InBooks php s.db call.body)
  | confirmed {c : Confirmation} (calls : s.page.inFlight = []) (disabled : s.page.sending = true)
      (there : s.page.confirmation = some c) (taken : InBooks php s.db c.sent)
      (count : s.accepted = s.lost + 1)

theorem phase_opened (db : Db) (adrift : List OnlineCall) :
    Phase php ⟨.opened, db, adrift, 0, 0⟩ :=
  .loading rfl (.inl rfl) ⟨rfl, rfl⟩ rfl rfl rfl rfl

/-- A request that is not the page's leaves the phase. -/
theorem Phase.elsewhere (phase : Phase php s) {e : Event} {t : OnlineSite} {n : Nat}
    (page : t.page = s.page) (db : t.db = (serve php e s.db).db)
    (accepted : t.accepted = s.accepted + n) (lost : t.lost = s.lost + n) : Phase php t := by
  have kept : s.db.appointments.KeepsColumn slotOf t.db.appointments := by
    rw [db]
    exact slots_kept php e s.db
  cases phase with
  | loading calls loads unready enabled fresh shown count =>
    exact .loading (page ▸ calls) loads (page ▸ unready) (page ▸ enabled) (page ▸ fresh)
      (page ▸ shown) (by omega)
  | choosing calls enabled fresh shown count =>
    exact .choosing (page ▸ calls) (page ▸ enabled) (page ▸ fresh) (page ▸ shown) (by omega)
  | waiting calls books disabled fresh shown count taken =>
    exact .waiting (page ▸ calls) books (page ▸ disabled) (page ▸ fresh) (page ▸ shown)
      (by omega) fun one => (taken one).mono kept
  | confirmed calls disabled there taken count =>
    exact .confirmed (page ▸ calls) (page ▸ disabled) (page ▸ there) (taken.mono kept) (by omega)

/-- The page's request, at the only position there is. -/
theorem only_call {calls : List OnlineCall} {i : Nat} {other : OnlineCall}
    (single : calls = [call]) (found : calls[i]? = some other) : i = 0 ∧ other = call := by
  subst single
  cases i with
  | zero => exact ⟨rfl, (Option.some.inj found).symm⟩
  | succ i => cases found

/-- What a click leaves alone. -/
structure Clicked (p q : OnlinePage) : Prop where
  calls : q.inFlight = p.inFlight
  sending : q.sending = p.sending
  confirmation : q.confirmation = p.confirmation
  ready : q.ready = p.ready
  services : q.form.services = p.form.services
  staff : q.form.staff = p.form.staff
  shown : p.formShown = true → q.formShown = true

theorem clicked (chip : Chip) (p : OnlinePage) : Clicked p (p.click chip) := by
  have same : Clicked p p := ⟨rfl, rfl, rfl, rfl, rfl, rfl, id⟩
  obtain ⟨services, staff⟩ := p.form.click_lists chip
  unfold OnlinePage.click
  split
  · split
    · exact same
    · exact ⟨rfl, rfl, rfl, rfl, rfl, rfl, fun _ => rfl⟩
  · split
    · exact ⟨rfl, rfl, rfl, rfl, services, staff, id⟩
    · exact same

/-- Before the chips are drawn there is nothing to click. -/
theorem click_unready {p : OnlinePage} (shown : p.formShown = true) (unready : p.ready = false)
    (chip : Chip) : p.click chip = p := by
  unfold OnlinePage.click
  split
  · rw [if_pos shown]
  · rw [if_neg (by simp [unready])]

theorem phase_click (chip : Chip) (phase : Phase php s) :
    Phase php { s with page := s.page.click chip } := by
  have same := clicked chip s.page
  cases phase with
  | loading calls loads unready enabled fresh shown count =>
    rw [click_unready shown unready.2]
    exact .loading calls loads unready enabled fresh shown count
  | choosing calls enabled fresh shown count =>
    exact .choosing (same.calls.trans calls) (same.sending.trans enabled)
      (same.confirmation.trans fresh) (same.shown shown) count
  | waiting calls books disabled fresh shown count taken =>
    exact .waiting (same.calls.trans calls) books (same.sending.trans disabled)
      (same.confirmation.trans fresh) (same.shown shown) count taken
  | confirmed calls disabled there taken count =>
    exact .confirmed (same.calls.trans calls) (same.sending.trans disabled)
      (same.confirmation.trans there) taken count

/-- What the form sends names its choices, and the first stylist where none is chosen. -/
theorem payload_of_send {form : BookingPage} {inputs : FormInputs} {body : Val}
    (sent : form.submitForm inputs = .send body) :
    form.serviceId.jsTruthy = true ∧
      ((form.staffId.jsTruthy = false ∧ ∃ st, form.staff.head? = some st ∧
          body = form.payload inputs (st.field "id")) ∨
        (form.staffId.jsTruthy = true ∧ body = form.payload inputs form.staffId)) := by
  unfold BookingPage.submitForm at sent
  split at sent
  · cases sent
  · rename_i chosen
    refine ⟨by simpa using chosen, ?_⟩
    iterate 4
      split at sent
      · cases sent
    split at sent
    · rename_i unchosen
      split at sent
      · rename_i st rest staff
        cases sent
        exact .inl ⟨by simpa using unchosen, st, by rw [staff]; rfl, rfl⟩
      · cases sent
    · rename_i stylist
      cases sent
      exact .inr ⟨by simpa using stylist, rfl⟩

/-- The button does nothing while it is disabled, and before a service is there. -/
theorem phase_submit (inputs : FormInputs) (phase : Phase php s) :
    Phase php { s with page := s.page.submit inputs } := by
  unfold OnlinePage.submit
  cases phase with
  | loading calls loads unready enabled fresh shown count =>
    split
    · split
      · exact .loading calls loads unready enabled fresh shown count
      · rename_i body sent
        have chosen := (payload_of_send sent).1
        rw [unready.1] at chosen
        cases chosen
    · exact .loading calls loads unready enabled fresh shown count
  | choosing calls enabled fresh shown count =>
    split
    · split
      · exact .choosing calls enabled fresh shown count
      · rename_i body sent
        obtain ⟨staffId, payload⟩ : ∃ staffId, body = s.page.form.payload inputs staffId := by
          rcases (payload_of_send sent).2 with ⟨-, st, -, payload⟩ | ⟨-, payload⟩
          · exact ⟨_, payload⟩
          · exact ⟨_, payload⟩
        have added : s.page.inFlight ++ [⟨"book_online", "POST", body, .booking inputs.date, none⟩] =
            [⟨"book_online", "POST", body, .booking inputs.date, none⟩] := by
          rw [calls, List.nil_append]
        exact .waiting added ⟨⟨_, rfl⟩, ⟨rfl, rfl⟩, s.page.form, inputs, staffId, payload⟩ rfl fresh
          shown count fun one => nomatch one
    · exact .choosing calls enabled fresh shown count
  | waiting calls books disabled fresh shown count taken =>
    rw [if_neg (by simp [disabled])]
    exact .waiting calls books disabled fresh shown count taken
  | confirmed calls disabled there taken count =>
    rw [if_neg (by simp [disabled])]
    exact .confirmed calls disabled there taken count

theorem takes_of_loads (loads : Loads call) (response : Response) : call.takes response = 0 := by
  unfold OnlineCall.takes
  rcases loads with services | staff
  · rw [services]
  · rw [staff]

theorem takes_of_books (books : Books call) (response : Response) :
    call.takes response = if response.ok then 1 else 0 := by
  obtain ⟨date, resume⟩ := books.date
  rw [OnlineCall.takes, resume]

theorem Loads.taken (loads : Loads call) : call.taken = 0 := by
  unfold OnlineCall.taken
  split
  · rfl
  · exact takes_of_loads loads _

theorem Books.asks (books : Books call) (clock : Clock) (salt : Nat) :
    AsksBooking (call.event clock salt) := by
  refine .inr ⟨books.asked.1, ?_⟩
  rw [show (call.event clock salt).request.method = call.method from rfl, books.asked.2]
  exact List.mem_singleton.mpr rfl

theorem phase_serve (i : Nat) (clock : Clock) (salt : Nat) (phase : Phase php s) :
    Phase php (s.serve php i clock salt) := by
  unfold OnlineSite.serve
  split
  · exact phase
  · rename_i other found
    split
    · exact phase
    · rename_i unanswered
      cases phase with
      | loading calls loads unready enabled fresh shown count =>
        obtain ⟨rfl, rfl⟩ := only_call calls found
        have answered (answer : Answer) : s.page.inFlight.set 0 { other with answer := some answer } =
            [{ other with answer := some answer }] := by rw [calls, List.set_cons_zero]
        refine .loading (answered _) loads unready enabled fresh shown ?_
        show s.accepted + other.takes _ = s.lost
        rw [takes_of_loads loads, count]
        rfl
      | choosing calls => rw [calls] at found; cases found
      | waiting calls books disabled fresh shown count taken =>
        obtain ⟨rfl, rfl⟩ := only_call calls found
        have answered (answer : Answer) : s.page.inFlight.set 0 { other with answer := some answer } =
            [{ other with answer := some answer }] := by rw [calls, List.set_cons_zero]
        refine .waiting (answered _) ⟨books.date, books.asked, books.body⟩ disabled fresh shown ?_
          fun one => ?_
        · have none : other.taken = 0 := by rw [OnlineCall.taken, unanswered]
          rw [none, Nat.add_zero] at count
          exact congrArg (· + other.takes _) count
        · obtain ⟨form, inputs, staffId, body⟩ := books.body
          have ok : (serve php (other.event clock salt) s.db).response.ok = true := by
            have one : other.takes (serve php (other.event clock salt) s.db).response = 1 := one
            rw [takes_of_books books] at one
            by_contra refused
            rw [if_neg refused] at one
            cases one
          show InBooks php (serve php (other.event clock salt) s.db).db other.body
          rw [body]
          exact inBooks_of_ok (books.asks clock salt) body ok
      | confirmed calls => rw [calls] at found; cases found

/-- `init` goes on whatever it is answered. -/
theorem phase_loaded {t : OnlineSite} {response : Option Response} (loads : Loads call)
    (unready : s.page.form.serviceId = .null ∧ s.page.ready = false)
    (enabled : s.page.sending = false) (fresh : s.page.confirmation = none)
    (shown : s.page.formShown = true)
    (page : t.page = { s.page with inFlight := [] }.resume call response)
    (count : t.accepted = t.lost) : Phase php t := by
  obtain ⟨loaded, db, adrift, accepted, lost⟩ := t
  subst page
  unfold OnlinePage.resume
  rcases loads with services | staff
  · rw [services]
    exact .loading rfl (.inr rfl) unready enabled fresh shown count
  · rw [staff]
    exact .choosing rfl enabled fresh shown count

/-- A booking is confirmed with a good answer, and otherwise the button is there again. -/
theorem phase_answered {t : OnlineSite} {response : Option Response} (books : Books call)
    (disabled : s.page.sending = true) (fresh : s.page.confirmation = none)
    (shown : s.page.formShown = true)
    (page : t.page = { s.page with inFlight := [] }.resume call response)
    (refused : response.any Response.ok = false → t.accepted = t.lost)
    (taken : response.any Response.ok = true →
      t.accepted = t.lost + 1 ∧ InBooks php t.db call.body) : Phase php t := by
  obtain ⟨date, resume⟩ := books.date
  obtain ⟨answered, db, adrift, accepted, lost⟩ := t
  subst page
  unfold OnlinePage.resume
  rw [resume]
  cases response with
  | none => exact .choosing rfl rfl fresh shown (refused rfl)
  | some response =>
    dsimp only
    split
    · rename_i ok
      obtain ⟨count, inBooks⟩ := taken ok
      exact .confirmed rfl disabled rfl inBooks count
    · rename_i bad
      exact .choosing rfl rfl fresh shown (refused (Bool.eq_false_iff.mpr bad))

theorem erased (calls : s.page.inFlight = [call]) (response : Option Response) :
    (s.settle call 0 response).page = { s.page with inFlight := [] }.resume call response := by
  rw [OnlineSite.settle, calls]
  rfl

theorem phase_arrive (i : Nat) (phase : Phase php s) : Phase php (s.arrive i) := by
  unfold OnlineSite.arrive
  split
  · exact phase
  · rename_i other found
    split
    · exact phase
    · rename_i answer answered
      cases phase with
      | loading calls loads unready enabled fresh shown count =>
        obtain ⟨rfl, rfl⟩ := only_call calls found
        exact phase_loaded loads unready enabled fresh shown (erased calls _) count
      | choosing calls => rw [calls] at found; cases found
      | waiting calls books disabled fresh shown count taken =>
        obtain ⟨rfl, rfl⟩ := only_call calls found
        have takes : other.taken = if answer.response.ok then 1 else 0 := by
          rw [OnlineCall.taken, answered]
          exact takes_of_books books _
        refine phase_answered books disabled fresh shown (erased calls _) (fun refused => ?_)
          fun ok => ?_
        · have refused : answer.response.ok = false := refused
          rw [takes, if_neg (by simp [refused])] at count
          exact count
        · have ok : answer.response.ok = true := ok
          rw [if_pos ok] at takes
          rw [takes] at count
          exact ⟨count, taken takes⟩
      | confirmed calls => rw [calls] at found; cases found

theorem phase_lose (i : Nat) (phase : Phase php s) : Phase php (s.lose i) := by
  unfold OnlineSite.lose
  split
  · exact phase
  · rename_i other found
    cases phase with
    | loading calls loads unready enabled fresh shown count =>
      obtain ⟨rfl, rfl⟩ := only_call calls found
      refine phase_loaded loads unready enabled fresh shown (erased calls none) ?_
      show s.accepted = s.lost + other.taken
      rw [loads.taken, count]
      rfl
    | choosing calls => rw [calls] at found; cases found
    | waiting calls books disabled fresh shown count taken =>
      obtain ⟨rfl, rfl⟩ := only_call calls found
      exact phase_answered books disabled fresh shown (erased calls none) (fun _ => count)
        fun ok => nomatch ok
    | confirmed calls => rw [calls] at found; cases found

theorem phase_gesture (g : FormGesture) (phase : Phase php s) : Phase php (s.gesture g) := by
  cases g with
  | reload => exact phase_opened s.db []
  | click chip => exact phase_click chip phase
  | submit inputs => exact phase_submit inputs phase

theorem phase_step (e : OnlineEvent) (phase : Phase php s) : Phase php (s.step php e) := by
  cases e with
  | gesture g => exact phase_gesture g phase
  | serve i clock salt => exact phase_serve i clock salt phase
  | arrive i => exact phase_arrive i phase
  | lose i => exact phase_lose i phase
  | serveLate i clock salt =>
    show Phase php (s.serveLate php i clock salt)
    unfold OnlineSite.serveLate
    split
    · exact phase
    · exact phase.elsewhere rfl rfl rfl rfl
  | other e => exact phase.elsewhere (n := 0) rfl rfl rfl rfl

/-- The page after a run that begins with its script. -/
def siteAfter (php : Platform) (db : Db) (events : List OnlineEvent) : OnlineSite :=
  run (OnlineSite.step php) ⟨.opened, db, [], 0, 0⟩ events

theorem phase_run (php : Platform) (db : Db) (events : List OnlineEvent) :
    Phase php (siteAfter php db events) :=
  run_keeps (fun e _ => phase_step e) (phase_opened db []) events

/-- The page books at most once: only answers that were lost can hide more, and behind a
confirmation nothing is sent until the page is loaded again. -/
structure BooksOnce (php : Platform) (s : OnlineSite) : Prop where
  single : s.page.inFlight.length ≤ 1
  bound : s.accepted ≤ s.lost + 1
  settled : s.page.confirmation.isSome = true → s.accepted = s.lost + 1 ∧
    ∀ e, e ≠ .gesture .reload → (s.step php e).page.inFlight = [] ∧
      (s.step php e).page.confirmation = s.page.confirmation

theorem taken_le (books : Books call) : call.taken ≤ 1 := by
  unfold OnlineCall.taken
  split
  · exact Nat.zero_le _
  · rw [takes_of_books books]
    split <;> decide

theorem confirmed_stays (calls : s.page.inFlight = []) (disabled : s.page.sending = true)
    (e : OnlineEvent) (loaded : e ≠ .gesture .reload) :
    (s.step php e).page.inFlight = [] ∧
      (s.step php e).page.confirmation = s.page.confirmation := by
  cases e with
  | gesture g =>
    cases g with
    | reload => exact absurd rfl loaded
    | click chip =>
      have same := clicked chip s.page
      exact ⟨same.calls.trans calls, same.confirmation⟩
    | submit inputs =>
      show (s.page.submit inputs).inFlight = [] ∧ (s.page.submit inputs).confirmation = _
      rw [OnlinePage.submit, if_neg (by simp [disabled])]
      exact ⟨calls, rfl⟩
  | serve i clock salt =>
    show (s.serve php i clock salt).page.inFlight = [] ∧
      (s.serve php i clock salt).page.confirmation = _
    rw [OnlineSite.serve, calls]
    exact ⟨calls, rfl⟩
  | arrive i =>
    show (s.arrive i).page.inFlight = [] ∧ (s.arrive i).page.confirmation = _
    rw [OnlineSite.arrive, calls]
    exact ⟨calls, rfl⟩
  | lose i =>
    show (s.lose i).page.inFlight = [] ∧ (s.lose i).page.confirmation = _
    rw [OnlineSite.lose, calls]
    exact ⟨calls, rfl⟩
  | serveLate i clock salt =>
    show (s.serveLate php i clock salt).page.inFlight = [] ∧
      (s.serveLate php i clock salt).page.confirmation = _
    unfold OnlineSite.serveLate
    split
    · exact ⟨calls, rfl⟩
    · exact ⟨calls, rfl⟩
  | other e => exact ⟨calls, rfl⟩

theorem online_booked_once (php : Platform) (db : Db) (events : List OnlineEvent) :
    BooksOnce php (siteAfter php db events) := by
  have phase := phase_run php db events
  generalize siteAfter php db events = s at phase ⊢
  cases phase with
  | loading calls loads unready enabled fresh shown count =>
    exact ⟨by rw [calls]; rfl, by omega, fun there => by rw [fresh] at there; cases there⟩
  | choosing calls enabled fresh shown count =>
    exact ⟨by rw [calls]; decide, by omega, fun there => by rw [fresh] at there; cases there⟩
  | waiting calls books disabled fresh shown count taken =>
    have one := taken_le books
    exact ⟨by rw [calls]; rfl, by omega, fun there => by rw [fresh] at there; cases there⟩
  | confirmed calls disabled there taken count =>
    exact ⟨by rw [calls]; decide, by omega, fun _ => ⟨count, confirmed_stays calls disabled⟩⟩

end Phases

section Confirmations

variable {php : Platform} {p q : OnlinePage} {call : OnlineCall}

/-- What is said of the booking is what was sent: its service, its date and time, and its
stylist, or that the first of the list was left to be found. -/
structure Tells (form : BookingPage) (c : Confirmation) : Prop where
  service : ∃ svc ∈ form.services,
    c.sent.field "service_id" = svc.field "id" ∧ c.serviceName = chipName svc
  stylist : (c.staffName = OnlinePage.firstAvailable ∧ ∃ st, form.staff.head? = some st ∧
      c.sent.field "staff_id" = st.field "id") ∨
    ∃ st ∈ form.staff, c.sent.field "staff_id" = st.field "id" ∧ c.staffName = st.field "name"
  date : c.sent.field "date" = .str c.date
  time : c.sent.field "time" = .str c.time

/-- The names beside the choices are theirs. -/
structure Named (p : OnlinePage) : Prop where
  service : ∃ svc ∈ p.form.services,
    p.form.serviceId = svc.field "id" ∧ p.serviceName = chipName svc
  stylist : p.form.staffId = .null ∧ p.staffName = OnlinePage.firstAvailable ∨
    ∃ st ∈ p.form.staff, p.form.staffId = st.field "id" ∧ p.staffName = st.field "name"

/-- An answer to the staff request that is on its way. -/
structure StaffCall (call : OnlineCall) : Prop where
  asked : call.action = "staff" ∧ call.method = "GET"
  ids : ∀ answer, call.answer = some answer → ∀ items, answer.response.list = some items →
    ∀ st ∈ items, (st.field "id").jsTruthy = true

/-- What holds while the visitor leaves the chips alone when the page is sending. -/
structure Truthful (p : OnlinePage) : Prop where
  unready : p.ready = false → p.confirmation = none → p.form.serviceId = .null ∧
    p.form.staffId = .null ∧ p.staffName = OnlinePage.firstAvailable
  named : p.ready = true → p.confirmation = none → Named p
  ids : ∀ st ∈ p.form.staff, (st.field "id").jsTruthy = true
  loading : ∀ call ∈ p.inFlight, call.resume = .loadStaff → p.form.services ≠ [] ∧ StaffCall call
  current : ∀ call ∈ p.inFlight, ∀ date, call.resume = .booking date →
    ∃ inputs, p.form.submitForm inputs = .send call.body ∧ date = inputs.date
  told : ∀ c, p.confirmation = some c → Tells p.form c

theorem Truthful.calls (truthful : Truthful p) : ∀ call ∈ p.inFlight,
    (call.resume = .loadStaff → StaffCall call) ∧
      ∃ sent ∈ p.inFlight, call.resume = sent.resume ∧ call.body = sent.body :=
  fun call there => ⟨fun loads => (truthful.loading call there loads).2, call, there, rfl, rfl⟩

/-- Ann waits for the chips, chooses the second service and eleven o'clock, and books. -/
def annsVisit : List OnlineEvent :=
  [.serve 0 morning 0, .arrive 0, .serve 0 morning 0, .arrive 0,
    .gesture (.click (.service 1)), .gesture (.click (.time 1)),
    .gesture (.submit ⟨"Ann Poe", "555 0101", "", "2026-06-10", ""⟩), .serve 0 morning 0, .arrive 0]

example : ((siteAfter recorded morningDb annsVisit).page.confirmation.map fun c =>
    (c.date, c.time)) = some ("2026-06-10", "11:00") := by decide +kernel

end Confirmations

end Saloon.Guarantees
