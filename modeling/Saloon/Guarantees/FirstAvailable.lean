import Saloon.Guarantees.BookingRequests
import Saloon.Guarantees.StylistIdentity
import Saloon.Source.BookingForm

/-!
# "First available"

The form books the first stylist of the list by name, and only the server knows
whose slot is free. The request finds a free stylist when that one is free or
nobody is.
-/
namespace Saloon.Guarantees

open Lib Source

/-- No appointment that is not cancelled conflicts with the request's slot for this stylist. -/
def FreeFor (php : Platform) (e : Event) (db : Db) (staffId : Val) : Prop :=
  ∀ r ∈ db.appointments.rows, ¬ Appointment.conflicts staffId.key (argOr e "date" (.str "")).key
    (dateHis (Appointment.startTimestamp php e.clock (argOr e "date" (.str ""))
      (argOr e "time" (.str ""))))
    (dateHis (Appointment.startTimestamp php e.clock (argOr e "date" (.str ""))
      (argOr e "time" (.str "")) + Appointment.durationOf (arg e "service_id").key db * 60)) r

/-- The request is accepted, for a listed stylist who is free. -/
def BooksFree (php : Platform) (e : Event) (staff : List Val) (db : Db) (response : Response)
    (after : Db) : Prop :=
  response.status = 200 ∧
    ∃ a st, after.appointments = db.appointments.insert a ∧ st ∈ staff ∧
      FreeFor php e db (st.field "id") ∧ .ofId a.staffId = st.field "id"

/-- If a listed stylist is free, the request books one who is. -/
def FindsAvailable (php : Platform) (e : Event) (staff : List Val) (db : Db) : Prop :=
  (∃ st ∈ staff, FreeFor php e db (st.field "id")) →
    BooksFree php e staff db (serve php e db).response (serve php e db).db

/-- The first of the list is free, and nothing but the stylist could refuse the booking. -/
structure FirstServes (php : Platform) (e : Event) (staff : List Val) (db : Db) : Prop where
  first : ∃ st, staff.head? = some st ∧ FreeFor php e db (st.field "id")
  complete : lacksFields e = false
  service : Appointment.durationOf (arg e "service_id").key db ≠ 0
  fits : Appointment.isInt64 (Appointment.startTimestamp php e.clock (argOr e "date" (.str ""))
    (argOr e "time" (.str "")) + Appointment.durationOf (arg e "service_id").key db * 60) = true

section Form

variable {php : Platform} {e : Event} {db : Db} {page : BookingPage} {inputs : FormInputs} {st : Val}

theorem arg_payload (k : String) (sent : body e = page.payload inputs (st.field "id")) :
    arg e k = (page.payload inputs (st.field "id")).field k := by rw [arg, sent]

/-- The salon takes what the form sends for its first stylist when that one can serve. -/
theorem offered_iff_first {s : Row Staff} (member : s ∈ db.staff.rows)
    (id : st.field "id" = .int s.id) (sent : body e = page.payload inputs (st.field "id")) :
    OfferedTo php e db ↔ FreeFor php e db (st.field "id") ∧
      Appointment.durationOf (arg e "service_id").key db ≠ 0 ∧
      Appointment.isInt64 (Appointment.startTimestamp php e.clock (argOr e "date" (.str ""))
        (argOr e "time" (.str "")) + Appointment.durationOf (arg e "service_id").key db * 60) =
          true := by
  have named : arg e "staff_id" = st.field "id" := arg_payload "staff_id" sent
  have dated : argOr e "date" (.str "") = .str inputs.date := by
    rw [argOr, sent]
    rfl
  constructor
  · rintro ⟨staff, service, day, fits, free⟩
    exact ⟨named ▸ free, service, fits⟩
  · rintro ⟨free, service, fits⟩
    refine ⟨⟨some s.id, ?_⟩, service, ?_, fits, named ▸ free⟩
    · rw [named, id]
      exact foreignKey_eq_some.mpr ⟨rfl, s, member, rfl⟩
    · rw [dated, ne_eq, key_eq_null]
      simp

/-- The same for every way that the booking can end. -/
theorem BookingOutcome.finds_iff {response : Response} {after : Db} {staff : List Val}
    (outcome : BookingOutcome php e db response after)
    (listed : ∀ st ∈ staff, ∃ s ∈ db.staff.rows, st.field "id" = .int s.id)
    (head : staff.head? = some st) (sent : body e = page.payload inputs (st.field "id")) :
    ((∃ st ∈ staff, FreeFor php e db (st.field "id")) → BooksFree php e staff db response after) ↔
      (∀ st ∈ staff, ¬ FreeFor php e db (st.field "id")) ∨ FirstServes php e staff db := by
  have member : st ∈ staff := List.mem_of_head? head
  obtain ⟨s, sMember, id⟩ := listed st member
  have offered : OfferedTo php e db ↔ _ := offered_iff_first sMember id sent
  -- a request that is refused finds nobody, and its first stylist cannot serve
  have refusal (refused : response.status ≠ 200) (cannot : ¬ FirstServes php e staff db) :
      ((∃ st ∈ staff, FreeFor php e db (st.field "id")) →
        BooksFree php e staff db response after) ↔
        (∀ st ∈ staff, ¬ FreeFor php e db (st.field "id")) ∨ FirstServes php e staff db := by
    constructor
    · intro finds
      exact .inl fun st member free => refused (finds ⟨st, member, free⟩).1
    · rintro (busy | serves) ⟨st, member, free⟩
      · exact absurd free (busy st member)
      · exact absurd serves cannot
  cases outcome with
  | incomplete lacks answer =>
    refine refusal (by rw [answer]; decide) fun serves => ?_
    rw [serves.complete] at lacks
    cases lacks
  | refused given client full answer =>
    refine refusal answer fun serves => full (offered.mpr ⟨?_, serves.service, serves.fits⟩)
    obtain ⟨first, isHead, free⟩ := serves.first
    cases head.symm.trans isHead
    exact free
  | @booked clientId mid a given client taken booking answer =>
    obtain ⟨appointments, staffRows, -⟩ := client_appointments client
    obtain ⟨free, service, fits⟩ := offered.mp taken
    refine iff_of_true (fun _ => ⟨answer, a, st, ?_, member, free, ?_⟩)
      (.inr ⟨⟨st, head, free⟩, given, service, fits⟩)
    · rw [Db.setAppointments_appointments, appointments]
    · have named : arg e "staff_id" = .ofId (some s.id) := (arg_payload "staff_id" sent).trans id
      have found := booking.staff
      rw [named] at found
      rw [eq_of_foreignKey_ofId found, id]
      rfl

end Form

/-- For every database, and a form whose stylist is left at "First available" over a list of
stylists of the database: the request finds a free one exactly when none is, or the first of
the list can serve. -/
theorem first_available_iff {php : Platform} {e : Event} {db : Db} {page : BookingPage}
    {inputs : FormInputs}
    (listed : ∀ st ∈ page.staff, ∃ s ∈ db.staff.rows, st.field "id" = .int s.id)
    (unchosen : page.staffId = .null) (asked : Asks e "book_online" ["POST"])
    (sent : page.submitForm inputs = .send (body e)) :
    FindsAvailable php e page.staff db ↔
      (∀ st ∈ page.staff, ¬ FreeFor php e db (st.field "id")) ∨
        FirstServes php e page.staff db := by
  obtain ⟨st, head, sent⟩ := BookingPage.submitForm_first unchosen sent
  exact (booking_outcome (.inr asked)).finds_iff listed head sent

section Page

/-- What a page sends for its booking, as the server reads it. -/
def formRequest (clock : Clock) (page : BookingPage) (inputs : FormInputs) : Event where
  clock
  salt := 0
  request :=
    { action := "book_online"
      method := "POST"
      headers := ⟨none, none, none, none⟩
      body :=
        match page.submitForm inputs with
        | .send body => body
        | .showErr _ => .null }

/-- Without a token the whole staff is listed. -/
theorem received_public {php : Platform} {load : Event} {db : Db} (asked : Asks load "staff" ["GET"])
    (anonymous : emptyBytes load.request.headers.authHeader = true) :
    received php load db = Staff.getAll db := by
  rw [received, (serve_publicStaff asked anonymous).1]
  exact Val.elems_list _

/-- The rows of that list stay in every later run. -/
theorem listed_of_received {php : Platform} {load : Event} {db : Db}
    (asked : Asks load "staff" ["GET"])
    (anonymous : emptyBytes load.request.headers.authHeader = true) (rest : List Event) :
    ∀ st ∈ received php load db, ∃ s ∈ (run (request php) db rest).staff.rows,
      st.field "id" = .int s.id := by
  intro st member
  rw [received_public asked anonymous, Staff.getAll, List.mem_map] at member
  obtain ⟨old, oldMember, rfl⟩ := member
  have kept : db.staff.Keeps (run (request php) db rest).staff :=
    run_keeps (P := fun after => db.staff.Keeps after.staff)
      (fun e mid before => before.trans (serve_served php e mid).writes.rows.staff) (.refl _) rest
  obtain ⟨s, sMember, same⟩ := kept.exists_id (mem_orderBy.mp oldMember)
  exact ⟨s, sMember, by rw [same]; rfl⟩

end Page

/-- The staff list as the page loads it. -/
def staffList : Event where
  clock := morning
  salt := 0
  request := ⟨"staff", "GET", ⟨none, none, none, none⟩, .null⟩

/-- The page with its second service chosen, and a time of the chips. -/
def openedPage (time : Nat) : BookingPage :=
  ((BookingPage.init none (some (received recorded staffList morningDb))).click (.service 1)).click
    (.time time)

theorem openedPage_listed (time : Nat) :
    ∀ st ∈ (openedPage time).staff, ∃ s ∈ morningDb.staff.rows, st.field "id" = .int s.id := by
  have lists : (openedPage time).staff = received recorded staffList morningDb := by
    rw [openedPage, (BookingPage.click_lists _ _).2, (BookingPage.click_lists _ _).2]
    rfl
  rw [lists]
  exact listed_of_received (by decide) (by decide) []

def janesInputs : FormInputs := ⟨"Jane Roe", "555 0100", "", "2026-06-10", ""⟩

def bookAt (time : Nat) : Event := formRequest morning (openedPage time) janesInputs

theorem eleven_available :
    FindsAvailable recorded (bookAt 1) (openedPage 1).staff morningDb ↔
      (∀ st ∈ (openedPage 1).staff, ¬ FreeFor recorded (bookAt 1) morningDb (st.field "id")) ∨
        FirstServes recorded (bookAt 1) (openedPage 1).staff morningDb := by
  have sent : (openedPage 1).submitForm janesInputs = .send (body (bookAt 1)) := rfl
  exact first_available_iff (openedPage_listed 1) rfl (by decide) sent

/-- The recorded platform, on a text of half past one. -/
def recordedLunch : Platform :=
  { recorded with strtotime := fun _ s => if s = "2026-06-10 13:30" then some 1781098200 else none }

/-- At half past one David, the first of the list, is booked and Emma is free: the form asks
for David, and is refused. -/
theorem free_stylist_missed :
    ¬ ∀ (php : Platform) (e : Event) (db : Db) (page : BookingPage) (inputs : FormInputs),
      (∀ st ∈ page.staff, ∃ s ∈ db.staff.rows, st.field "id" = .int s.id) →
      page.staffId = .null → Asks e "book_online" ["POST"] →
      page.submitForm inputs = .send (body e) → FindsAvailable php e page.staff db := by
  intro finds
  have emma : ∃ st ∈ (openedPage 2).staff,
      FreeFor recordedLunch (bookAt 2) morningDb (st.field "id") := by
    unfold FreeFor
    decide +kernel
  have refused : (serve recordedLunch (bookAt 2) morningDb).response.status = 400 := by
    decide +kernel
  have found := finds recordedLunch (bookAt 2) morningDb (openedPage 2) janesInputs
    (openedPage_listed 2) rfl (by decide) rfl emma
  cases refused.symm.trans found.1

end Saloon.Guarantees
