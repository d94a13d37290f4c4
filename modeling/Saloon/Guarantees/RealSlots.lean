import Saloon.Guarantees.BookingRequests

/-!
# Stored slots and the intervals they stand for

A booking stores the date as it was sent, and the two times cut out of time
stamps. The row is the interval that was asked for when the text is read, by
that date, and the service ends before midnight; the booking code asks for none
of the three.
-/
namespace Saloon.Guarantees

open Lib Source

/-- What `strtotime` is given. -/
def slotText (e : Event) : String :=
  (argOr e "date" (.str "")).strval ++ " " ++ (argOr e "time" (.str "")).strval

/-- The appointment is the interval from the instant that its request named, as long as
the service: on the instant's date, from its time of day, before midnight. -/
def RealSlot (php : Platform) (e : Event) (duration : Int) (a : Appointment) : Prop :=
  ∃ ts, php.strtotime e.clock.time (slotText e) = some ts ∧
    a.appointmentDate = .text (dateYmd ts) ∧ a.startTime = dateHis ts ∧ a.startTime < a.endTime ∧
    ∃ begins ends, IsTime a.startTime begins ∧ IsTime a.endTime ends ∧
      (ends : Int) - begins = duration * 60

structure BooksReal (php : Platform) (e : Event) (db : Db) : Prop where
  real : ∀ a, (request php e db).appointments = db.appointments.insert a →
    RealSlot php e (Appointment.durationOf (arg e "service_id").key db) a
  rejects : php.strtotime e.clock.time (slotText e) = none →
    (serve php e db).response.status ≠ 200 ∧ (request php e db).appointments = db.appointments

/-- The text names an instant of the date that was sent, and the service is over before
midnight. -/
def FaithfulTime (php : Platform) (e : Event) (db : Db) : Prop :=
  ∃ ts, php.strtotime e.clock.time (slotText e) = some ts ∧
    (argOr e "date" (.str "")).key = .text (dateYmd ts) ∧
    ts % 86400 + Appointment.durationOf (arg e "service_id").key db * 60 < 86400

/-- Every service takes some time. -/
def ServicesTakeTime (db : Db) : Prop := ∀ r ∈ db.services.rows, 0 < r.cols.durationMins

section Durations

variable {php : Platform} {e : Event} {user : Option Val} {db mid after : Db}

theorem servicesTakeTime_seed (hash : String → String) (clock : Clock) :
    ServicesTakeTime (seed hash clock) := by
  have positive : ∀ r ∈ seedServices.rows, 0 < r.cols.durationMins := by decide
  exact positive

theorem Served.servicesTakeTime (served : Served php e user db after)
    (holds : ServicesTakeTime db) : ServicesTakeTime after := by
  have same {after : Db} (services : after.services = db.services) : ServicesTakeTime after := by
    unfold ServicesTakeTime
    rwa [services]
  cases served with
  | nothing => exact holds
  | register allowed known done asked =>
    obtain ⟨users, staff, rfl⟩ := User.registerStatements_frame done
    exact same rfl
  | updateStaff allowed done asked =>
    obtain ⟨users, staff, rfl⟩ := User.updateStatements_frame done
    exact same rfl
  | availability passed allowed known => exact same rfl
  | addClient allowed asked => exact same rfl
  | clientOnly asked client => exact same (client_appointments client).2.2
  | book asked named client done =>
    obtain ⟨a, -, rfl⟩ := Appointment.createStatements_eq_ok done
    exact same (client_appointments client).2.2
  | mark asked checked passed allowed known found unbilled => exact same rfl
  | complete asked checked passed allowed completed found pending billed =>
    obtain ⟨sale, drawers, -, -, rfl⟩ := Invoice.checkoutStatements_eq_ok billed
    exact same rfl
  | addService allowed duration nonneg =>
    intro r member
    rcases Table.mem_insert.mp member with old | rfl
    · exact holds r old
    · exact duration
  | updateService allowed duration nonneg =>
    intro r member
    obtain ⟨old, oldMember, rfl⟩ := Table.mem_modify.mp member
    split
    · exact duration
    · exact holds old oldMember
  | addProduct allowed asked => exact same rfl
  | updateStock allowed => exact same rfl
  | checkout asked checked passed allowed method items done =>
    obtain ⟨sale, drawers, -, -, rfl⟩ := Invoice.checkoutStatements_eq_ok done
    exact same rfl
  | expense asked passed allowed positive done =>
    obtain ⟨loggedBy, drawers, -, -, rfl⟩ := Expense.createStatements_eq_ok done
    exact same rfl
  | viewDrawer allowed =>
    obtain ⟨drawers, viewed⟩ := Reconciliation.getTodayStatus_frame e.clock db
    rw [viewed]
    exact same rfl
  | closeDrawer passed allowed =>
    obtain ⟨drawers, closed⟩ := Reconciliation.closeDrawer_frame e.clock _ _ _ db
    rw [closeOf, closed]
    exact same rfl

theorem services_take_time (php : Platform) (hash : String → String) (clock : Clock)
    (events : List Event) : ServicesTakeTime (afterRun php hash clock events) :=
  afterRun_keeps servicesTakeTime_seed (fun _ _ _ _ served => served.servicesTakeTime) hash clock
    events

theorem duration_pos {k : SqlVal} (holds : ServicesTakeTime db)
    (known : Appointment.durationOf k db ≠ 0) : 0 < Appointment.durationOf k db := by
  obtain ⟨r, member, -, same, -⟩ := service_of_duration known
  rw [← same]
  exact holds r member

end Durations

section Slots

variable {php : Platform} {e : Event} {db mid : Db} {clientId : Nat} {a : Appointment}

theorem isTime_dateHis (ts : Int) : IsTime (dateHis ts) (ts % 86400).toNat :=
  ⟨by omega, dateHis_eq ts⟩

theorem IsTime.unique {text : String} {s t : Nat} (first : IsTime text s)
    (second : IsTime text t) : s = t :=
  clockText_injective (first.1.trans (by decide)) (second.1.trans (by decide))
    (first.2.symm.trans second.2)

/-- The row that a booking adds is a real slot exactly when its time is faithful. -/
theorem realSlot_iff {clientType : Val} (takesTime : 0 < Appointment.durationOf (arg e "service_id").key db)
    (services : mid.services = db.services)
    (booking : Appointment.Booked php e.clock mid (.int clientId) (arg e "staff_id")
      (arg e "service_id") (argOr e "date" (.str "")) (argOr e "time" (.str "")) clientType a) :
    RealSlot php e (Appointment.durationOf (arg e "service_id").key db) a ↔
      FaithfulTime php e db := by
  have duration : Appointment.durationOf (arg e "service_id").key mid =
      Appointment.durationOf (arg e "service_id").key db := by
    rw [Appointment.durationOf, services]
    rfl
  have ends := booking.ends
  rw [duration] at ends
  have stamped (ts : Int) (parses : php.strtotime e.clock.time (slotText e) = some ts) :
      Appointment.startTimestamp php e.clock (argOr e "date" (.str "")) (argOr e "time" (.str "")) =
        ts := by
    rw [slotText] at parses
    rw [Appointment.startTimestamp, parses]
    rfl
  constructor
  · rintro ⟨ts, parses, day, -, -, s, t, begun, ended, length⟩
    refine ⟨ts, parses, booking.day.symm.trans day, ?_⟩
    rw [booking.begins, stamped ts parses] at begun
    rw [ends, stamped ts parses] at ended
    have first := IsTime.unique (isTime_dateHis _) begun
    have last := IsTime.unique (isTime_dateHis _) ended
    omega
  · rintro ⟨ts, parses, day, within⟩
    have begun : IsTime a.startTime (ts % 86400).toNat := by
      rw [booking.begins, stamped ts parses]
      exact isTime_dateHis ts
    have ended : IsTime a.endTime
        ((ts + Appointment.durationOf (arg e "service_id").key db * 60) % 86400).toNat := by
      rw [ends, stamped ts parses]
      exact isTime_dateHis _
    refine ⟨ts, parses, booking.day.trans day, by rw [booking.begins, stamped ts parses], ?_, _, _,
      begun, ended, by omega⟩
    rw [begun.2, ended.2, clockText_lt_iff (by omega) (by omega)]
    omega

/-- A time that is not read is not faithful. -/
theorem parsed_of_faithful (faithful : FaithfulTime php e db) :
    php.strtotime e.clock.time (slotText e) ≠ none := by
  obtain ⟨ts, parses, -⟩ := faithful
  simp [parses]

/-- Only a booking that goes through has to be real. -/
theorem BookingOutcome.real_iff {response : Response} {after : Db}
    (outcome : BookingOutcome php e db response after) (holds : ServicesTakeTime db) :
    ((∀ a, after.appointments = db.appointments.insert a →
        RealSlot php e (Appointment.durationOf (arg e "service_id").key db) a) ∧
      (php.strtotime e.clock.time (slotText e) = none →
        response.status ≠ 200 ∧ after.appointments = db.appointments)) ↔
      (lacksFields e = false → OfferedTo php e db → FaithfulTime php e db) := by
  cases outcome with
  | incomplete lacks answer =>
    refine iff_of_true ⟨fun a same => absurd same.symm (Table.insert_ne_self _ _), fun _ => ?_⟩ ?_
    · exact ⟨by rw [answer]; decide, rfl⟩
    · intro given
      rw [lacks] at given
      cases given
  | @booked clientId mid a given client offered booking answer =>
    obtain ⟨appointments, -, services⟩ := client_appointments client
    have real := realSlot_iff (duration_pos holds offered.service) services booking
    rw [Db.setAppointments_appointments, appointments]
    constructor
    · rintro ⟨slots, -⟩ _ _
      exact real.mp (slots a rfl)
    · intro faithful
      have faithful := faithful given offered
      refine ⟨fun b same => ?_, fun unread => absurd unread (parsed_of_faithful faithful)⟩
      rw [← Table.insert_inj.mp same]
      exact real.mpr faithful
  | refused given client full answer =>
    obtain ⟨appointments, -, -⟩ := client_appointments client
    rw [appointments]
    refine iff_of_true ⟨fun a same => absurd same.symm (Table.insert_ne_self _ _), fun _ => ?_⟩ ?_
    · exact ⟨answer, rfl⟩
    · exact fun _ offered => absurd offered full

end Slots

/-- After every run, a booking request stores a real interval, or nothing when its time is
not read, exactly when the salon could not take it at all or its time is faithful. -/
theorem real_slots_iff (php : Platform) (hash : String → String) (clock : Clock)
    (events : List Event) (e : Event) :
    (AsksBooking e → BooksReal php e (afterRun php hash clock events)) ↔
      (AsksBooking e → lacksFields e = false → OfferedTo php e (afterRun php hash clock events) →
        FaithfulTime php e (afterRun php hash clock events)) := by
  refine forall_congr' fun asked => ?_
  rw [← (booking_outcome asked).real_iff (services_take_time php hash clock events)]
  exact ⟨fun ⟨real, rejects⟩ => ⟨real, rejects⟩, fun ⟨real, rejects⟩ => ⟨real, rejects⟩⟩

/-- A haircut at a time that is no time. -/
def bookLunchtime : Event := adminRequest "appointments" "POST"
  [("client_name", .str "Jane Roe"), ("staff_id", .int 2), ("service_id", .int 2),
    ("date", .str "2026-06-10"), ("time", .str "lunchtime")]

/-- The failed reading counts as the first second of 1970, and the booking is accepted. -/
theorem lunchtime_booked : ¬ ∀ events e, AsksBooking e →
    BooksReal recorded e (afterRun recorded (fun _ => adminHash) morning events) := by
  intro real
  have unread : recorded.strtotime bookLunchtime.clock.time (slotText bookLunchtime) = none := by
    decide +kernel
  have accepted : (serve recorded bookLunchtime morningDb).response.status = 200 := by
    decide +kernel
  exact ((real [] bookLunchtime (.inl (by decide))).rejects unread).1 accepted

end Saloon.Guarantees
