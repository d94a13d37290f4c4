import Mathlib.Order.Interval.Set.LinearOrder
import Saloon.Guarantees.BookingRequests

/-!
# The conflict check is exact

The conflict query compares times as texts. On rows whose times are zero-padded
it decides whether two half-open intervals of seconds meet, so a booking is
refused exactly when its stylist is taken at some moment of it.
-/
namespace Saloon.Guarantees

open Lib Source

/-- The times of the appointment are zero-padded, and it takes the seconds from `begins`
up to `ends`. -/
structure Spans (a : Appointment) (begins ends : Nat) : Prop where
  proper : begins < ends
  padded : ends < 360000
  start : a.startTime = clockText begins
  finish : a.endTime = clockText ends

/-- A moment from `begins` up to `ends` is taken by an appointment of that staff member on
that date which is not cancelled. -/
def Taken (db : Db) (staffId : Nat) (date : SqlVal) (begins ends : Nat) : Prop :=
  ∃ r ∈ db.appointments.rows, r.cols.staffId = some staffId ∧ r.cols.appointmentDate = date ∧
    r.cols.status ≠ "cancelled" ∧
    ∃ s t, Spans r.cols s t ∧ (Set.Ico s t ∩ Set.Ico begins ends).Nonempty

/-- The slot a booking proposes: a day with a four-digit year, counted from 1970-01-01,
and the seconds within it, for a client, a staff member and a service that exist. -/
structure Proposes (php : Platform) (clock : Clock) (db : Db)
    (clientId staffId serviceId date startTime : Val) (day : Int) (begins ends staff : Nat) :
    Prop where
  client : ∃ r ∈ db.clients.rows, clientId.key = .num r.id
  staff : ∃ r ∈ db.staff.rows, r.id = staff ∧ staffId.key = .num r.id
  service : ∃ r ∈ db.services.rows, serviceId.key = .num r.id ∧
    (ends : Int) = begins + r.cols.durationMins * 60
  canonical : date = .str (dateYmd (day * 86400))
  fourDigit : -719528 ≤ day ∧ day < 2932897
  parses : php.strtotime clock.time (date.strval ++ " " ++ startTime.strval) =
    some (day * 86400 + begins)
  proper : begins < ends
  sameDay : ends < 86400

section Rows

variable {r : Row Appointment} {s t begins ends : Nat}

theorem nonempty_inter_iff (stored : s < t) (proposed : begins < ends) :
    (Set.Ico s t ∩ Set.Ico begins ends).Nonempty ↔ begins < t ∧ s < ends := by
  rw [Set.Ico_inter_Ico, Set.nonempty_Ico, sup_lt_iff, lt_inf_iff, lt_inf_iff]
  exact ⟨fun ⟨⟨_, left⟩, right, _⟩ => ⟨right, left⟩,
    fun ⟨right, left⟩ => ⟨⟨stored, left⟩, right, proposed⟩⟩

/-- A row has one span. -/
theorem Spans.unique {a : Appointment} {s' t' : Nat} (first : Spans a s t)
    (second : Spans a s' t') : s = s' ∧ t = t' := by
  obtain ⟨proper, padded, start, finish⟩ := first
  obtain ⟨proper', padded', start', finish'⟩ := second
  exact ⟨clockText_injective (by omega) (by omega) (start.symm.trans start'),
    clockText_injective padded padded' (finish.symm.trans finish')⟩

/-- The query's comparison of texts is the intersection of the intervals. -/
theorem conflicts_iff_meets {staffId : Nat} {date : SqlVal} (spans : Spans r.cols s t)
    (proposed : begins < ends) (padded : ends < 360000) :
    Appointment.conflicts (.num staffId) date (clockText begins) (clockText ends) r = true ↔
      r.cols.staffId = some staffId ∧ r.cols.appointmentDate = date ∧ r.cols.status ≠ "cancelled" ∧
        (Set.Ico s t ∩ Set.Ico begins ends).Nonempty := by
  obtain ⟨proper, short, start, finish⟩ := spans
  have before : clockText begins < r.cols.endTime ↔ begins < t := by
    rw [finish]
    exact clockText_lt_iff (by omega) short
  have behind : r.cols.startTime < clockText ends ↔ s < ends := by
    rw [start]
    exact clockText_lt_iff (by omega) padded
  rw [nonempty_inter_iff proper proposed, ← before, ← behind, Appointment.conflicts]
  cases r.cols.staffId with
  | none => simp
  | some i =>
    simp only [Bool.and_eq_true, decide_eq_true_eq, SqlVal.num.injEq, Nat.cast_inj,
      Option.some.injEq, and_assoc]

end Rows

section Proposals

variable {php : Platform} {clock : Clock} {db : Db}
  {clientId staffId serviceId date startTime : Val} {day : Int} {begins ends staff : Nat}

/-- The times that the code writes for the proposed slot. -/
theorem Proposes.times
    (proposes : Proposes php clock db clientId staffId serviceId date startTime day begins ends staff) :
    Appointment.startTimestamp php clock date startTime = day * 86400 + begins ∧
      Appointment.durationOf serviceId.key db * 60 = ends - begins := by
  obtain ⟨v, member, key, length⟩ := proposes.service
  refine ⟨by rw [Appointment.startTimestamp, proposes.parses]; rfl, ?_⟩
  rw [Appointment.durationOf, lookup_eq_some.mpr ⟨member, key⟩]
  dsimp only
  omega

theorem dateHis_day (day : Int) {seconds : Nat} (within : seconds < 86400) :
    dateHis (day * 86400 + seconds) = clockText seconds := by
  have rest : ((day * 86400 + seconds) % 86400).toNat = seconds := by omega
  rw [dateHis_eq, rest]

/-- A proposed slot is refused for nothing but a conflict. -/
theorem Proposes.bookable_iff
    (proposes : Proposes php clock db clientId staffId serviceId date startTime day begins ends staff) :
    Bookable php clock db clientId staffId serviceId date startTime ↔
      ∀ r ∈ db.appointments.rows,
        ¬ Appointment.conflicts (.num staff) date.key (clockText begins) (clockText ends) r := by
  obtain ⟨timestamp, length⟩ := proposes.times
  have finish : day * 86400 + (begins : Int) + (ends - begins) = day * 86400 + ends := by ring
  obtain ⟨⟨c, cMember, cKey⟩, ⟨s, sMember, rfl, sKey⟩, ⟨v, vMember, vKey, -⟩, canonical, fourDigit,
    -, proper, sameDay⟩ := proposes
  have begin_text := dateHis_day day (proper.trans sameDay)
  have end_text := dateHis_day day sameDay
  constructor
  · intro bookable
    have free := bookable.free
    rwa [timestamp, length, finish, begin_text, end_text, sKey] at free
  · intro free
    refine ⟨⟨⟨some s.id, foreignKey_eq_some.mpr ⟨sKey, s, sMember, rfl⟩⟩, ?_, ?_, ?_, ?_⟩,
      ⟨some c.id, foreignKey_eq_some.mpr ⟨cKey, c, cMember, rfl⟩⟩⟩
    · intro zero
      rw [zero] at length
      omega
    · rw [canonical]
      exact fun null => by cases key_eq_null.mp null
    · rw [timestamp, length, finish, Appointment.isInt64, Bool.and_eq_true, decide_eq_true_eq,
        decide_eq_true_eq]
      omega
    · rwa [timestamp, length, finish, begin_text, end_text, sKey]

/-- The date text of the proposed day is stored as it is. -/
theorem Proposes.onDay
    (proposes : Proposes php clock db clientId staffId serviceId date startTime day begins ends staff) :
    date.key = .text (dateYmd (day * 86400)) := by
  rw [proposes.canonical]
  exact dateKey_dateYmd (by have := proposes.fourDigit; omega)

/-- No row conflicts exactly when no moment is taken. -/
theorem Proposes.free_iff
    (proposes : Proposes php clock db clientId staffId serviceId date startTime day begins ends staff)
    (padded : ∀ r ∈ db.appointments.rows, ∃ s t, Spans r.cols s t) :
    (∀ r ∈ db.appointments.rows,
      ¬ Appointment.conflicts (.num staff) date.key (clockText begins) (clockText ends) r) ↔
        ¬ Taken db staff (.text (dateYmd (day * 86400))) begins ends := by
  have short : ends < 360000 := proposes.sameDay.trans (by decide)
  rw [← proposes.onDay]
  constructor
  · rintro free ⟨r, member, own, same, live, s, t, spans, meets⟩
    exact free r member
      ((conflicts_iff_meets spans proposes.proper short).mpr ⟨own, same, live, meets⟩)
  · intro untaken r member conflict
    obtain ⟨s, t, spans⟩ := padded r member
    obtain ⟨own, same, live, meets⟩ :=
      (conflicts_iff_meets spans proposes.proper short).mp conflict
    exact untaken ⟨r, member, own, same, live, s, t, spans, meets⟩

/-- The row of a proposed slot is that slot. -/
theorem Proposes.booked {clientType : Val} {a : Appointment}
    (proposes : Proposes php clock db clientId staffId serviceId date startTime day begins ends staff)
    (booked : Appointment.Booked php clock db clientId staffId serviceId date startTime clientType a) :
    a.staffId = some staff ∧ a.appointmentDate = .text (dateYmd (day * 86400)) ∧
      Spans a begins ends := by
  obtain ⟨timestamp, length⟩ := proposes.times
  have finish : day * 86400 + (begins : Int) + (ends - begins) = day * 86400 + ends := by ring
  have sameDay := proposes.sameDay
  have proper := proposes.proper
  refine ⟨?_, booked.day.trans proposes.onDay, proper, sameDay.trans (by decide), ?_, ?_⟩
  · obtain ⟨s, member, rfl, key⟩ := proposes.staff
    have found : foreignKey db.staff staffId.key = some (some s.id) :=
      foreignKey_eq_some.mpr ⟨key, s, member, rfl⟩
    exact Option.some.inj (booked.staff.symm.trans found)
  · rw [booked.begins, timestamp, dateHis_day day (proper.trans sameDay)]
  · rw [booked.ends, timestamp, length, finish, dateHis_day day sameDay]

end Proposals

/-- On a table of zero-padded times, a booking of a slot within a day goes through exactly
when none of its moments is taken; it then adds the one row of that slot, upcoming, and
changes nothing else. -/
theorem conflict_check_exact {php : Platform} {clock : Clock} {db : Db}
    {clientId staffId serviceId date startTime : Val} {day : Int} {begins ends staff : Nat}
    (clientType : Val) (padded : ∀ r ∈ db.appointments.rows, ∃ s t, Spans r.cols s t)
    (proposes : Proposes php clock db clientId staffId serviceId date startTime day begins ends staff) :
    ((∃ appointmentId t, Appointment.create php clock clientId staffId serviceId date startTime
        clientType (.start db) = (.ok appointmentId, t)) ↔
      ¬ Taken db staff (.text (dateYmd (day * 86400))) begins ends) ∧
    ∀ appointmentId t, Appointment.create php clock clientId staffId serviceId date startTime
        clientType (.start db) = (.ok appointmentId, t) →
      ∃ a, t.close = db.setAppointments (db.appointments.insert a) ∧ a.status = "upcoming" ∧
        a.staffId = some staff ∧ a.appointmentDate = .text (dateYmd (day * 86400)) ∧
        Spans a begins ends := by
  constructor
  · rw [← proposes.free_iff padded, ← proposes.bookable_iff, ← created_iff_bookable clientType]
    constructor
    · rintro ⟨appointmentId, t, success⟩
      obtain ⟨after, created, -⟩ := (transaction_eq_ok rfl).mp success
      exact ⟨appointmentId, after, created⟩
    · rintro ⟨appointmentId, after, created⟩
      exact ⟨appointmentId, _, (transaction_eq_ok rfl).mpr ⟨after, created, rfl⟩⟩
  · intro appointmentId t success
    obtain ⟨after, created, rfl⟩ := (transaction_eq_ok rfl).mp success
    obtain ⟨a, booked, rfl⟩ := Appointment.createStatements_eq_ok created
    exact ⟨a, rfl, booked.status, proposes.booked booked⟩

theorem morning_padded : ∀ r ∈ morningDb.appointments.rows, ∃ s t, Spans r.cols s t := by
  intro r member
  rcases List.mem_cons.mp member with rfl | rest
  · exact ⟨36000, 46800, by decide, by decide, by decide, by decide⟩
  · rw [List.mem_singleton.mp rest]
    exact ⟨48600, 51300, by decide, by decide, by decide, by decide⟩

/-- A haircut with the second stylist at eleven, beside his appointment of half past one. -/
theorem eleven_proposed : Proposes recorded morning morningDb (.int 1) (.int 2) (.int 2)
    (.str "2026-06-10") (.str "11:00") 20614 39600 42300 2 where
  client := ⟨_, .head _, rfl⟩
  staff := ⟨_, .tail _ (.head _), rfl, rfl⟩
  service := ⟨_, .tail _ (.head _), rfl, by decide⟩
  canonical := by rw [show dateYmd (20614 * 86400) = "2026-06-10" by decide]
  fourDigit := by decide
  parses := by decide
  proper := by decide
  sameDay := by decide

theorem eleven_exact :
    ((∃ appointmentId t, Appointment.create recorded morning (.int 1) (.int 2) (.int 2)
        (.str "2026-06-10") (.str "11:00") (.str "pre-booked") (.start morningDb) =
          (.ok appointmentId, t)) ↔
      ¬ Taken morningDb 2 (.text (dateYmd (20614 * 86400))) 39600 42300) ∧
    ∀ appointmentId t, Appointment.create recorded morning (.int 1) (.int 2) (.int 2)
        (.str "2026-06-10") (.str "11:00") (.str "pre-booked") (.start morningDb) =
          (.ok appointmentId, t) →
      ∃ a, t.close = morningDb.setAppointments (morningDb.appointments.insert a) ∧
        a.status = "upcoming" ∧ a.staffId = some 2 ∧
        a.appointmentDate = .text (dateYmd (20614 * 86400)) ∧ Spans a 39600 42300 :=
  conflict_check_exact (.str "pre-booked") morning_padded eleven_proposed

end Saloon.Guarantees
