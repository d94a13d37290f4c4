import Saloon.Lib.Optimistic
import Saloon.Source.AvailabilitySwitch
import Saloon.Guarantees.Isolation

/-!
# The availability switch converges

The dashboard and the server, seen as a value that is shown before it is stored.
Nothing in the app numbers its requests: a load that was served before a toggle
was can be answered after it, and its answer stays.
-/
namespace Saloon.Guarantees

open Lib Lib.Optimistic Source

/-- The one staff row of this user. -/
structure OwnRow (userId : Nat) (r : Row Staff) (db : Db) : Prop where
  member : r ∈ db.staff.rows
  own : r.cols.userId = some userId
  unique : ∀ t ∈ db.staff.rows, t.cols.userId = some userId → t = r

/-- Whenever the middleware lets this token pass for a stylist, it is for this user. -/
def OwnToken (php : Platform) (userId : Nat) (token : String) : Prop :=
  ∀ clock payload, AuthMiddleware.check php clock (toggleCall token true).request.headers [.stylist] =
    .ok payload → (payload.field "id").key = .num userId

/-- `staff.status = 'available'`, in the row of this user. -/
def available (userId : Nat) (db : Db) : Bool :=
  db.staff.rows.any fun s => s.cols.userId = some userId && s.cols.status = "available"

/-- With nothing in flight, and something completed, the switch shows the row's status. -/
def SwitchConverged (userId : Nat) (s : StylistDashboard) : Prop :=
  s.app.inFlight = [] → s.completed = true → s.app.stylist.isAvailable = available userId s.db

/-- The dashboard of a stylist who has signed in, before its first request. -/
structure Opened (userId : Nat) (token : String) (s : StylistDashboard) : Prop where
  held : s.app.stylist.authToken = some token
  user : s.app.auth.userId = some (some (userId : Int))
  row : ∃ r, OwnRow userId r s.db
  idle : s.app.inFlight = []
  replies : s.replies = []
  fresh : s.completed = false

section Abstraction

/-! The dashboard as a link, and its events as moves. -/

def packetOf (call : Call) (reply : Option Reply) : Packet Bool :=
  match call.resume, reply with
  | .availability value, none => .write value
  | .availability value, some reply => if reply.succeeded then .applied else .refused value
  | .stylistStatus userId, some reply => .found (StylistProvider.ownStatus userId reply)
  | _, _ => .read

def linkOf (userId : Nat) (s : StylistDashboard) : Link Bool where
  shown := s.app.stylist.isAvailable
  stored := available userId s.db
  busy := s.app.stylist.isLoadingStatus
  underWay := List.zipWith packetOf s.app.inFlight s.replies
  completed := s.completed

/-- The server lets the request pass: a toggle with a token that is good at this moment. -/
def Admitted (php : Platform) (clock : Clock) (call : Call) : Bool :=
  match call.resume with
  | .availability _ =>
    (AuthMiddleware.check php clock call.request.headers [.stylist]).toOption.isSome
  | _ => true

def moveOf (php : Platform) (e : DashboardEvent) (s : StylistDashboard) : Optimistic.Move Bool :=
  match e with
  | .toggle value => .write value
  | .refresh => .read
  | .serve i clock _ => .serve i (s.app.inFlight[i]?.any (Admitted php clock))
  | .refuse i _ _ _ => .serve i false
  | .arrive i => .arrive i

end Abstraction

/-- The two requests of the dashboard. -/
inductive OwnCall (userId : Nat) (token : String) : Call → Prop
  | status : OwnCall userId token (statusCall (some userId))
  | toggle (value : Bool) : OwnCall userId token (toggleCall token value)

/-- What a run of the dashboard keeps. -/
structure Sound (userId : Nat) (token : String) (s : StylistDashboard) : Prop where
  held : s.app.stylist.authToken = some token
  user : s.app.auth.userId = some (some (userId : Int))
  row : ∃ r, OwnRow userId r s.db
  places : s.replies.length = s.app.inFlight.length
  calls : ∀ call ∈ s.app.inFlight, OwnCall userId token call

section Row

variable {userId : Nat} {r : Row Staff} {db : Db}

theorem available_of_ownRow (row : OwnRow userId r db) :
    available userId db = decide (r.cols.status = "available") := by
  rw [available, Bool.eq_iff_iff, List.any_eq_true, decide_eq_true_eq]
  constructor
  · rintro ⟨t, member, both⟩
    obtain ⟨own, status⟩ : t.cols.userId = some userId ∧ t.cols.status = "available" := by
      simpa using both
    rwa [row.unique t member own] at status
  · exact fun status => ⟨r, row.member, by simp [row.own, status]⟩

/-- The toggle's one statement writes the status of the own row. -/
theorem ownRow_updateStatus {userVal : Val} (key : userVal.key = .num userId)
    (row : OwnRow userId r db) (status : Val) :
    OwnRow userId { r with cols := Staff.setStatus status.strval r.cols }
      (Staff.updateStatus status userVal db).2 := by
  have staff : (Staff.updateStatus status userVal db).2.staff =
      db.staff.modify (hasUserId (.num userId)) (Staff.setStatus status.strval) := by
    rw [← key]
    rfl
  refine ⟨?_, row.own, fun t member own => ?_⟩
  · rw [staff]
    exact Table.mem_modify.mpr ⟨r, row.member, by rw [if_pos (hasUserId_num.mpr row.own)]⟩
  · rw [staff] at member
    obtain ⟨old, oldMember, rfl⟩ := Table.mem_modify.mp member
    split
    · rename_i hit
      rw [row.unique old oldMember (hasUserId_num.mp hit)]
    · rename_i miss
      rw [if_neg miss] at own
      exact absurd (hasUserId_num.mpr own) miss

end Row

section Served

/-! What the server does for the two requests of the dashboard. -/

variable {php : Platform} {userId : Nat} {token : String} {r : Row Staff} {db : Db}
  {clock : Clock} {salt : Nat}

theorem asks_toggleCall (clock : Clock) (salt : Nat) (token : String) (value : Bool) :
    Asks ⟨clock, salt, (toggleCall token value).request⟩ "staff_update_status" ["POST"] :=
  ⟨rfl, List.mem_singleton_self _⟩

/-- An answer with an error takes a toggle back, and brings nothing to a load. -/
theorem packetOf_toggleCall_error {reply : Reply} (error : reply.found = none) (value : Bool) :
    packetOf (toggleCall token value) (some reply) = .refused value := by
  have failed : reply.succeeded = false := by rw [Reply.succeeded, error]
  simp [packetOf, toggleCall, failed]

theorem packetOf_statusCall_error {reply : Reply} (error : reply.found = none) :
    packetOf (statusCall (some userId)) (some reply) = .found none := by
  simp [packetOf, statusCall, StylistProvider.ownStatus, error]

theorem found_reply_of_error {response : Response} (error : response.status ≠ 200) :
    response.reply.found = none := if_neg error

/-- A load brings the status of the own row. -/
theorem serve_statusCall (php : Platform) (clock : Clock) (salt : Nat) (row : OwnRow userId r db) :
    let outcome := serve php ⟨clock, salt, (statusCall (some userId)).request⟩ db
    packetOf (statusCall (some userId)) (some outcome.response.reply) =
        .found (some (available userId db)) ∧
      outcome.db = db := by
  obtain ⟨response, same⟩ := @serve_publicStaff php
    ⟨clock, salt, (statusCall (some userId)).request⟩ db ⟨rfl, List.mem_singleton_self _⟩ rfl
  refine ⟨?_, same⟩
  rw [response, available_of_ownRow row]
  exact congrArg Packet.found (ownStatus_getAll row.member row.own row.unique)

theorem availabilityOf_toggleCall (clock : Clock) (salt : Nat) (token : String) (value : Bool) :
    availabilityOf ⟨clock, salt, (toggleCall token value).request⟩ =
      .str (if value then "available" else "off") := rfl

/-- A toggle with a good token is applied, and its answer says so. -/
theorem serve_toggleCall {payload : Val} (value : Bool) (row : OwnRow userId r db)
    (passed : Passes php ⟨clock, salt, (toggleCall token value).request⟩ [.stylist] payload)
    (key : (payload.field "id").key = .num userId) :
    let outcome := serve php ⟨clock, salt, (toggleCall token value).request⟩ db
    packetOf (toggleCall token value) (some outcome.response.reply) = .applied ∧
      available userId outcome.db = value ∧ ∃ r', OwnRow userId r' outcome.db := by
  have asked := asks_toggleCall clock salt token value
  have known : (availabilityOf ⟨clock, salt, (toggleCall token value).request⟩).inArray
      ["available", "off"] = true := by
    rw [availabilityOf_toggleCall]
    cases value <;> decide
  have after := ownRow_updateStatus key row (.str (if value then "available" else "off"))
  rw [← availabilityOf_toggleCall clock salt token,
    ← serve_availability asked passed known] at after
  refine ⟨?_, ?_, _, after⟩
  · rw [availability_answered asked passed known]
    rfl
  · rw [available_of_ownRow after, availabilityOf_toggleCall]
    cases value <;> rfl

theorem admitted_iff (value : Bool) :
    Admitted php clock (toggleCall token value) = true ↔
      ∃ payload, Passes php ⟨clock, salt, (toggleCall token value).request⟩ [.stylist] payload := by
  constructor
  · exact fun admitted =>
      exists_passes (e := ⟨clock, salt, (toggleCall token value).request⟩) admitted
  · rintro ⟨payload, passed⟩
    exact congrArg (fun ruling => ruling.toOption.isSome) passed

/-- Without one it is not, and its answer says that. -/
theorem refuse_toggleCall (db : Db) (salt : Nat) (value : Bool)
    (refused : Admitted php clock (toggleCall token value) = false) :
    let outcome := serve php ⟨clock, salt, (toggleCall token value).request⟩ db
    packetOf (toggleCall token value) (some outcome.response.reply) = .refused value ∧
      outcome.db = db := by
  have none (payload : Val) :
      ¬ Passes php ⟨clock, salt, (toggleCall token value).request⟩ [.stylist] payload := fun passed =>
    Bool.eq_false_iff.mp refused ((admitted_iff value).mpr ⟨payload, passed⟩)
  obtain ⟨error, same⟩ := @availability_refused php
    ⟨clock, salt, (toggleCall token value).request⟩ db (asks_toggleCall clock salt token value) none
  exact ⟨packetOf_toggleCall_error (found_reply_of_error error) value, same⟩

end Served

section Steps

/-! Each event of a sound dashboard is seen as its move. -/

variable {php : Platform} {userId : Nat} {token : String} {s : StylistDashboard}

/-- What is under way at a place: the call there, with its reply. -/
theorem underWay_place (userId : Nat) {i : Nat} {call : Call} {reply : Option Reply}
    (sent : s.app.inFlight[i]? = some call) (place : s.replies[i]? = some reply) :
    (linkOf userId s).underWay[i]? = some (packetOf call reply) := by
  simp [linkOf, List.getElem?_zipWith, sent, place]

theorem underWay_absent {i : Nat} (absent : s.replies[i]? = none) :
    (linkOf userId s).underWay[i]? = none := by
  cases sent : s.app.inFlight[i]? <;> simp [linkOf, List.getElem?_zipWith, sent, absent]

theorem Sound.place (sound : Sound userId token s) {i : Nat} {reply : Option Reply}
    (place : s.replies[i]? = some reply) :
    ∃ call, s.app.inFlight[i]? = some call ∧ OwnCall userId token call ∧
      (linkOf userId s).underWay[i]? = some (packetOf call reply) := by
  obtain ⟨bound, -⟩ := List.getElem?_eq_some_iff.mp place
  have sent := List.getElem?_eq_getElem (sound.places ▸ bound)
  exact ⟨_, sent, sound.calls _ (List.mem_of_getElem? sent), underWay_place userId sent place⟩

/-- A call that was just sent goes to the end. -/
theorem linkOf_sent (places : s.replies.length = s.app.inFlight.length)
    (f : StylistProvider → StylistProvider) (call : Call) :
    linkOf userId { s with
      app := (s.app.withStylist f).send call
      replies := s.replies ++ [none] } =
      { linkOf userId s with
        shown := (f s.app.stylist).isAvailable
        busy := (f s.app.stylist).isLoadingStatus
        underWay := (linkOf userId s).underWay ++ [packetOf call none] } := by
  have zip : List.zipWith packetOf (s.app.inFlight ++ [call]) (s.replies ++ [none]) =
      List.zipWith packetOf s.app.inFlight s.replies ++ [packetOf call none] :=
    List.zipWith_append places.symm
  exact congrArg (fun underWay => Link.mk _ _ _ underWay _) zip

theorem sound_sent (sound : Sound userId token s) (f : StylistProvider → StylistProvider)
    (kept : (f s.app.stylist).authToken = s.app.stylist.authToken) {call : Call}
    (own : OwnCall userId token call) :
    Sound userId token { s with
      app := (s.app.withStylist f).send call
      replies := s.replies ++ [none] } := by
  refine ⟨kept.trans sound.held, sound.user, sound.row, ?_, fun other member => ?_⟩
  · show (s.replies ++ [none]).length = (s.app.inFlight ++ [call]).length
    rw [List.length_append, List.length_append, sound.places]
    rfl
  · rcases List.mem_append.mp member with old | new
    · exact sound.calls other old
    · rw [List.mem_singleton.mp new]
      exact own

theorem step_toggle (sound : Sound userId token s) (value : Bool) :
    Sound userId token (s.onChanged value) ∧
      linkOf userId (s.onChanged value) = write value (linkOf userId s) := by
  cases busy : s.app.stylist.isLoadingStatus with
  | true =>
    have disabled : s.onChanged value = s := if_pos busy
    rw [disabled]
    exact ⟨sound, (if_pos busy).symm⟩
  | false =>
    rw [StylistDashboard.onChanged_free sound.held busy]
    refine ⟨sound_sent sound _ rfl (.toggle value), ?_⟩
    rw [linkOf_sent sound.places, write]
    have free : ¬ (linkOf userId s).busy = true := by simp [linkOf, busy]
    rw [if_neg free]
    rfl

theorem step_refresh (sound : Sound userId token s) :
    Sound userId token s.refresh ∧ linkOf userId s.refresh = read (linkOf userId s) := by
  rw [StylistDashboard.refresh_eq sound.held sound.user]
  refine ⟨sound_sent sound _ rfl .status, ?_⟩
  rw [linkOf_sent sound.places]
  rfl

/-- The server's reply stands at the place of the request. -/
theorem linkOf_replied {i : Nat} {call : Call} (sent : s.app.inFlight[i]? = some call)
    (reply : Reply) (db : Db) :
    linkOf userId { s with replies := s.replies.set i (some reply), db } =
      { linkOf userId s with
        stored := available userId db
        underWay := (linkOf userId s).underWay.set i (packetOf call (some reply)) } :=
  congrArg (fun underWay => Link.mk _ _ _ underWay _) (zipWith_set packetOf s.replies sent)

theorem sound_replied (sound : Sound userId token s) {i : Nat} {reply : Reply} {db : Db}
    (row : ∃ r, OwnRow userId r db) :
    Sound userId token { s with replies := s.replies.set i (some reply), db } :=
  ⟨sound.held, sound.user, row, (List.length_set).trans sound.places, sound.calls⟩

/-- What a reply leaves of the switch, once it has arrived. -/
theorem resume_own {call : Call} (own : OwnCall userId token call) (reply : Reply)
    (app : MobileApp) :
    ∃ shown, (packetOf call (some reply)).leaves not app.stylist.isAvailable = some shown ∧
      app.resume call reply =
        app.withStylist fun p => { p with isAvailable := shown, isLoadingStatus := false } := by
  cases own with
  | status => exact ⟨_, rfl, rfl⟩
  | toggle value =>
    have resumed : app.resume (toggleCall token value) reply =
        app.withStylist (.availabilityAnswered value reply) := rfl
    cases succeeded : reply.succeeded with
    | true =>
      refine ⟨app.stylist.isAvailable, by simp [packetOf, toggleCall, succeeded, Packet.leaves], ?_⟩
      rw [resumed]
      simp [MobileApp.withStylist, StylistProvider.availabilityAnswered, succeeded]
    | false =>
      refine ⟨!value, by simp [packetOf, toggleCall, succeeded, Packet.leaves], ?_⟩
      rw [resumed]
      simp [MobileApp.withStylist, StylistProvider.availabilityAnswered, succeeded]

/-- Where no request waits, the server does nothing. -/
theorem serve_not_waiting (sound : Sound userId token s) {i : Nat} (idle : s.waiting i = none)
    (ok : Bool) : Optimistic.serve i ok (linkOf userId s) = linkOf userId s := by
  cases place : s.replies[i]? with
  | none => exact serve_absent ok (underWay_absent place)
  | some reply =>
    obtain ⟨call, sent, own, under⟩ := sound.place place
    cases reply with
    | none => simp [StylistDashboard.waiting, place, sent] at idle
    | some reply =>
      obtain ⟨shown, answer, -⟩ := resume_own own reply s.app
      exact serve_answered ok under answer

theorem place_of_waiting {i : Nat} {call : Call} (waits : s.waiting i = some call) :
    s.app.inFlight[i]? = some call ∧ s.replies[i]? = some none := by
  unfold StylistDashboard.waiting at waits
  split at waits
  · exact ⟨waits, ‹_›⟩
  · cases waits

theorem step_refuse (sound : Sound userId token s) (i statusCode : Nat) (body : Option Json)
    (error : statusCode ≠ 200) :
    Sound userId token (s.refuse i statusCode body) ∧
      linkOf userId (s.refuse i statusCode body) = Optimistic.serve i false (linkOf userId s) := by
  cases waits : s.waiting i with
  | none =>
    rw [StylistDashboard.refuse, waits, serve_not_waiting sound waits]
    exact ⟨sound, rfl⟩
  | some call =>
    obtain ⟨sent, place⟩ := place_of_waiting waits
    have under := underWay_place userId sent place
    have nothing : (Reply.response statusCode body).found = none := if_neg error
    simp only [StylistDashboard.refuse, waits]
    refine ⟨sound_replied sound sound.row, ?_⟩
    rw [linkOf_replied sent]
    cases sound.calls call (List.mem_of_getElem? sent) with
    | status =>
      rw [packetOf_statusCall_error nothing]
      simp only [Optimistic.serve, under]
      rfl
    | toggle value =>
      rw [packetOf_toggleCall_error nothing]
      simp only [Optimistic.serve, under]
      rfl

theorem step_serve (own : OwnToken php userId token) (sound : Sound userId token s) (i : Nat)
    (clock : Clock) (salt : Nat) :
    Sound userId token (s.serve php i clock salt) ∧
      linkOf userId (s.serve php i clock salt) =
        Optimistic.serve i (s.app.inFlight[i]?.any (Admitted php clock)) (linkOf userId s) := by
  cases waits : s.waiting i with
  | none =>
    rw [StylistDashboard.serve, waits, serve_not_waiting sound waits]
    exact ⟨sound, rfl⟩
  | some call =>
    obtain ⟨sent, place⟩ := place_of_waiting waits
    have under := underWay_place userId sent place
    obtain ⟨r, row⟩ := sound.row
    simp only [StylistDashboard.serve, waits]
    rw [linkOf_replied sent, sent]
    cases sound.calls call (List.mem_of_getElem? sent) with
    | status =>
      obtain ⟨answer, same⟩ := serve_statusCall php clock salt row
      rw [answer, same]
      refine ⟨sound_replied sound sound.row, ?_⟩
      simp only [Optimistic.serve, under]
      rfl
    | toggle value =>
      cases admitted : Admitted php clock (toggleCall token value) with
      | true =>
        obtain ⟨payload, passed⟩ := (admitted_iff value).mp admitted
        obtain ⟨answer, written, row⟩ := serve_toggleCall value row passed (own clock payload passed)
        refine ⟨sound_replied sound row, ?_⟩
        rw [answer, written]
        simp only [Optimistic.serve, under, Option.any_some, admitted]
        rfl
      | false =>
        obtain ⟨answer, same⟩ := refuse_toggleCall s.db salt value admitted
        rw [answer, same]
        refine ⟨sound_replied sound sound.row, ?_⟩
        simp only [Optimistic.serve, under, Option.any_some, admitted]
        rfl

/-- A request is no answer. -/
theorem leaves_request {call : Call} (own : OwnCall userId token call) (shown : Bool) :
    (packetOf call none).leaves not shown = none := by
  cases own <;> rfl

theorem step_arrive (sound : Sound userId token s) (i : Nat) :
    Sound userId token (s.arrive i) ∧
      linkOf userId (s.arrive i) = Optimistic.arrive not i (linkOf userId s) := by
  cases place : s.replies[i]? with
  | none =>
    rw [StylistDashboard.arrive, place, Optimistic.arrive, underWay_absent place]
    exact ⟨sound, rfl⟩
  | some reply =>
    obtain ⟨call, sent, own, under⟩ := sound.place place
    cases reply with
    | none =>
      rw [StylistDashboard.arrive, place, Optimistic.arrive, under, Option.bind_some,
        leaves_request own]
      exact ⟨sound, rfl⟩
    | some reply =>
      obtain ⟨shown, answer, resumed⟩ :=
        resume_own own reply { s.app with inFlight := s.app.inFlight.eraseIdx i }
      have arrived : s.app.arrive i reply =
          ({ s.app with inFlight := s.app.inFlight.eraseIdx i } : MobileApp).withStylist
            fun p => { p with isAvailable := shown, isLoadingStatus := false } := by
        rw [MobileApp.arrive, sent]
        exact resumed
      simp only [StylistDashboard.arrive, place, arrived]
      refine ⟨⟨sound.held, sound.user, sound.row, ?_, fun call member => ?_⟩, ?_⟩
      · show (s.replies.eraseIdx i).length = (s.app.inFlight.eraseIdx i).length
        rw [List.length_eraseIdx, List.length_eraseIdx, sound.places]
      · exact sound.calls call (List.mem_of_mem_eraseIdx member)
      · have leaves : (packetOf call (some reply)).leaves not (linkOf userId s).shown = some shown :=
          answer
        rw [Optimistic.arrive, under, Option.bind_some, leaves]
        exact congrArg (fun underWay => Link.mk _ _ _ underWay _)
          (zipWith_eraseIdx packetOf s.app.inFlight s.replies i)

/-- The dashboard is a link whose refused writes are undone by `not`. -/
theorem dashboard_simulates (own : OwnToken php userId token) :
    Simulates (StylistDashboard.step php) (Optimistic.step not) (linkOf userId) (moveOf php)
      (Sound userId token) := by
  have both (e : DashboardEvent) (s : StylistDashboard) (sound : Sound userId token s) :
      Sound userId token (s.step php e) ∧
        linkOf userId (s.step php e) = Optimistic.step not (moveOf php e s) (linkOf userId s) := by
    cases e with
    | toggle value => exact step_toggle sound value
    | refresh => exact step_refresh sound
    | serve i clock salt => exact step_serve own sound i clock salt
    | refuse i statusCode body error => exact step_refuse sound i statusCode body error
    | arrive i => exact step_arrive sound i
  exact ⟨fun e s sound => (both e s sound).1, fun e s sound => (both e s sound).2⟩

end Steps

/-- The steps that go wrong are not taken: while all else in flight are answers to applied
toggles, a toggle is applied when the switch still shows it, a load's answer brings the status
that the row has, a refusal puts that status back, and a load that fails finds it shown. -/
def DeliveredInTime (php : Platform) (userId : Nat) (e : DashboardEvent) (s : StylistDashboard) : Prop :=
  Fits not (moveOf php e s) (linkOf userId s)

/-- All that is still to arrive are answers to toggles that were applied. -/
def OnlyApplied (userId : Nat) (s : StylistDashboard) : Prop := Optimistic.Quiet (linkOf userId s)

/-- Requests are started when nothing is in flight; the first is a load that does not fail,
and a toggle changes what is shown. -/
def OneRequest (php : Platform) (userId : Nat) (e : DashboardEvent) (s : StylistDashboard) : Prop :=
  Optimistic.Orderly not (moveOf php e s) (linkOf userId s)

theorem Opened.sound {userId : Nat} {token : String} {s : StylistDashboard}
    (opened : Opened userId token s) : Sound userId token s where
  held := opened.held
  user := opened.user
  row := opened.row
  places := by
    rw [opened.replies, opened.idle]
    rfl
  calls call member := by simp [opened.idle] at member

theorem Opened.settled {userId : Nat} {token : String} {s : StylistDashboard}
    (opened : Opened userId token s) : Settled (linkOf userId s) := by
  rintro - (completed | under)
  · exact absurd completed (by simp [linkOf, opened.fresh])
  · exact absurd (by simp [linkOf, opened.idle]) under

section Runs

variable {php : Platform} {userId : Nat} {token : String} {s : StylistDashboard}

theorem underWay_eq_nil_iff (sound : Sound userId token s) :
    (linkOf userId s).underWay = [] ↔ s.app.inFlight = [] := by
  have places := sound.places
  cases sent : s.app.inFlight with
  | nil => simp [linkOf, sent]
  | cons call calls =>
    cases replied : s.replies with
    | nil => simp [sent, replied] at places
    | cons reply replies => simp [linkOf, sent, replied]

theorem converged_iff (sound : Sound userId token s) :
    SwitchConverged userId s ↔ Converged (linkOf userId s) := by
  rw [SwitchConverged, Converged, underWay_eq_nil_iff sound]
  rfl

/-- The first reply arrives, time and again. -/
def arrivals (n : Nat) : List DashboardEvent := List.replicate n (.arrive 0)

theorem seen_arrivals (n : Nat) :
    seen (StylistDashboard.step php) (moveOf php) s (arrivals n) = deliveries n := by
  induction n generalizing s with
  | zero => rfl
  | succ n ih => rw [arrivals, List.replicate_succ, seen_cons, deliveries, List.replicate_succ,
      ← deliveries, ← ih, arrivals, moveOf]

/-- From a sound state, converging however the replies arrive is seen in the link. -/
theorem converges_arrivals_iff (own : OwnToken php userId token) (sound : Sound userId token s) :
    (OnlyApplied userId s →
        ∀ n, SwitchConverged userId (run (StylistDashboard.step php) s (arrivals n))) ↔
      (Optimistic.Quiet (linkOf userId s) →
        ∀ n, Converged (run (Optimistic.step not) (linkOf userId s) (deliveries n))) := by
  have sim := dashboard_simulates own
  refine imp_congr_right fun _ => forall_congr' fun n => ?_
  have later : Sound userId token (run (StylistDashboard.step php) s (arrivals n)) :=
    run_keeps sim.keeps sound _
  rw [converged_iff later, sim.run sound, seen_arrivals]

theorem deliveredInTime_iff (own : OwnToken php userId token) (sound : Sound userId token s)
    (events : List DashboardEvent) :
    Along (StylistDashboard.step php) (DeliveredInTime php userId) s events ↔
      Along (Optimistic.step not) (Fits not) (linkOf userId s)
        (seen (StylistDashboard.step php) (moveOf php) s events) :=
  (dashboard_simulates own).along sound (Fits not) events

/-- One request at a time is in time. -/
theorem deliveredInTime_of_oneRequest (own : OwnToken php userId token) (opened : Opened userId token s)
    {events : List DashboardEvent}
    (single : Along (StylistDashboard.step php) (OneRequest php userId) s events) :
    Along (StylistDashboard.step php) (DeliveredInTime php userId) s events := by
  have sim := dashboard_simulates own
  rw [deliveredInTime_iff own opened.sound]
  refine along_of_orderly ?_ ((sim.along opened.sound (Optimistic.Orderly not) events).mp single)
  have idle := (underWay_eq_nil_iff opened.sound).mpr opened.idle
  rw [InOrder, idle]
  exact fun completed => absurd completed (by simp [linkOf, opened.fresh])

end Runs

/-- For every run of the dashboard of a stylist who has signed in: when all is delivered in
time, the switch converges in every state; and it does so, however the answers to applied
toggles go on to arrive, only then. -/
theorem switch_converges_iff {php : Platform} {userId : Nat} {token : String}
    {s : StylistDashboard} (own : OwnToken php userId token) (opened : Opened userId token s)
    (events : List DashboardEvent) :
    (Along (StylistDashboard.step php) (DeliveredInTime php userId) s events →
      ∀ first, first <+: events →
        SwitchConverged userId (run (StylistDashboard.step php) s first)) ∧
    ((∀ first, first <+: events → OnlyApplied userId (run (StylistDashboard.step php) s first) →
        ∀ n, SwitchConverged userId (run (StylistDashboard.step php) s (first ++ arrivals n))) ↔
      Along (StylistDashboard.step php) (DeliveredInTime php userId) s events) := by
  have sim := dashboard_simulates own
  have sound (first : List DashboardEvent) :
      Sound userId token (run (StylistDashboard.step php) s first) :=
    run_keeps sim.keeps opened.sound first
  constructor
  · intro along first before
    rw [deliveredInTime_iff own opened.sound] at along
    rw [converged_iff (sound first)]
    exact (sim.always opened.sound Converged events).mpr
      (converged_of_along opened.settled along) first before
  · rw [deliveredInTime_iff own opened.sound, ← converges_iff_along opened.settled,
      ← sim.always opened.sound (fun t =>
        Optimistic.Quiet t → ∀ n, Converged (run (Optimistic.step not) t (deliveries n)))]
    refine forall₂_congr fun first _ => ?_
    simp only [run_append]
    exact converges_arrivals_iff own (sound first)

/-- The phone after a login of Emma that was answered with this token. -/
def emmasPhone (token : String) : MobileApp :=
  (MobileApp.start.login "emma" "emmapass").arrive 0 (.response 200 (some (.map
    [("success", .bool true), ("token", .str token),
      ("user", .map [("id", .int 3), ("name", .str "Emma Watson"), ("role", .str "stylist")])])))

def emmasDashboard (token : String) (db : Db) : StylistDashboard := ⟨emmasPhone token, [], db, false⟩

theorem emma_opened (token : String) {db : Db} (row : ∃ r, OwnRow 3 r db) :
    Opened 3 token (emmasDashboard token db) where
  held := rfl
  user := rfl
  row := row
  idle := rfl
  replies := rfl
  fresh := rfl

/-- The text of the token of that login. -/
def emmaToken : String := ofAscii (JWT.token recordedEmma emmaMessage)

theorem emma_ownToken : OwnToken recordedEmma 3 emmaToken := by
  intro clock payload passed
  obtain ⟨⟨token, ⟨scheme, split, -⟩, decoded⟩, present, -⟩ := AuthMiddleware.check_eq_ok passed
  obtain ⟨header, body, signature, parts, -, read, -⟩ := JWT.decode_eq decoded present
  have sent : ((toggleCall emmaToken true).request.headers.authHeader.splitOn space)[1]? =
      some (JWT.token recordedEmma emmaMessage) := by decide +kernel
  rw [split] at sent
  rw [show token = JWT.token recordedEmma emmaMessage from Option.some.inj sent] at parts
  have claims : ((JWT.token recordedEmma emmaMessage).splitOn dot)[1]?.map JWT.base64UrlDecode =
      some emmaJson := by decide +kernel
  rw [parts] at claims
  have text : JWT.base64UrlDecode body = emmaJson := Option.some.inj claims
  rw [text] at read
  rw [← read]
  decide +kernel

theorem emma_row : ∃ r, OwnRow 3 r morningDb := by
  have row : ∃ r ∈ morningDb.staff.rows, r.cols.userId = some 3 ∧
      ∀ t ∈ morningDb.staff.rows, t.cols.userId = some 3 → t = r := by decide +kernel
  obtain ⟨r, member, own, unique⟩ := row
  exact ⟨r, member, own, unique⟩

/-- Emma's status is loaded, and she goes off. -/
def emmaLoads : List DashboardEvent := [.refresh, .serve 0 morning 0, .arrive 0, .toggle false]

theorem emma_switch_converges :
    (Along (StylistDashboard.step recordedEmma) (DeliveredInTime recordedEmma 3)
        (emmasDashboard emmaToken morningDb) (emmaLoads ++ [.serve 0 morning 0, .arrive 0]) →
      ∀ first, first <+: emmaLoads ++ [.serve 0 morning 0, .arrive 0] →
        SwitchConverged 3 (run (StylistDashboard.step recordedEmma)
          (emmasDashboard emmaToken morningDb) first)) ∧
    ((∀ first, first <+: emmaLoads ++ [.serve 0 morning 0, .arrive 0] →
        OnlyApplied 3 (run (StylistDashboard.step recordedEmma)
          (emmasDashboard emmaToken morningDb) first) →
        ∀ n, SwitchConverged 3 (run (StylistDashboard.step recordedEmma)
          (emmasDashboard emmaToken morningDb) (first ++ arrivals n))) ↔
      Along (StylistDashboard.step recordedEmma) (DeliveredInTime recordedEmma 3)
        (emmasDashboard emmaToken morningDb) (emmaLoads ++ [.serve 0 morning 0, .arrive 0])) :=
  switch_converges_iff emma_ownToken (emma_opened emmaToken emma_row) _

/-- Before the answer she taps refresh. That load is served before her toggle and answered
after it: the switch says that she is available, and the server that she is off. -/
theorem stale_load_stays : ¬ ∀ (php : Platform) (userId : Nat) (token : String)
    (s : StylistDashboard) (events : List DashboardEvent), OwnToken php userId token →
    Opened userId token s → SwitchConverged userId (run (StylistDashboard.step php) s events) := by
  intro converges
  let events : List DashboardEvent := emmaLoads ++
    [.refresh, .serve 1 morning 0, .serve 0 morning 0, .arrive 0, .arrive 0]
  have converged := converges recordedEmma 3 emmaToken (emmasDashboard emmaToken morningDb) events
    emma_ownToken (emma_opened emmaToken emma_row)
  have ends : (fun t : StylistDashboard =>
      (t.app.inFlight.length, t.completed, t.app.stylist.isAvailable, available 3 t.db))
        (run (StylistDashboard.step recordedEmma) (emmasDashboard emmaToken morningDb) events) =
      (0, true, true, false) := by decide +kernel
  obtain ⟨idle, completed, shown, stored⟩ : _ ∧ _ ∧ _ ∧ _ := by simpa using ends
  have same := converged idle completed
  rw [shown, stored] at same
  cases same

end Saloon.Guarantees
