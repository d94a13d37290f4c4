import Saloon.Lib.Sessions
import Saloon.Source.MobileApp

/-!
# Sessions of the mobile app

The providers are emptied when the token goes, and at no other time; a load
checks the token before its request and not when the response is there. What
the fields hold is the user's own as long as every response that brings
something comes in the session that asked for it.
-/
namespace Saloon.Guarantees

open Lib Source

/-- Without a user the fields are empty; with a user logged in under a token, what the
queue, the wallet, the dashboard and the expenses hold was fetched with that token. -/
structure SessionIsolated (s : MobileApp) : Prop where
  loggedOut : s.auth.token = none →
    s.stylist.queue.value = [] ∧ s.stylist.walletData.value = none ∧
      s.manager.dashboardData.value = none ∧ s.manager.expenses.value = [] ∧
      s.manager.staffList.value = []
  loggedIn : ∀ token, s.auth.token = some token →
    (s.stylist.queue.value ≠ [] → s.stylist.queue.bearer = some token) ∧
      (s.stylist.walletData.value ≠ none → s.stylist.walletData.bearer = some token) ∧
      (s.manager.dashboardData.value ≠ none → s.manager.dashboardData.bearer = some token) ∧
      (s.manager.expenses.value ≠ [] → s.manager.expenses.bearer = some token)

inductive MobileField where
  | queue
  | wallet
  | dashboard
  | expenses
  | staffList
  deriving DecidableEq

/-- The staff list is the same for whoever is logged in. -/
def MobileField.Own (field : MobileField) : Prop := field ≠ .staffList

section Abstraction

variable {α : Type} {isEmpty : α → Bool} {f : Fetched α} {s t : MobileApp}

/-- The token that a field was filled with, unless it is empty. -/
def held (isEmpty : α → Bool) (f : Fetched α) : Option (Option String) :=
  if isEmpty f.value then none else some f.bearer

/-- The app as a cache: its fields by the token they were filled with. -/
def cacheOf (s : MobileApp) : Cache MobileField String where
  session := s.auth.token
  held
    | .queue => held List.isEmpty s.stylist.queue
    | .wallet => held Option.isNone s.stylist.walletData
    | .dashboard => held Option.isNone s.manager.dashboardData
    | .expenses => held List.isEmpty s.manager.expenses
    | .staffList => held List.isEmpty s.manager.staffList

theorem held_list {f : Fetched (List Json)} : held List.isEmpty f = none ↔ f.value = [] := by
  simp [held]

theorem held_map {f : Fetched (Option JsonMap)} : held Option.isNone f = none ↔ f.value = none := by
  simp [held]

/-- A field that holds something holds it under its request's token. -/
theorem held_of_ne_none (some : held isEmpty f ≠ none) : held isEmpty f = .some f.bearer := by
  unfold held at some ⊢
  split
  · rename_i empty
    exact absurd (if_pos empty) some
  · rfl

theorem bearer_of_held {origin : Option String} (filled : held isEmpty f = some origin) :
    f.bearer = origin := by
  have present : held isEmpty f ≠ none := by simp [filled]
  exact Option.some.inj ((held_of_ne_none present).symm.trans filled)

/-- The app keeps its sessions apart exactly as the cache does. -/
theorem sessionIsolated_iff : SessionIsolated s ↔ (cacheOf s).Isolated MobileField.Own := by
  constructor
  · intro isolated
    refine ⟨fun loggedOut field => ?_, fun token loggedIn field mine origin filled => ?_⟩
    · obtain ⟨queue, wallet, dashboard, expenses, staffList⟩ := isolated.loggedOut loggedOut
      cases field with
      | queue => exact held_list.mpr queue
      | wallet => exact held_map.mpr wallet
      | dashboard => exact held_map.mpr dashboard
      | expenses => exact held_list.mpr expenses
      | staffList => exact held_list.mpr staffList
    · have some : (cacheOf s).held field ≠ none := by simp [filled]
      obtain ⟨queue, wallet, dashboard, expenses⟩ := isolated.loggedIn token loggedIn
      cases field with
      | queue => exact (bearer_of_held filled).symm.trans (queue (mt held_list.mpr some))
      | wallet => exact (bearer_of_held filled).symm.trans (wallet (mt held_map.mpr some))
      | dashboard => exact (bearer_of_held filled).symm.trans (dashboard (mt held_map.mpr some))
      | expenses => exact (bearer_of_held filled).symm.trans (expenses (mt held_list.mpr some))
      | staffList => exact absurd rfl mine
  · intro isolated
    refine ⟨fun loggedOut => ?_, fun token loggedIn => ?_⟩
    · have empty := isolated.outside loggedOut
      exact ⟨held_list.mp (empty .queue), held_map.mp (empty .wallet),
        held_map.mp (empty .dashboard), held_list.mp (empty .expenses),
        held_list.mp (empty .staffList)⟩
    · have own : ∀ field : MobileField, field ≠ .staffList → ∀ origin,
          (cacheOf s).held field = some origin → origin = some token :=
        isolated.inside token loggedIn
      exact ⟨fun some => own .queue (by simp) _ (held_of_ne_none (mt held_list.mp some)),
        fun some => own .wallet (by simp) _ (held_of_ne_none (mt held_map.mp some)),
        fun some => own .dashboard (by simp) _ (held_of_ne_none (mt held_map.mp some)),
        fun some => own .expenses (by simp) _ (held_of_ne_none (mt held_list.mp some))⟩

/-- What the assignment of a decoded body does to the cache. -/
def assigned (isEmpty : α → Bool) (field : MobileField) (bearer : Option String) :
    Option α → Cache.Change MobileField String
  | none => .keep
  | some value => if isEmpty value then .clear field else .fill field bearer

/-- What a response does to the cache. -/
def answered (call : Call) (reply : Reply) : Cache.Change MobileField String :=
  match call.resume with
  | .login =>
    match reply.granted with
    | none => .keep
    | some token => .enter token
  | .queue _ => assigned List.isEmpty .queue call.bearer (reply.found.bind Json.toList)
  | .wallet => assigned Option.isNone .wallet call.bearer (reply.found.bind Json.toNullableMap)
  | .metrics =>
    assigned Option.isNone .dashboard call.bearer (reply.found.bind Json.toNullableMap)
  | .expenses _ => assigned List.isEmpty .expenses call.bearer (reply.found.bind Json.toList)
  | .staff => assigned List.isEmpty .staffList call.bearer (reply.found.bind Json.toList)
  | _ => .keep

def changeOf (e : MobileEvent) (s : MobileApp) : Cache.Change MobileField String :=
  match e with
  | .call _ => .keep
  | .logout => .enter none
  | .arrive i reply =>
    match s.inFlight[i]? with
    | none => .keep
    | some call => answered call reply

theorem apply_assigned (field : MobileField) (bearer : Option String) (value : Option α)
    {c : Cache MobileField String} (here : c.held field = held isEmpty f) :
    c.apply (assigned isEmpty field bearer value) =
      ⟨c.session, Function.update c.held field (held isEmpty (f.assign value bearer))⟩ := by
  cases value with
  | none =>
    simp only [assigned, Cache.apply, Fetched.assign, ← here]
    rw [Function.update_eq_self]
  | some v =>
    by_cases empty : isEmpty v = true <;>
      simp [assigned, Cache.apply, Fetched.assign, held, empty]

theorem cacheOf_flagged (flagged : s.Flagged t) : cacheOf t = cacheOf s := by
  simp only [cacheOf, flagged.token, flagged.queue, flagged.walletData, flagged.dashboardData,
    flagged.expenses, flagged.staffList]

theorem cacheOf_sends (sends : s.Sends t) : cacheOf t = cacheOf s := by
  cases sends with
  | nothing => rfl
  | @request t call flagged _ =>
    show cacheOf t = cacheOf s
    exact cacheOf_flagged flagged

/-- `updateAuth` of both providers. -/
theorem cacheOf_setAuth (synced : s.Synced) (auth : AuthProvider) :
    cacheOf (s.setAuth auth) = (cacheOf s).enter auth.token := by
  simp only [cacheOf, MobileApp.setAuth, StylistProvider.updateAuth, ManagerProvider.updateAuth,
    synced.stylist, synced.manager]
  cases token : auth.token with
  | none =>
    cases current : s.auth.token with
    | none => rfl
    | some old => exact Cache.ext rfl (funext fun k => by cases k <;> rfl)
  | some new =>
    by_cases same : s.auth.token = some new <;> simp [same, Cache.enter]

theorem cacheOf_answer (synced : s.Synced) (call : Call) (reply : Reply) :
    cacheOf (s.answer call reply) = (cacheOf s).apply (answered call reply) := by
  unfold MobileApp.answer answered
  cases call.resume with
  | login =>
    dsimp only
    rw [cacheOf_setAuth synced, AuthProvider.token_answered]
    cases reply.granted with
    | none => exact Cache.enter_session (cacheOf s)
    | some token => rfl
  | queue _ =>
    dsimp only
    rw [apply_assigned .queue _ _ rfl]
    exact Cache.ext rfl (funext fun k => by cases k <;> rfl)
  | wallet =>
    dsimp only
    rw [apply_assigned .wallet _ _ rfl]
    exact Cache.ext rfl (funext fun k => by cases k <;> rfl)
  | staff =>
    dsimp only
    rw [apply_assigned .staffList _ _ rfl]
    exact Cache.ext rfl (funext fun k => by cases k <;> rfl)
  | metrics =>
    dsimp only
    rw [apply_assigned .dashboard _ _ rfl]
    exact Cache.ext rfl (funext fun k => by cases k <;> rfl)
  | expenses _ =>
    dsimp only
    rw [apply_assigned .expenses _ _ rfl]
    exact Cache.ext rfl (funext fun k => by cases k <;> rfl)
  | _ => rfl

/-- The app simulates the cache. -/
theorem cacheOf_step (e : MobileEvent) (s : MobileApp) (synced : s.Synced) :
    cacheOf (s.step e) = (cacheOf s).apply (changeOf e s) := by
  cases e with
  | call m => exact cacheOf_sends (MobileApp.sends_call synced m)
  | logout => exact cacheOf_setAuth synced _
  | arrive i reply =>
    simp only [MobileApp.step, MobileApp.arrive, changeOf]
    cases s.inFlight[i]? with
    | none => rfl
    | some call =>
      have rest : ({ s with inFlight := s.inFlight.eraseIdx i } : MobileApp).Synced :=
        ⟨synced.stylist, synced.manager⟩
      exact (cacheOf_sends (MobileApp.sends_resume rest call reply)).trans
        (cacheOf_answer rest call reply)

end Abstraction

section Timing

variable {α : Type} {isEmpty : α → Bool} {s : MobileApp}

/-- The field, when the decoded body has something to fill it with. -/
def brought (isEmpty : α → Bool) (field : MobileField) : Option α → Option MobileField
  | none => none
  | some value => if isEmpty value then none else some field

/-- The field that a response fills with something. -/
def filled (call : Call) (reply : Reply) : Option MobileField :=
  match call.resume with
  | .queue _ => brought List.isEmpty .queue (reply.found.bind Json.toList)
  | .wallet => brought Option.isNone .wallet (reply.found.bind Json.toNullableMap)
  | .metrics => brought Option.isNone .dashboard (reply.found.bind Json.toNullableMap)
  | .expenses _ => brought List.isEmpty .expenses (reply.found.bind Json.toList)
  | .staff => brought List.isEmpty .staffList (reply.found.bind Json.toList)
  | _ => none

def OwnFieldsEmpty (s : MobileApp) : Prop :=
  s.stylist.queue.value = [] ∧ s.stylist.walletData.value = none ∧
    s.manager.dashboardData.value = none ∧ s.manager.expenses.value = []

/-- A response that fills a field comes while a user is logged in, and, but for the staff
list, under the token that asked for it; the login of another user comes when nothing of
a user's own is held. -/
def OnTime (e : MobileEvent) (s : MobileApp) : Prop :=
  ∀ i reply call, e = .arrive i reply → s.inFlight[i]? = some call →
    (∀ field, filled call reply = some field →
      s.auth.token ≠ none ∧ (field ≠ .staffList → call.bearer = s.auth.token)) ∧
    (call.resume = .login → ∀ token, reply.granted = some (some token) →
      s.auth.token = some token ∨ OwnFieldsEmpty s)

theorem ownFieldsEmpty_iff :
    OwnFieldsEmpty s ↔ ∀ field, MobileField.Own field → (cacheOf s).held field = none := by
  constructor
  · rintro ⟨queue, wallet, dashboard, expenses⟩ field own
    cases field with
    | queue => exact held_list.mpr queue
    | wallet => exact held_map.mpr wallet
    | dashboard => exact held_map.mpr dashboard
    | expenses => exact held_list.mpr expenses
    | staffList => exact absurd rfl own
  · intro empty
    have own : ∀ field : MobileField, field ≠ .staffList → (cacheOf s).held field = none := empty
    exact ⟨held_list.mp (own .queue (by simp)), held_map.mp (own .wallet (by simp)),
      held_map.mp (own .dashboard (by simp)), held_list.mp (own .expenses (by simp))⟩

theorem inTime_assigned (field : MobileField) (bearer : Option String) (value : Option α) :
    (cacheOf s).InTime MobileField.Own (assigned isEmpty field bearer value) ↔
      ∀ k, brought isEmpty field value = some k →
        s.auth.token ≠ none ∧ (k ≠ .staffList → bearer = s.auth.token) := by
  cases value with
  | none => simp [assigned, brought, Cache.InTime]
  | some v =>
    by_cases empty : isEmpty v = true
    · simp [assigned, brought, Cache.InTime, empty]
    · simp [assigned, brought, Cache.InTime, empty, cacheOf, MobileField.Own]

theorem inTime_answered (call : Call) (reply : Reply) :
    (cacheOf s).InTime MobileField.Own (answered call reply) ↔
      (∀ field, filled call reply = some field →
        s.auth.token ≠ none ∧ (field ≠ .staffList → call.bearer = s.auth.token)) ∧
      (call.resume = .login → ∀ token, reply.granted = some (some token) →
        s.auth.token = some token ∨ OwnFieldsEmpty s) := by
  obtain ⟨action, bearer, body, resume⟩ := call
  cases resume with
  | login =>
    simp only [answered, filled]
    rcases reply.granted with none | none | token
    · simp [Cache.InTime]
    · simp [Cache.InTime]
    · simp [Cache.InTime, ownFieldsEmpty_iff, cacheOf, eq_comm]
  | queue _ => simpa [answered, filled] using inTime_assigned ..
  | wallet => simpa [answered, filled] using inTime_assigned ..
  | metrics => simpa [answered, filled] using inTime_assigned ..
  | expenses _ => simpa [answered, filled] using inTime_assigned ..
  | staff => simpa [answered, filled] using inTime_assigned ..
  | _ => simp [answered, filled, Cache.InTime]

theorem inTime_iff (e : MobileEvent) :
    (cacheOf s).InTime MobileField.Own (changeOf e s) ↔ OnTime e s := by
  cases e with
  | call m => exact iff_of_true trivial fun _ _ _ arrives => by cases arrives
  | logout => exact iff_of_true trivial fun _ _ _ arrives => by cases arrives
  | arrive i reply =>
    simp only [changeOf]
    cases found : s.inFlight[i]? with
    | none =>
      refine iff_of_true trivial fun j other call arrives there => ?_
      cases arrives
      cases found.symm.trans there
    | some call =>
      refine (inTime_answered call reply).trans ⟨fun both j other call' arrives there => ?_,
        fun onTime => onTime i reply call rfl found⟩
      cases arrives
      cases found.symm.trans there
      exact both

end Timing

section Order

variable {s t : MobileApp}

/-- No load is in flight. -/
def NoLoads (s : MobileApp) : Prop := ∀ call ∈ s.inFlight, ¬ call.Loads

/-- Nobody logs out while a load is in flight, and a login succeeds only when no one is
logged in and no load is in flight. -/
def Orderly (e : MobileEvent) (s : MobileApp) : Prop :=
  (e = .logout → NoLoads s) ∧
    ∀ i reply call token, e = .arrive i reply → s.inFlight[i]? = some call →
      call.resume = .login → reply.granted = some token → s.auth.token = none ∧ NoLoads s

/-- The loads in flight were sent under the current token. -/
def LoadsCurrent (s : MobileApp) : Prop :=
  ∀ call ∈ s.inFlight, call.Loads → s.auth.token ≠ none ∧ call.bearer = s.auth.token

theorem loads_of_filled {call : Call} {reply : Reply} {field : MobileField}
    (fills : filled call reply = some field) : call.Loads := by
  obtain ⟨action, bearer, body, resume⟩ := call
  cases resume <;> trivial

theorem LoadsCurrent.sends (sends : s.Sends t) (current : LoadsCurrent s) : LoadsCurrent t := by
  cases sends with
  | nothing => exact current
  | @request t call flagged own =>
    intro other member loads
    have token : (t.send call).auth.token = s.auth.token := flagged.token
    rw [token]
    rcases List.mem_append.mp member with old | new
    · exact current other (flagged.inFlight ▸ old) loads
    · rw [List.mem_singleton.mp new] at loads ⊢
      exact own loads

theorem LoadsCurrent.of_noLoads (silent : NoLoads s) : LoadsCurrent s :=
  fun call member loads => absurd loads (silent call member)

theorem LoadsCurrent.answer (current : LoadsCurrent s) (call : Call) (reply : Reply)
    (silent : call.resume = .login → ∀ token, reply.granted = some token → NoLoads s) :
    LoadsCurrent (s.answer call reply) := by
  by_cases login : call.resume = .login
  · cases granted : reply.granted with
    | none =>
      have token : (s.answer call reply).auth.token = s.auth.token := by
        simp [MobileApp.answer, login, MobileApp.setAuth, AuthProvider.token_answered, granted]
      intro other member loads
      rw [MobileApp.inFlight_answer] at member
      rw [token]
      exact current other member loads
    | some token =>
      refine .of_noLoads ?_
      rw [NoLoads, MobileApp.inFlight_answer]
      exact silent login token granted
  · have auth : (s.answer call reply).auth = s.auth := by
      unfold MobileApp.answer
      cases resume : call.resume with
      | login => exact absurd resume login
      | _ => rfl
    intro other member loads
    rw [MobileApp.inFlight_answer] at member
    rw [auth]
    exact current other member loads

theorem LoadsCurrent.step (synced : s.Synced) (current : LoadsCurrent s) {e : MobileEvent}
    (orderly : Orderly e s) : LoadsCurrent (s.step e) := by
  cases e with
  | call m => exact current.sends (MobileApp.sends_call synced m)
  | logout => exact .of_noLoads (orderly.1 rfl)
  | arrive i reply =>
    simp only [MobileApp.step, MobileApp.arrive]
    cases found : s.inFlight[i]? with
    | none => exact current
    | some call =>
      have rest : ({ s with inFlight := s.inFlight.eraseIdx i } : MobileApp).Synced :=
        ⟨synced.stylist, synced.manager⟩
      refine LoadsCurrent.sends (MobileApp.sends_resume rest call reply)
        (LoadsCurrent.answer (fun other member => ?_) call reply
          fun login token granted other member => ?_)
      · exact current other (List.mem_of_mem_eraseIdx member)
      · exact (orderly.2 i reply call token rfl found login granted).2 other
          (List.mem_of_mem_eraseIdx member)

theorem Orderly.onTime {e : MobileEvent} (orderly : Orderly e s) (isolated : SessionIsolated s)
    (current : LoadsCurrent s) : OnTime e s := by
  intro i reply call arrives found
  refine ⟨fun field fills => ?_, fun login token granted => .inr ?_⟩
  · obtain ⟨present, same⟩ := current call (List.mem_of_getElem? found) (loads_of_filled fills)
    exact ⟨present, fun _ => same⟩
  · obtain ⟨queue, wallet, dashboard, expenses, -⟩ :=
      isolated.loggedOut (orderly.2 i reply call _ arrives found login granted).1
    exact ⟨queue, wallet, dashboard, expenses⟩

end Order

section Runs

/-- In every state of a run no field shows what another session fetched, and none shows
anything without a session, exactly when every event of the run is on time; that is so
when the session changes only while no load is in flight. -/
theorem session_isolation_iff (events : List MobileEvent) :
    ((∀ first, first <+: events → SessionIsolated (run MobileApp.step .start first)) ↔
      Along MobileApp.step OnTime .start events) ∧
    (Along MobileApp.step Orderly .start events →
      ∀ first, first <+: events → SessionIsolated (run MobileApp.step .start first)) := by
  have start : (cacheOf .start).Isolated MobileField.Own :=
    ⟨fun _ field => by cases field <;> rfl, fun token loggedIn => by cases loggedIn⟩
  have exactly : (∀ first, first <+: events → SessionIsolated (run MobileApp.step .start first)) ↔
      Along MobileApp.step OnTime .start events := by
    have onTime : OnTime = fun e s => (cacheOf s).InTime MobileField.Own (changeOf e s) :=
      funext fun e => funext fun s => propext (inTime_iff e).symm
    simp only [sessionIsolated_iff]
    rw [onTime]
    exact Cache.isolated_along (fun e s => MobileApp.synced_step e) (fun e s => cacheOf_step e s)
      ⟨rfl, rfl⟩ start events
  refine ⟨exactly, fun orderly => exactly.mpr ?_⟩
  refine orderly.imp_of_keeps
    (P := fun s : MobileApp => s.Synced ∧ SessionIsolated s ∧ LoadsCurrent s)
    (fun e s order ⟨synced, isolated, current⟩ => ?_)
    ⟨⟨rfl, rfl⟩, sessionIsolated_iff.mpr start, fun _ none => by cases none⟩
  have onTime := order.onTime isolated current
  refine ⟨onTime, MobileApp.synced_step e synced, sessionIsolated_iff.mpr ?_,
    current.step synced order⟩
  rw [cacheOf_step e s synced]
  exact (Cache.isolated_apply (sessionIsolated_iff.mp isolated) _).mpr ((inTime_iff e).mpr onTime)

end Runs

/-- A login's response, with a token and a stylist. -/
def stylistReply (token : String) (id : Int) : Reply :=
  .response 200 (some (.map [("success", .bool true), ("token", .str token),
    ("user", .map [("id", .int id), ("role", .str "stylist")])]))

def walletReply : Reply :=
  .response 200 (some (.map [("total_earned", .double 60), ("payouts", .list [])]))

/-- Emma logs out while her wallet is on the way. -/
def leftBehind : List MobileEvent :=
  [.call (.login "emma" "emmapass"), .arrive 0 (stylistReply "emma's token" 3),
    .call .loadWallet, .logout, .arrive 0 walletReply]

/-- And David logs in before it arrives. -/
def handedOver : List MobileEvent :=
  [.call (.login "emma" "emmapass"), .arrive 0 (stylistReply "emma's token" 3),
    .call .loadWallet, .logout, .call (.login "david" "davidpass"),
    .arrive 1 (stylistReply "david's token" 4), .arrive 0 walletReply]

/-- The wallet is there with no one logged in, or for David with what Emma earned. -/
theorem wallet_of_another :
    ¬ SessionIsolated (run MobileApp.step .start leftBehind) ∧
      ¬ SessionIsolated (run MobileApp.step .start handedOver) := by
  constructor
  · intro isolated
    obtain ⟨-, wallet, -⟩ := isolated.loggedOut rfl
    cases wallet
  · intro isolated
    obtain ⟨-, wallet, -⟩ := isolated.loggedIn "david's token" rfl
    have emmas : some "emma's token" = some "david's token" := wallet fun none => by cases none
    exact absurd emmas (by decide)

end Saloon.Guarantees
