import Saloon.Guarantees.BackOffice

/-!
# The page that is shown

A rendering waits for its answers and draws when they are there, whatever page and
whoever's session the app has come to by then. What is on the screen is the chosen page,
with what the session's own token fetched, as long as no answer draws late; and none does
for a user who waits for a page before leaving it.
-/
namespace Saloon.Guarantees

open Lib Source

def pageOf : Content → Option Page
  | .blank => none
  | .loading p => some p
  | .unauthorized => some .staff
  | .drawn p _ => some p

def piecesOf : Content → List Piece
  | .drawn _ pieces => pieces
  | _ => []

/-- Everything there was brought with this token. -/
def FetchedWith (token : Option String) (pieces : List Piece) : Prop :=
  ∀ piece ∈ pieces, piece.data.isSome = true → piece.bearer = token

/-- While the app is shown, it shows the page that was chosen, and what is drawn there was
fetched with the token of the session. -/
structure PageCurrent (s : AdminApp) : Prop where
  page : s.visible = true → pageOf s.container = some s.currentPage
  own : s.visible = true → FetchedWith s.token (piecesOf s.container)

/-- The request that an event settles, and how it ended. -/
def incoming (e : OfficeEvent) (s : AdminApp) : Option (AdminCall × FetchResult) :=
  match e with
  | .arrive i => s.inFlight[i]?.bind fun call =>
      call.answer.map fun answer => (call, fetchData answer.response)
  | .lose i => s.inFlight[i]?.map fun call => (call, .failed)
  | _ => none

/-- The page that goes on with an answer, and what it is drawn with: a page is drawn, or
rendered from its beginning. -/
def redrawn (call : AdminCall) (result : Option Val) (s : AdminApp) : Option (Page × List Piece) :=
  match call.resume with
  | .render p pieces =>
    match p.turn s.currentUser (pieces ++ [call.piece result]) with
    | .draw =>
      if p.draws s.currentUser s.activeAptFilter (pieces ++ [call.piece result]) then
        some (p, pieces ++ [call.piece result])
      else none
    | _ => none
  | .saved p => if AdminApp.succeeded result then some (p, []) else none
  | _ => none

/-- What an answer draws while the app is shown is of the current page, and all of it was
fetched with the token of the session. -/
def DrawsInTime (e : OfficeEvent) (s : AdminApp) : Prop :=
  ∀ call result, incoming e s = some (call, result) → result ≠ .unauthorized →
    s.visible = true → ∀ p pieces, redrawn call result.value s = some (p, pieces) →
      p = s.currentPage ∧ FetchedWith s.token pieces

section Steps

variable {php : Platform} {s t : AdminApp} {p : Page}

theorem fetchedWith_nil {token : Option String} : FetchedWith token [] := fun _ none => nomatch none

theorem PageCurrent.hidden (hidden : s.visible = false) : PageCurrent s :=
  ⟨fun shown => absurd (hidden.symm.trans shown) (by decide),
    fun shown => absurd (hidden.symm.trans shown) (by decide)⟩

/-- With the container and the session as they were, nothing is different on the screen. -/
theorem PageCurrent.of_same (current : PageCurrent s) (frame : t.frame = s.frame)
    (container : t.container = s.container) : PageCurrent t := by
  have visible : t.visible = s.visible := congrArg AdminApp.Frame.visible frame
  have page : t.currentPage = s.currentPage := congrArg AdminApp.Frame.currentPage frame
  have token : t.token = s.token := congrArg AdminApp.Frame.token frame
  refine ⟨fun shown => ?_, fun shown => ?_⟩
  · rw [container, page]
    exact current.page (visible.symm.trans shown)
  · rw [container, token]
    exact current.own (visible.symm.trans shown)

/-- A rendering begins with the page's spinner, or says who may not see it. -/
theorem container_render {user : Val} (someone : s.currentUser = some user) :
    pageOf (s.render p).container = some p ∧ piecesOf (s.render p).container = [] := by
  unfold AdminApp.render
  split
  · rw [someone]
    dsimp only
    split <;> exact ⟨rfl, rfl⟩
  · exact ⟨rfl, rfl⟩

theorem current_render {user : Val} (someone : s.currentUser = some user)
    (here : p = s.currentPage) : PageCurrent (s.render p) := by
  obtain ⟨page, pieces⟩ := container_render (p := p) someone
  have same : (s.render p).currentPage = s.currentPage :=
    congrArg AdminApp.Frame.currentPage (AdminApp.frame_render s p)
  refine ⟨fun _ => ?_, fun _ => ?_⟩
  · rw [page, same, here]
  · rw [pieces]
    exact fetchedWith_nil

theorem current_showApp {user : Val} (someone : s.currentUser = some user)
    (role : (user.field "role").isText = true) : PageCurrent s.showApp := by
  have shown : s.showApp = ({ s with visible := true } : AdminApp).render s.currentPage := by
    rw [AdminApp.showApp, someone]
    exact if_pos role
  rw [shown]
  exact current_render (s := { s with visible := true }) someone rfl

/-- Who sees the app is logged in. -/
theorem SessionKept.someone (kept : SessionKept php s.frame) (shown : s.visible = true) :
    ∃ token user, s.token = some token ∧ s.currentUser = some user ∧
      (user.field "role").isText = true ∧ s.bearer = s.token := by
  cases kept with
  | loggedOut hidden => exact absurd (hidden.symm.trans shown) (by decide)
  | @loggedIn token user _ own _ current issued role =>
    have own : s.token = some token := own
    refine ⟨token, user, own, current, role, ?_⟩
    rw [AdminApp.bearer, own]
    simp [issued.nonempty]

/-- The buttons of a page that is drawn are on the page that was chosen. -/
theorem PageCurrent.page_of_buttons (current : PageCurrent s) (there : s.buttons = some p) :
    s.visible = true ∧ p = s.currentPage := by
  unfold AdminApp.buttons at there
  split at there
  · rename_i q pieces drawn
    split at there
    · rename_i shown
      obtain rfl := Option.some.inj there
      have page := current.page shown
      rw [drawn] at page
      exact ⟨shown, Option.some.inj page⟩
    · cases there
  · cases there

theorem current_gesture (g : Gesture) (kept : SessionKept php s.frame) (current : PageCurrent s) :
    PageCurrent (s.gesture g) := by
  cases g with
  | reload =>
    show PageCurrent s.reload
    obtain same | ⟨token, user, -, role, -, same⟩ := reload_cases kept
    · rw [same]
      exact .hidden rfl
    · rw [same]
      exact current_showApp rfl role
  | submitLogin username password =>
    show PageCurrent (s.submitLogin username password)
    unfold AdminApp.submitLogin
    split
    · exact current
    · exact current.of_same rfl rfl
  | clickLogout =>
    show PageCurrent s.clickLogout
    unfold AdminApp.clickLogout
    split
    · exact .hidden rfl
    · exact current
  | navigate p =>
    show PageCurrent (s.navigate p)
    unfold AdminApp.navigate
    split
    · rename_i clicked
      obtain ⟨token, user, -, someone, -⟩ := kept.someone clicked.1
      exact current_render (s := { s with currentPage := p }) someone rfl
    · exact current
  | setAptFilter filter =>
    show PageCurrent (s.setAptFilter filter)
    unfold AdminApp.setAptFilter
    split
    · obtain ⟨shown, here⟩ := current.page_of_buttons ‹_›
      obtain ⟨token, user, -, someone, -⟩ := kept.someone shown
      exact current_render (s := { s with activeAptFilter := filter }) someone here
    · exact current
  | act a body =>
    show PageCurrent (s.act a body)
    unfold AdminApp.act
    split
    · exact current.of_same rfl rfl
    · exact current
  | newAppointment =>
    show PageCurrent s.newAppointment
    unfold AdminApp.newAppointment
    split
    · exact current.of_same rfl rfl
    · exact current
  | closeDialog => exact current.of_same rfl rfl
  | submitAppointment inputs =>
    show PageCurrent (s.submitAppointment inputs)
    unfold AdminApp.submitAppointment
    split
    · split
      · exact current.of_same rfl rfl
      · exact current
    · exact current

/-- What `redrawn` says of a rendering is what happens to the container. -/
theorem container_rendered {call : AdminCall} {result : Option Val} {pieces : List Piece}
    (rendering : call.resume = .render p pieces) :
    (s.rendered p (pieces ++ [call.piece result])).container =
      match redrawn call result s with
      | some (p, pieces) => .drawn p pieces
      | none => s.container := by
  unfold redrawn AdminApp.rendered
  rw [rendering]
  dsimp only
  cases p.turn s.currentUser (pieces ++ [call.piece result]) with
  | leave => rfl
  | fetch action => rfl
  | draw =>
    dsimp only
    unfold AdminApp.draw
    split <;> rfl

theorem current_rendered {call : AdminCall} {result : Option Val} {pieces : List Piece}
    (rendering : call.resume = .render p pieces) (current : PageCurrent s)
    (inTime : s.visible = true → ∀ p pieces, redrawn call result s = some (p, pieces) →
      p = s.currentPage ∧ FetchedWith s.token pieces) :
    PageCurrent (s.rendered p (pieces ++ [call.piece result])) := by
  have frame := AdminApp.frame_rendered s p (pieces ++ [call.piece result])
  have container := @container_rendered s p call result pieces rendering
  cases drawn : redrawn call result s with
  | none =>
    rw [drawn] at container
    exact current.of_same frame container
  | some new =>
    rw [drawn] at container
    have page : (s.rendered p (pieces ++ [call.piece result])).currentPage = s.currentPage :=
      congrArg AdminApp.Frame.currentPage frame
    have visible : (s.rendered p (pieces ++ [call.piece result])).visible = s.visible :=
      congrArg AdminApp.Frame.visible frame
    refine ⟨fun shown => ?_, fun shown => ?_⟩
    · rw [container, page, ← (inTime (visible.symm.trans shown) _ _ drawn).1]
      rfl
    · rw [container, token_of_frame frame]
      exact (inTime (visible.symm.trans shown) _ _ drawn).2

theorem current_booked (kept : SessionKept php s.frame) (current : PageCurrent s) :
    PageCurrent s.booked := by
  by_cases shown : s.visible = true
  · obtain ⟨token, user, -, someone, -⟩ := kept.someone shown
    unfold AdminApp.booked
    split
    · exact current_render (s := s.closeDialog) someone (Eq.symm ‹_›)
    · exact current_render (s := s.closeDialog) someone (Eq.symm ‹_›)
    · exact current.of_same rfl rfl
  · exact .hidden ((congrArg AdminApp.Frame.visible (AdminApp.frame_booked s)).trans
      (Bool.eq_false_iff.mpr shown))

theorem container_dialogFilled (services staff : Option Val) (bearer : Option String) :
    (s.dialogFilled services staff bearer).container = s.container := by
  unfold AdminApp.dialogFilled
  split
  · split
    · rfl
    · dsimp only
      split <;> rfl
  · rfl

theorem current_resume {call : AdminCall} {result : Option Val}
    (granted : call.resume = .login → ∀ v, result = some v → Granted php v)
    (kept : SessionKept php s.frame) (current : PageCurrent s)
    (inTime : s.visible = true → ∀ p pieces, redrawn call result s = some (p, pieces) →
      p = s.currentPage ∧ FetchedWith s.token pieces) :
    PageCurrent (s.resume call result) := by
  unfold AdminApp.resume
  cases resume : call.resume with
  | login =>
    dsimp only
    split
    · rename_i res
      split
      · obtain ⟨token, text, -, role⟩ := granted resume res rfl
        unfold AdminApp.loggedIn
        rw [text]
        exact current_showApp (s := { s with
          token := some token
          storedUser := some (res.field "user")
          currentUser := some (res.field "user") }) rfl role
      · exact current.of_same rfl rfl
    · exact current.of_same rfl rfl
  | render p pieces => exact current_rendered resume current inTime
  | saved p =>
    dsimp only
    split
    · rename_i success
      by_cases shown : s.visible = true
      · obtain ⟨token, user, -, someone, -⟩ := kept.someone shown
        have again : redrawn call result s = some (p, []) := by
          unfold redrawn
          rw [resume]
          exact if_pos success
        exact current_render someone (inTime shown p [] again).1
      · exact .hidden ((congrArg AdminApp.Frame.visible (AdminApp.frame_render s p)).trans
          (Bool.eq_false_iff.mpr shown))
    · exact current
  | dialogServices => exact current.of_same rfl rfl
  | dialogStaff services =>
    exact current.of_same (AdminApp.frame_dialogFilled ..) (container_dialogFilled ..)
  | booked =>
    dsimp only
    split
    · exact current_booked kept current
    · exact current

/-- An answer in time leaves the chosen page on the screen. -/
theorem current_settle {call : AdminCall} {result : FetchResult}
    (granted : call.resume = .login → ∀ v, result.value = some v → Granted php v)
    (kept : SessionKept php s.frame) (current : PageCurrent s)
    (inTime : result ≠ .unauthorized → s.visible = true → ∀ p pieces,
      redrawn call result.value s = some (p, pieces) →
        p = s.currentPage ∧ FetchedWith s.token pieces) :
    PageCurrent (s.settle call result) := by
  cases result with
  | unauthorized =>
    show PageCurrent (s.logout.resume call none)
    exact current_resume (fun _ _ none => by cases none) (@kept_logout php s) (.hidden rfl)
      fun shown => by cases shown
  | failed => exact current_resume granted kept current (inTime (by simp))
  | data v => exact current_resume granted kept current (inTime (by simp))

/-- An answer that comes too late shows something else. -/
theorem not_current_settle {call : AdminCall} {result : FetchResult} {pieces : List Piece}
    (kept : SessionKept php s.frame) (accepted : result ≠ .unauthorized)
    (shown : s.visible = true) (drawn : redrawn call result.value s = some (p, pieces))
    (late : ¬ (p = s.currentPage ∧ FetchedWith s.token pieces)) :
    ¬ PageCurrent (s.settle call result) := by
  have other : call.resume ≠ .login := by
    intro login
    unfold redrawn at drawn
    rw [login] at drawn
    cases drawn
  have settled : s.settle call result = s.resume call result.value := by
    cases result with
    | unauthorized => exact absurd rfl accepted
    | failed => rfl
    | data v => rfl
  have frame : (s.settle call result).frame = s.frame := by
    rw [settled]
    exact frame_resume other _
  have shows : pageOf (s.settle call result).container = some p ∧
      piecesOf (s.settle call result).container = pieces := by
    rw [settled]
    unfold AdminApp.resume
    cases resume : call.resume with
    | render q earlier =>
      dsimp only
      rw [container_rendered resume, drawn]
      exact ⟨rfl, rfl⟩
    | saved q =>
      unfold redrawn at drawn
      rw [resume] at drawn
      dsimp only at drawn ⊢
      split at drawn
      · rename_i success
        cases drawn
        rw [if_pos success]
        obtain ⟨token, user, -, someone, -⟩ := kept.someone shown
        exact container_render someone
      · cases drawn
    | _ =>
      unfold redrawn at drawn
      rw [resume] at drawn
      cases drawn
  intro current
  have visible : (s.settle call result).visible = true :=
    (congrArg AdminApp.Frame.visible frame).trans shown
  have page := current.page visible
  have own := current.own visible
  rw [shows.1, show (s.settle call result).currentPage = s.currentPage from
    congrArg AdminApp.Frame.currentPage frame] at page
  rw [shows.2, token_of_frame frame] at own
  exact late ⟨Option.some.inj page, own⟩

/-- What an event settles is the API's answer or nothing, and the rest of the app goes on
from there. -/
theorem settle_of_incoming (php : Platform) {s : BackOffice} {e : OfficeEvent} {call : AdminCall}
    {result : FetchResult} (comes : incoming e s.app = some (call, result)) :
    call ∈ s.app.inFlight ∧ Brought call result.value ∧ ∃ rest : List AdminCall,
      rest ⊆ s.app.inFlight ∧
        (s.step php e).app = AdminApp.settle call result { s.app with inFlight := rest } := by
  cases e with
  | arrive i =>
    obtain ⟨found, here, answers⟩ := Option.bind_eq_some_iff.mp comes
    obtain ⟨answer, answered, same⟩ := Option.map_eq_some_iff.mp answers
    cases same
    refine ⟨List.mem_of_getElem? here, fun v value => ⟨answer, answered, ?_⟩,
      s.app.inFlight.eraseIdx i, fun call => List.mem_of_mem_eraseIdx, ?_⟩
    · cases outcome : fetchData answer.response with
      | unauthorized => rw [outcome] at value; cases value
      | failed => rw [outcome] at value; cases value
      | data w =>
        rw [outcome] at value
        cases value
        rfl
    · show s.app.arrive i = _
      simp only [AdminApp.arrive, here, answered]
  | lose i =>
    obtain ⟨found, here, same⟩ := Option.map_eq_some_iff.mp comes
    cases same
    refine ⟨List.mem_of_getElem? here, fun v value => (by cases value),
      s.app.inFlight.eraseIdx i, fun call => List.mem_of_mem_eraseIdx, ?_⟩
    show s.app.lose i = _
    simp only [AdminApp.lose, here]
  | _ => cases comes

/-- An event that settles nothing is the user's, or leaves the client alone. -/
theorem step_of_quiet (php : Platform) {s : BackOffice} {e : OfficeEvent}
    (quiet : incoming e s.app = none) :
    (∃ g, e = .gesture g) ∨ (s.step php e).app.frame = s.app.frame ∧
      (s.step php e).app.container = s.app.container ∧
        ∀ call ∈ (s.step php e).app.inFlight, ∃ sent ∈ s.app.inFlight,
          call.resume = sent.resume ∧ call.bearer = sent.bearer := by
  have same : ∀ call ∈ s.app.inFlight, ∃ sent ∈ s.app.inFlight,
      call.resume = sent.resume ∧ call.bearer = sent.bearer :=
    fun call member => ⟨call, member, rfl, rfl⟩
  cases e with
  | gesture g => exact .inl ⟨g, rfl⟩
  | serve i clock salt =>
    refine .inr ?_
    show (s.serve php i clock salt).app.frame = _ ∧ (s.serve php i clock salt).app.container = _ ∧
      ∀ call ∈ (s.serve php i clock salt).app.inFlight, _
    unfold BackOffice.serve
    split
    · exact ⟨rfl, rfl, same⟩
    · rename_i call found
      split
      · exact ⟨rfl, rfl, same⟩
      · refine ⟨rfl, rfl, fun other member => ?_⟩
        rcases List.mem_or_eq_of_mem_set member with old | rfl
        · exact same other old
        · exact ⟨call, List.mem_of_getElem? found, rfl, rfl⟩
  | arrive i =>
    have still : s.app.arrive i = s.app := by
      unfold AdminApp.arrive
      split
      · rfl
      · rename_i call found
        split
        · rfl
        · rename_i answer answered
          simp [incoming, found, answered] at quiet
    refine .inr ?_
    show (s.app.arrive i).frame = _ ∧ (s.app.arrive i).container = _ ∧
      ∀ call ∈ (s.app.arrive i).inFlight, _
    rw [still]
    exact ⟨rfl, rfl, same⟩
  | lose i =>
    have still : s.app.lose i = s.app := by
      unfold AdminApp.lose
      split
      · rfl
      · rename_i call found
        simp [incoming, found] at quiet
    refine .inr ?_
    show (s.app.lose i).frame = _ ∧ (s.app.lose i).container = _ ∧
      ∀ call ∈ (s.app.lose i).inFlight, _
    rw [still]
    exact ⟨rfl, rfl, same⟩
  | other e => exact .inr ⟨rfl, rfl, same⟩

end Steps

section Waiting

variable {php : Platform} {s : AdminApp}

/-- Its answer renders a page, or goes on rendering one. -/
def Renders (call : AdminCall) : Prop :=
  match call.resume with
  | .render _ _ => True
  | .saved _ => True
  | _ => False

def NoRenderings (s : AdminApp) : Prop := ∀ call ∈ s.inFlight, ¬ Renders call

/-- The user waits for what is being rendered before he chooses another page, and before he
logs in; a form he sends belongs to the page he is on. -/
def Waits (e : OfficeEvent) (s : AdminApp) : Prop :=
  (∀ p, e = .gesture (.navigate p) → NoRenderings s) ∧
    (∀ a body, e = .gesture (.act a body) → a.page = s.currentPage) ∧
    ∀ call result, incoming e s = some (call, result) → call.resume = .login →
      AdminApp.succeeded result.value = true → NoRenderings s

/-- What the answer renders is the page that is current now, with the token there is now. -/
def RendersCurrent (s : AdminApp) (call : AdminCall) : Prop :=
  match call.resume with
  | .render p pieces => p = s.currentPage ∧ call.bearer = s.token ∧ FetchedWith s.token pieces
  | .saved p => p = s.currentPage
  | _ => True

def AllRenderCurrent (s : AdminApp) : Prop :=
  s.visible = true → ∀ call ∈ s.inFlight, RendersCurrent s call

theorem AllRenderCurrent.hidden (hidden : s.visible = false) : AllRenderCurrent s :=
  fun shown => absurd (hidden.symm.trans shown) (by decide)

theorem AllRenderCurrent.of_silent (silent : NoRenderings s) : AllRenderCurrent s := by
  intro _ call member
  have none := silent call member
  unfold Renders at none
  unfold RendersCurrent
  cases resume : call.resume with
  | render p pieces =>
    rw [resume] at none
    exact absurd trivial none
  | saved p =>
    rw [resume] at none
    exact absurd trivial none
  | _ => trivial

/-- The same requests in the same session on the same page. -/
theorem AllRenderCurrent.of_frame {t : AdminApp} (all : AllRenderCurrent s)
    (frame : t.frame = s.frame)
    (same : ∀ call ∈ t.inFlight, ∃ sent ∈ s.inFlight,
      call.resume = sent.resume ∧ call.bearer = sent.bearer) : AllRenderCurrent t := by
  intro shown call member
  obtain ⟨sent, here, resume, bearer⟩ := same call member
  have current := all ((congrArg AdminApp.Frame.visible frame).symm.trans shown) sent here
  have page : t.currentPage = s.currentPage := congrArg AdminApp.Frame.currentPage frame
  unfold RendersCurrent at current ⊢
  rw [resume, page, bearer, token_of_frame frame]
  exact current

theorem AllRenderCurrent.send {action method : String} {body : Val} {resume : AdminResume}
    (all : AllRenderCurrent s)
    (current : s.visible = true →
      RendersCurrent s ⟨action, method, body, s.bearer, resume, none⟩) :
    AllRenderCurrent (s.send action method body resume) := by
  intro shown call member
  rcases List.mem_append.mp member with old | new
  · exact all shown call old
  · rw [List.mem_singleton.mp new]
    exact current shown

theorem AllRenderCurrent.render {p : Page} (all : AllRenderCurrent s)
    (kept : SessionKept php s.frame) (here : s.visible = true → p = s.currentPage) :
    AllRenderCurrent (s.render p) := by
  have loaded (q : Page) (same : s.visible = true → q = s.currentPage) :
      AllRenderCurrent (s.load q) := by
    refine AllRenderCurrent.send (s := { s with container := .loading q }) all fun shown => ?_
    obtain ⟨token, user, -, -, -, bearer⟩ := kept.someone shown
    exact ⟨same shown, bearer, fetchedWith_nil⟩
  unfold AdminApp.render
  split
  · split
    · exact all
    · split
      · exact all
      · exact loaded .staff here
  · exact loaded _ here

theorem AllRenderCurrent.rendered {call : AdminCall} {result : Option Val} {p : Page}
    {pieces : List Piece} (all : AllRenderCurrent s) (kept : SessionKept php s.frame)
    (rendering : call.resume = .render p pieces) (own : s.visible = true → RendersCurrent s call) :
    AllRenderCurrent (s.rendered p (pieces ++ [call.piece result])) := by
  unfold AdminApp.rendered
  split
  · exact all
  · refine all.send fun shown => ?_
    obtain ⟨token, user, -, -, -, bearer⟩ := kept.someone shown
    have current := own shown
    unfold RendersCurrent at current
    rw [rendering] at current
    obtain ⟨here, same, fetched⟩ := current
    refine ⟨here, bearer, fun piece member some => ?_⟩
    rcases List.mem_append.mp member with old | new
    · exact fetched piece old some
    · rw [List.mem_singleton.mp new]
      exact same
  · unfold AdminApp.draw
    split <;> exact all

theorem AllRenderCurrent.showApp (all : AllRenderCurrent { s with visible := true })
    (kept : SessionKept php s.showApp.frame) : AllRenderCurrent s.showApp := by
  rw [frame_showApp] at kept
  unfold AdminApp.showApp
  split
  · exact all
  · split
    · exact AllRenderCurrent.render (s := { s with visible := true }) all kept fun _ => rfl
    · exact all

theorem allRender_gesture {g : Gesture} (kept : SessionKept php s.frame) (current : PageCurrent s)
    (waits : Waits (.gesture g) s) (all : AllRenderCurrent s) :
    AllRenderCurrent (s.gesture g) := by
  cases g with
  | reload =>
    have after : SessionKept php s.reload.frame := kept_gesture .reload kept
    show AllRenderCurrent s.reload
    obtain same | ⟨token, user, -, -, -, same⟩ := reload_cases kept
    · rw [same]
      exact .hidden rfl
    · rw [same] at after ⊢
      exact AllRenderCurrent.showApp (fun _ call none => nomatch none) after
  | submitLogin username password =>
    show AllRenderCurrent (s.submitLogin username password)
    unfold AdminApp.submitLogin
    split
    · exact all
    · exact AllRenderCurrent.send (s := { s with loginError := false }) all fun _ => trivial
  | clickLogout =>
    show AllRenderCurrent s.clickLogout
    unfold AdminApp.clickLogout
    split
    · exact .hidden rfl
    · exact all
  | navigate p =>
    show AllRenderCurrent (s.navigate p)
    unfold AdminApp.navigate
    split
    · refine AllRenderCurrent.render (s := { s with currentPage := p })
        (.of_silent (waits.1 p rfl)) (kept.page rfl rfl rfl rfl) fun _ => rfl
    · exact all
  | setAptFilter filter =>
    show AllRenderCurrent (s.setAptFilter filter)
    unfold AdminApp.setAptFilter
    split
    · exact AllRenderCurrent.render (s := { s with activeAptFilter := filter }) all
        (kept.page rfl rfl rfl rfl) fun _ => (current.page_of_buttons ‹_›).2
    · exact all
  | act a body =>
    show AllRenderCurrent (s.act a body)
    unfold AdminApp.act
    split
    · exact all.send fun _ => waits.2.1 a body rfl
    · exact all
  | newAppointment =>
    show AllRenderCurrent s.newAppointment
    unfold AdminApp.newAppointment
    split
    · exact all.send fun _ => trivial
    · exact all
  | closeDialog => exact all
  | submitAppointment inputs =>
    show AllRenderCurrent (s.submitAppointment inputs)
    unfold AdminApp.submitAppointment
    split
    · split
      · exact all.send fun _ => trivial
      · exact all
    · exact all

theorem AllRenderCurrent.resume {call : AdminCall} {result : Option Val}
    (granted : call.resume = .login → ∀ v, result = some v → Granted php v)
    (kept : SessionKept php s.frame) (all : AllRenderCurrent s)
    (own : s.visible = true → RendersCurrent s call)
    (silent : call.resume = .login → AdminApp.succeeded result = true → NoRenderings s) :
    AllRenderCurrent (s.resume call result) := by
  unfold AdminApp.resume
  cases resume : call.resume with
  | login =>
    dsimp only
    split
    · rename_i res
      split
      · rename_i success
        have after := kept_loggedIn (s := s) (granted resume res rfl)
        obtain ⟨token, text, -, -⟩ := granted resume res rfl
        unfold AdminApp.loggedIn at after ⊢
        rw [text] at after ⊢
        exact AllRenderCurrent.showApp (.of_silent (silent resume success)) after
      · exact all
    · exact all
  | render p pieces => exact all.rendered kept resume own
  | saved p =>
    dsimp only
    split
    · refine all.render kept fun shown => ?_
      have here := own shown
      unfold RendersCurrent at here
      rw [resume] at here
      exact here
    · exact all
  | dialogServices => exact all.send fun _ => trivial
  | dialogStaff services =>
    have same : (s.dialogFilled services (result.filter Val.jsTruthy) call.bearer).inFlight =
        s.inFlight := by
      unfold AdminApp.dialogFilled
      split
      · split
        · rfl
        · dsimp only
          split <;> rfl
      · rfl
    refine all.of_frame (AdminApp.frame_dialogFilled ..) fun call member => ?_
    exact ⟨call, same ▸ member, rfl, rfl⟩
  | booked =>
    dsimp only
    split
    · unfold AdminApp.booked
      split
      · exact AllRenderCurrent.render (s := s.closeDialog) all kept fun _ => Eq.symm ‹_›
      · exact AllRenderCurrent.render (s := s.closeDialog) all kept fun _ => Eq.symm ‹_›
      · exact all
    · exact all

theorem AllRenderCurrent.settle {call : AdminCall} {result : FetchResult}
    (granted : call.resume = .login → ∀ v, result.value = some v → Granted php v)
    (kept : SessionKept php s.frame) (all : AllRenderCurrent s)
    (own : s.visible = true → RendersCurrent s call)
    (silent : call.resume = .login → AdminApp.succeeded result.value = true → NoRenderings s) :
    AllRenderCurrent (s.settle call result) := by
  cases result with
  | unauthorized =>
    show AllRenderCurrent (s.logout.resume call none)
    exact AllRenderCurrent.resume (fun _ _ none => by cases none) (@kept_logout php s)
      (.hidden rfl) (fun shown => by cases shown) fun _ success => by cases success
  | failed => exact all.resume granted kept own silent
  | data v => exact all.resume granted kept own silent

/-- What is current is drawn in time. -/
theorem inTime_of_current {call : AdminCall} {result : Option Val} {p : Page}
    {pieces : List Piece} (own : RendersCurrent s call)
    (drawn : redrawn call result s = some (p, pieces)) :
    p = s.currentPage ∧ FetchedWith s.token pieces := by
  unfold RendersCurrent at own
  unfold redrawn at drawn
  cases resume : call.resume with
  | render q earlier =>
    rw [resume] at own drawn
    obtain ⟨here, bearer, fetched⟩ := own
    dsimp only at drawn
    split at drawn
    · split at drawn
      · cases drawn
        refine ⟨here, fun piece member some => ?_⟩
        rcases List.mem_append.mp member with old | new
        · exact fetched piece old some
        · rw [List.mem_singleton.mp new]
          exact bearer
      · cases drawn
    · cases drawn
  | saved q =>
    rw [resume] at own drawn
    dsimp only at drawn
    split at drawn
    · cases drawn
      exact ⟨own, fetchedWith_nil⟩
    · cases drawn
  | _ =>
    rw [resume] at drawn
    cases drawn

end Waiting

section Runs

variable {php : Platform}

theorem current_step {s : BackOffice} {e : OfficeEvent} (office : OfficeKept php s)
    (current : PageCurrent s.app) (inTime : DrawsInTime e s.app) :
    PageCurrent (s.step php e).app := by
  cases comes : incoming e s.app with
  | none =>
    obtain ⟨g, rfl⟩ | ⟨frame, container, -⟩ := step_of_quiet php comes
    · exact current_gesture g office.session current
    · exact current.of_same frame container
  | some settled =>
    obtain ⟨call, result⟩ := settled
    obtain ⟨member, brought, rest, -, after⟩ := settle_of_incoming php comes
    rw [after]
    exact current_settle (s := { s.app with inFlight := rest })
      (fun login v => granted_of_brought (office.calls call member) brought login)
      office.session (current.of_same rfl rfl) (inTime call result comes)

theorem not_current_step {s : BackOffice} {e : OfficeEvent} (office : OfficeKept php s)
    (late : ¬ DrawsInTime e s.app) : ¬ PageCurrent (s.step php e).app := by
  unfold DrawsInTime at late
  push Not at late
  obtain ⟨call, result, comes, accepted, shown, p, pieces, drawn, elsewhere⟩ := late
  obtain ⟨-, -, rest, -, after⟩ := settle_of_incoming php comes
  rw [after]
  refine not_current_settle (s := { s.app with inFlight := rest }) office.session accepted shown
    drawn fun both => ?_
  exact elsewhere both.1 both.2

theorem allRender_step {s : BackOffice} {e : OfficeEvent} (office : OfficeKept php s)
    (current : PageCurrent s.app) (waits : Waits e s.app) (all : AllRenderCurrent s.app) :
    AllRenderCurrent (s.step php e).app := by
  cases comes : incoming e s.app with
  | none =>
    obtain ⟨g, rfl⟩ | ⟨frame, -, same⟩ := step_of_quiet php comes
    · exact allRender_gesture office.session current waits all
    · exact all.of_frame frame same
  | some settled =>
    obtain ⟨call, result⟩ := settled
    obtain ⟨member, brought, rest, sub, after⟩ := settle_of_incoming php comes
    rw [after]
    exact AllRenderCurrent.settle (s := { s.app with inFlight := rest })
      (fun login v => granted_of_brought (office.calls call member) brought login)
      office.session (fun shown other here => all shown other (sub here))
      (fun shown => all shown call member)
      fun login success other here => waits.2.2 call result comes login success other (sub here)

/-- In every state of a run the screen shows the chosen page, with what the session's own
token fetched, exactly when every answer that draws comes in time; and that is so when the
user waits for a page before he leaves it or logs in again. -/
theorem page_current_iff (php : Platform) (db : Db) (events : List OfficeEvent) :
    ((∀ first, first <+: events → PageCurrent (officeAfter php db first).app) ↔
      Along (BackOffice.step php) (fun e s => DrawsInTime e s.app) ⟨.start, db⟩ events) ∧
    (Along (BackOffice.step php) (fun e s => Waits e s.app) ⟨.start, db⟩ events →
      ∀ first, first <+: events → PageCurrent (officeAfter php db first).app) := by
  have start : OfficeKept php ⟨.start, db⟩ ∧ PageCurrent AdminApp.start :=
    ⟨⟨kept_start, fun _ none => nomatch none⟩, .hidden rfl⟩
  have exactly : (∀ first, first <+: events → PageCurrent (officeAfter php db first).app) ↔
      Along (BackOffice.step php) (fun e s => DrawsInTime e s.app) ⟨.start, db⟩ events :=
    always_iff_along (P := fun s : BackOffice => PageCurrent s.app)
      (Q := fun s => OfficeKept php s ∧ PageCurrent s.app) (fun s both => both.2)
      (fun e s inTime both => ⟨officeKept_step e both.1, current_step both.1 both.2 inTime⟩)
      (fun e s late both => not_current_step both.1 late) start events
  refine ⟨exactly, fun waits => exactly.mpr ?_⟩
  refine waits.imp_of_keeps
    (P := fun s => (OfficeKept php s ∧ PageCurrent s.app) ∧ AllRenderCurrent s.app)
    (fun e s wait ⟨⟨office, current⟩, all⟩ => ?_) ⟨start, .hidden rfl⟩
  have inTime : DrawsInTime e s.app := fun call result comes _ shown p pieces drawn =>
    inTime_of_current (all shown call (settle_of_incoming php comes).1) drawn
  exact ⟨inTime, ⟨officeKept_step e office, current_step office current inTime⟩,
    allRender_step office current wait all⟩

end Runs

end Saloon.Guarantees
