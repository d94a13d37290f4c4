import Saloon.Lib.Splice
import Saloon.Source.MobileApp
import Saloon.Source.Router

/-!
# The stylist's dashboard and the server

`lib/main.dart:169-222` (`loadStylistStatus`, `toggleAvailability`) and
`lib/main.dart:1396-1420`, `lib/main.dart:1497-1626` (the refresh and the switch of
`_StylistDashboardState`), with the server behind them. A request that was sent is
served, or refused with nothing applied, at any later moment, and its reply arrives at
any moment after that.
-/
namespace Saloon.Source

open Lib

section Wire

/-! JSON between the two sides; the texts of numbers lose nothing. -/

mutual
/-- The argument of `jsonEncode`, as `json_decode(…, true)` gives it back. -/
def Json.toVal : Json → Val
  | .null => .null
  | .bool b => .bool b
  | .int n => .int n
  | .double q => .float q
  | .str s => .str s
  | .list items => .list (Json.toVals items)
  | .map entries => .arr (Json.toEntries entries)

def Json.toVals : List Json → List Val
  | [] => []
  | item :: items => item.toVal :: Json.toVals items

def Json.toEntries : JsonMap → List (String × Val)
  | [] => []
  | (k, v) :: entries => (k, v.toVal) :: Json.toEntries entries
end

/-- `json_encode` writes an array as a list when its keys are 0, 1, …. -/
def isJsonList (entries : List (String × Val)) : Bool :=
  entries.zipIdx.all fun (p, i) => p.1 = toString i

mutual
/-- The argument of `json_encode`, as `jsonDecode` gives it back. -/
def Val.toJson : Val → Json
  | .null => .null
  | .bool b => .bool b
  | .int n => .int n
  | .float q => .double q
  | .str s => .str s
  | .arr entries =>
    if isJsonList entries then .list ((Val.toMap entries).map Prod.snd) else .map (Val.toMap entries)

def Val.toMap : List (String × Val) → JsonMap
  | [] => []
  | (k, v) :: entries => (k, v.toJson) :: Val.toMap entries
end

/-- What a call sends; those with a body are POSTs. -/
def Call.request (call : Call) : Request where
  action := call.action
  method := if call.body.isSome then "POST" else "GET"
  headers := ⟨call.bearer.map fun token => utf8 ("Bearer " ++ token), none, none, none⟩
  body :=
    match call.body with
    | some entries => (Json.map entries).toVal
    | none => .null

def Response.reply (response : Response) : Reply :=
  .response response.status (response.output.map Val.toJson)

end Wire

/-- The assignment of a `dynamic` to an `int?`; none where it throws. -/
def Json.toNullableInt : Json → Option (Option Int)
  | null => some none
  | int n => some (some n)
  | _ => none

/-- `auth.user?['id']`. -/
def AuthProvider.userId (a : AuthProvider) : Option (Option Int) :=
  match a.user with
  | none => some none
  | some user => (Json.get user "id").toNullableInt

/-- The phone, the server, and what the server has replied to the requests in flight. -/
structure StylistDashboard where
  app : MobileApp
  /-- one for each request in flight; none while the server has not got to it -/
  replies : List (Option Reply)
  db : Db
  /-- Observation: a reply has arrived. -/
  completed : Bool

inductive DashboardEvent where
  | toggle (value : Bool)
  | refresh
  | serve (i : Nat) (clock : Clock) (salt : Nat)
  /-- an error response, with nothing applied -/
  | refuse (i statusCode : Nat) (body : Option Json) (error : statusCode ≠ 200)
  | arrive (i : Nat)

namespace StylistDashboard

/-- A method of a provider; nobody has replied yet to what it sends. -/
def act (f : MobileApp → MobileApp) (s : StylistDashboard) : StylistDashboard :=
  { s with
    app := f s.app
    replies := s.replies ++
      List.replicate ((f s.app).inFlight.length - s.app.inFlight.length) none }

/-- `onChanged: stylist.isLoadingStatus ? null : (val) => stylist.toggleAvailability(val)`. -/
def onChanged (value : Bool) (s : StylistDashboard) : StylistDashboard :=
  if s.app.stylist.isLoadingStatus then s else s.act (·.toggleAvailability value)

/-- `stylist.loadStylistStatus(auth.user?['id'])`; the other two loads that `_refresh`
starts are about other fields. -/
def refresh (s : StylistDashboard) : StylistDashboard :=
  match s.app.auth.userId with
  | none => s
  | some userId => s.act (·.loadStylistStatus userId)

/-- The request at place `i`, if it waits for the server. -/
def waiting (i : Nat) (s : StylistDashboard) : Option Call :=
  match s.replies[i]? with
  | some none => s.app.inFlight[i]?
  | _ => none

def serve (php : Platform) (i : Nat) (clock : Clock) (salt : Nat) (s : StylistDashboard) :
    StylistDashboard :=
  match s.waiting i with
  | none => s
  | some call =>
    let outcome := Source.serve php ⟨clock, salt, call.request⟩ s.db
    { s with replies := s.replies.set i (some outcome.response.reply), db := outcome.db }

def refuse (i statusCode : Nat) (body : Option Json) (s : StylistDashboard) : StylistDashboard :=
  match s.waiting i with
  | none => s
  | some _ => { s with replies := s.replies.set i (some (.response statusCode body)) }

/-- The reply at place `i` arrives, if there is one. -/
def arrive (i : Nat) (s : StylistDashboard) : StylistDashboard :=
  match s.replies[i]? with
  | some (some reply) =>
    { s with app := s.app.arrive i reply, replies := s.replies.eraseIdx i, completed := true }
  | _ => s

def step (php : Platform) (e : DashboardEvent) (s : StylistDashboard) : StylistDashboard :=
  match e with
  | .toggle value => s.onChanged value
  | .refresh => s.refresh
  | .serve i clock salt => s.serve php i clock salt
  | .refuse i statusCode body _ => s.refuse i statusCode body
  | .arrive i => s.arrive i

end StylistDashboard

section Specs

theorem Val.toMap_eq (entries : List (String × Val)) :
    Val.toMap entries = entries.map fun p => (p.1, p.2.toJson) := by
  induction entries with
  | nil => rfl
  | cons p entries ih => rw [Val.toMap, ih, List.map_cons]

theorem isJsonList_list (vs : List Val) :
    isJsonList (vs.zipIdx.map fun (v, i) => (toString i, v)) = true := by
  refine List.all_eq_true.mpr fun ⟨p, i⟩ member => ?_
  have here := List.mk_mem_zipIdx_iff_getElem?.mp member
  rw [List.getElem?_map, List.getElem?_zipIdx] at here
  obtain ⟨⟨v, j⟩, found, rfl⟩ := Option.map_eq_some_iff.mp here
  obtain ⟨w, -, same⟩ := Option.map_eq_some_iff.mp found
  obtain ⟨-, rfl⟩ := Prod.mk.inj same
  simp

theorem Val.toJson_list (vs : List Val) : (Val.list vs).toJson = .list (vs.map Val.toJson) := by
  rw [Val.list, Val.toJson, if_pos (isJsonList_list vs), Val.toMap_eq, List.map_map, List.map_map]
  refine congrArg Json.list ?_
  calc vs.zipIdx.map _ = (vs.zipIdx.map Prod.fst).map Val.toJson := by rw [List.map_map]; rfl
    _ = vs.map Val.toJson := by rw [List.zipIdx_map_fst]

/-- The request of `toggleAvailability`. -/
def toggleCall (token : String) (value : Bool) : Call :=
  ⟨"staff_update_status", some token, some [("status", .str (if value then "available" else "off"))],
    .availability value⟩

/-- The request of `loadStylistStatus`. -/
def statusCall (userId : Option Int) : Call := ⟨"staff", none, none, .stylistStatus userId⟩

namespace StylistDashboard

variable {s : StylistDashboard} {token : String}

/-- A method that sends one request. -/
theorem act_send {f : MobileApp → MobileApp} {app : MobileApp} {call : Call}
    (sends : f s.app = app.send call) (same : app.inFlight = s.app.inFlight) :
    s.act f = { s with app := app.send call, replies := s.replies ++ [none] } := by
  have one : (app.send call).inFlight.length - s.app.inFlight.length = 1 := by
    simp [MobileApp.send, same]
  rw [act, sends, one]
  rfl

theorem onChanged_free (held : s.app.stylist.authToken = some token)
    (free : s.app.stylist.isLoadingStatus = false) (value : Bool) :
    s.onChanged value =
      { s with
        app := (s.app.withStylist fun p =>
          { p with isAvailable := value, isLoadingStatus := true }).send (toggleCall token value)
        replies := s.replies ++ [none] } := by
  rw [onChanged, free, if_neg Bool.false_ne_true]
  refine act_send ?_ rfl
  simp only [MobileApp.toggleAvailability, MobileApp.request, held]
  rfl

theorem refresh_eq (held : s.app.stylist.authToken = some token) {userId : Option Int}
    (user : s.app.auth.userId = some userId) :
    s.refresh =
      { s with
        app := (s.app.withStylist fun p => { p with isLoadingStatus := true }).send
          (statusCall userId)
        replies := s.replies ++ [none] } := by
  rw [refresh, user]
  refine act_send ?_ rfl
  simp only [MobileApp.loadStylistStatus, MobileApp.request, held]
  rfl

end StylistDashboard

namespace StylistProvider

/-- `firstWhere` over entries that are maps. -/
theorem findMe_map {α : Type} (userId : Option Int) (entries : α → JsonMap) (rows : List α) :
    findMe userId (rows.map fun r => .map (entries r)) =
      some ((rows.find? fun r => (Json.get (entries r) "user_id").sameText userId).map entries) := by
  induction rows with
  | nil => rfl
  | cons r rows ih =>
    rw [List.map_cons, findMe, List.find?_cons, ih]
    cases (Json.get (entries r) "user_id").sameText userId <;> rfl

end StylistProvider

/-- A row of the staff list as the app reads it. -/
def Staff.listed (s : Row Staff) : JsonMap := Val.toMap
  [("id", .int s.id), ("user_id", .ofId s.cols.userId), ("name", .str s.cols.name),
    ("role", .str s.cols.role), ("specializations", .str s.cols.specializations),
    ("status", .str s.cols.status)]

theorem Staff.toJson_entry (s : Row Staff) : (Staff.entry s).toJson = .map (listed s) := rfl

theorem Staff.sameText_listed (userId : Nat) (s : Row Staff) :
    (Json.get (listed s) "user_id").sameText (some userId) = decide (s.cols.userId = some userId) := by
  have column : Json.get (listed s) "user_id" = (Val.ofId s.cols.userId).toJson := rfl
  rw [column]
  cases s.cols.userId with
  | none => simp [Val.ofId, Val.toJson, Json.sameText]
  | some u => simp [Val.ofId, Val.toJson, Json.sameText]

/-- The status that `loadStylistStatus` reads off the public staff list. -/
theorem ownStatus_getAll {db : Db} {userId : Nat} {r : Row Staff} (member : r ∈ db.staff.rows)
    (own : r.cols.userId = some userId)
    (unique : ∀ t ∈ db.staff.rows, t.cols.userId = some userId → t = r) :
    StylistProvider.ownStatus (some userId)
        (Response.mk 200 (some (.list (Staff.getAll db)))).reply =
      some (decide (r.cols.status = "available")) := by
  have found : (orderBy (compareOn fun s => s.cols.name) db.staff.rows).find? (fun s =>
      (Json.get (Staff.listed s) "user_id").sameText (some userId)) = some r := by
    refine find?_eq_of_unique (mem_orderBy.mpr member) ?_ fun t tMember tOwn => ?_
    · simpa [Staff.sameText_listed] using own
    · exact unique t (mem_orderBy.mp tMember) (by simpa [Staff.sameText_listed] using tOwn)
  have list : (Response.mk 200 (some (.list (Staff.getAll db)))).reply =
      .response 200 (some (.list ((orderBy (compareOn fun s => s.cols.name) db.staff.rows).map
        fun s => .map (Staff.listed s)))) := by
    rw [Response.reply, Option.map_some, Val.toJson_list, Staff.getAll, List.map_map]
    exact congrArg (fun items => Reply.response 200 (some (.list items)))
      (List.map_congr_left fun s _ => Staff.toJson_entry s)
  have me := StylistProvider.findMe_map (some (userId : Int)) Staff.listed
    (orderBy (compareOn fun s => s.cols.name) db.staff.rows)
  rw [found] at me
  simp only [list, StylistProvider.ownStatus, Reply.found, if_true, Option.bind_some, Json.toList, me,
    Option.map_some]
  rfl

end Specs

end Saloon.Source
