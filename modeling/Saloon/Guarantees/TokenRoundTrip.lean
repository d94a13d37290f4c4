import Saloon.Guarantees.Authentication

/-!
# The round trip of a token

What `encode` issues, the middleware reads back until the second it expires at.
No segment of a token holds what the header and the token are split by, and the
expiry is the one key that `encode` sets.
-/
namespace Saloon.Guarantees

open Lib Source

section Payloads

variable {entries : List (String × Val)} {k other : String} {w : Val}

theorem lookup_replace_self (present : entries.any (fun p => p.1 = k) = true) :
    (entries.map fun p => if p.1 = k then (k, w) else p).lookup k = some w := by
  induction entries with
  | nil => cases present
  | cons p entries ih =>
    rw [List.map_cons]
    by_cases named : p.1 = k
    · rw [if_pos named, List.lookup_cons_self]
    · rw [if_neg named, List.lookup_cons, beq_eq_false_iff_ne.mpr (Ne.symm named)]
      exact ih (by simpa [named] using present)

theorem lookup_replace_other (different : other ≠ k) :
    (entries.map fun p => if p.1 = k then (k, w) else p).lookup other = entries.lookup other := by
  induction entries with
  | nil => rfl
  | cons p entries ih =>
    rw [List.map_cons, List.lookup_cons, List.lookup_cons, ih]
    by_cases named : p.1 = k
    · rw [if_pos named, named, beq_eq_false_iff_ne.mpr different]
    · rw [if_neg named]

theorem field_put_self : ((Val.arr entries).put k w).field k = w := by
  rw [Val.put]
  split
  · rename_i present
    rw [Val.field, lookup_replace_self present]
    rfl
  · rename_i absent
    have none : entries.lookup k = none := by
      refine List.lookup_eq_none_iff.mpr fun p member => ?_
      have different : ¬ p.1 = k := fun named =>
        absent (List.any_eq_true.mpr ⟨p, member, by simp [named]⟩)
      simp [Ne.symm different]
    rw [Val.field, List.lookup_append, none, Option.none_or, List.lookup_cons_self]
    rfl

theorem field_put_other (different : other ≠ k) :
    ((Val.arr entries).put k w).field other = (Val.arr entries).field other := by
  rw [Val.put]
  split
  · rw [Val.field, Val.field, lookup_replace_other different]
  · rw [Val.field, Val.field, List.lookup_append, List.lookup_cons,
      beq_eq_false_iff_ne.mpr different, List.lookup_nil, Option.or_none]

theorem put_truthy : ((Val.arr entries).put k w).truthy = true := by
  rw [Val.put]
  split
  · rename_i present
    cases entries with
    | nil => cases present
    | cons p entries => rfl
  · cases entries <;> rfl

end Payloads

section Tokens

variable {php : Platform} {issued clock : Clock} {entries : List (String × Val)} {lifetime : Int}

theorem ltInt_intSum (m n t : Int) : (intSum m n).ltInt t = decide (m + n < t) := by
  unfold intSum
  split
  · rfl
  · simp only [Val.ltInt]
    norm_cast

theorem intSum_ne_null (m n : Int) : intSum m n ≠ .null := by
  unfold intSum
  split <;> simp

/-- A token expires in the second after its lifetime, and not before. -/
theorem expired_stamped :
    JWT.expired clock (JWT.stamped issued (.arr entries) lifetime) =
      decide (issued.time + lifetime < clock.time) := by
  rw [JWT.expired, JWT.stamped, field_put_self]
  split
  · rename_i null
    exact absurd null (intSum_ne_null _ _)
  · exact ltInt_intSum _ _ _

theorem decode_token
    (json : php.jsonDecode (php.jsonEncode (JWT.stamped issued (.arr entries) lifetime)) =
      JWT.stamped issued (.arr entries) lifetime) :
    JWT.decode php clock (JWT.token php (JWT.message php issued (.arr entries) lifetime)) =
      if issued.time + lifetime < clock.time then .null
      else JWT.stamped issued (.arr entries) lifetime := by
  rw [JWT.decode, JWT.message, JWT.splitOn_token]
  dsimp only
  rw [if_pos (JWT.base64UrlDecode_base64UrlEncode _), JWT.base64UrlDecode_base64UrlEncode, json,
    expired_stamped]
  simp only [decide_eq_true_eq]

theorem space_notMem_token (payload : Val) :
    space ∉ JWT.token php (JWT.message php issued payload lifetime) := by
  have none : ∀ data, space ∉ JWT.base64UrlEncode data := JWT.notMem_base64UrlEncode (by decide)
  have undotted : space ≠ dot := by decide
  simp [JWT.token, JWT.message, JWT.signingInput, none, undotted]

/-- The middleware, for a header that bears a token. -/
theorem ruling_bearer (php : Platform) (clock : Clock) (roles : List String) {headers : Headers}
    {token : Bytes} (bears : headers.authHeader = utf8 "Bearer " ++ token) (whole : space ∉ token) :
    AuthMiddleware.ruling php clock headers roles =
      if (JWT.decode php clock token).empty then
        .error ⟨401, some (errorBody "Token is invalid or expired")⟩
      else if roles = [] || ((JWT.decode php clock token).fieldOr "role" (.str "")).inArray roles then
        .ok (JWT.decode php clock token)
      else .error ⟨403, some (errorBody "Access denied: Insufficient privileges")⟩ := by
  have scheme : utf8 "Bearer " ++ token = utf8 "Bearer" ++ space :: token := by
    rw [show utf8 "Bearer " = utf8 "Bearer" ++ [space] from by decide, List.append_assoc]
    rfl
  have given : emptyBytes (utf8 "Bearer" ++ space :: token) = false := rfl
  have lower : strtolower (utf8 "Bearer") = utf8 "bearer" := by decide
  rw [AuthMiddleware.ruling, bears, scheme, given, if_neg Bool.false_ne_true,
    List.splitOn_append_cons_self_of_not_mem (by decide), List.splitOn_eq_singleton whole]
  dsimp only
  rw [if_pos lower]

theorem looseEq_self (role : String) : (Val.str role).looseEq role = true := by
  dsimp only [Val.looseEq]
  cases Numeral.whole role.toList <;> simp

end Tokens

/-- A payload that JSON gives back, encoded for any lifetime, comes back from the middleware
with its expiry until that has passed, for every list of roles that is empty or has its own;
after that it is refused as expired. The encoding of every byte string decodes to it, and
has none of the bytes that the headers and tokens are split by or that URLs change. -/
theorem token_round_trip {php : Platform} {issued : Clock} {entries : List (String × Val)}
    {lifetime : Int}
    (json : php.jsonDecode (php.jsonEncode (JWT.stamped issued (.arr entries) lifetime)) =
      JWT.stamped issued (.arr entries) lifetime) :
    (∃ token, (∀ s, (JWT.encode php issued (.arr entries) lifetime s).1 = .ok token) ∧
      ∀ clock headers roles s, headers.authHeader = utf8 "Bearer " ++ token →
        (clock.time ≤ issued.time + lifetime →
          (roles = [] ∨ ∃ role ∈ roles,
            (Val.arr entries).fieldOr "role" (.str "") = .str role) →
          AuthMiddleware.handle php clock headers roles s =
            (.ok ((Val.arr entries).put "exp" (intSum issued.time lifetime)),
              { s with user := some ((Val.arr entries).put "exp" (intSum issued.time lifetime)) })) ∧
        (issued.time + lifetime < clock.time →
          AuthMiddleware.handle php clock headers roles s =
            (.error (.exit ⟨401, some (errorBody "Token is invalid or expired")⟩), s))) ∧
    ∀ data, JWT.base64UrlDecode (JWT.base64UrlEncode data) = data ∧
      ∀ c ∈ utf8 ". +/=", c ∉ JWT.base64UrlEncode data := by
  refine ⟨⟨_, fun s => rfl, fun clock headers roles s bears => ?_⟩, fun data =>
    ⟨JWT.base64UrlDecode_base64UrlEncode data, fun c member => ?_⟩⟩
  · have ruling := ruling_bearer php clock roles bears (space_notMem_token _)
    rw [decode_token json] at ruling
    constructor
    · intro alive listed
      have present : (JWT.stamped issued (.arr entries) lifetime).empty = false := by
        rw [Val.empty, JWT.stamped, put_truthy]
        rfl
      have role : (JWT.stamped issued (.arr entries) lifetime).fieldOr "role" (.str "") =
          (Val.arr entries).fieldOr "role" (.str "") := by
        rw [Val.fieldOr, Val.fieldOr, JWT.stamped, field_put_other (by decide)]
      have allowed : (roles = [] || ((Val.arr entries).fieldOr "role" (.str "")).inArray roles) =
          true := by
        rcases listed with rfl | ⟨name, member, own⟩
        · rfl
        · rw [own, Bool.or_eq_true]
          exact .inr (List.any_eq_true.mpr ⟨name, member, looseEq_self name⟩)
      rw [if_neg (not_lt.mpr alive), present, role, allowed] at ruling
      rw [AuthMiddleware.handle, ruling]
      rfl
    · intro late
      rw [if_pos late] at ruling
      rw [AuthMiddleware.handle, ruling]
      rfl
  · have letters : ∀ c ∈ utf8 ". +/=", ∀ n < 64, JWT.urlDigit n ≠ c := by decide +kernel
    exact JWT.notMem_base64UrlEncode (letters c member) data

/-- What the administrator's login encodes. -/
def adminClaims : List (String × Val) :=
  [("id", .int 1), ("username", .str "admin"), ("role", .str "admin"),
    ("name", .str "System Administrator")]

theorem admin_round_trip : ∃ token,
    (JWT.encode recorded morning (.arr adminClaims) lifetime (.start morningDb)).1 = .ok token ∧
      (AuthMiddleware.handle recorded morning ⟨some (utf8 "Bearer " ++ token), none, none, none⟩
        ["admin"] (.start morningDb)).1 =
          .ok ((Val.arr adminClaims).put "exp" (intSum morning.time lifetime)) := by
  have json : recorded.jsonDecode (recorded.jsonEncode
      (JWT.stamped morning (.arr adminClaims) lifetime)) =
        JWT.stamped morning (.arr adminClaims) lifetime := rfl
  obtain ⟨token, issued, reads⟩ := (token_round_trip json).1
  have passes := (reads morning ⟨some (utf8 "Bearer " ++ token), none, none, none⟩ ["admin"]
    (.start morningDb) rfl).1 (by decide) (.inr ⟨"admin", by simp, rfl⟩)
  exact ⟨token, issued _, congrArg Prod.fst passes⟩

end Saloon.Guarantees
