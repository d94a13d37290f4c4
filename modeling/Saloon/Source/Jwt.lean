import Mathlib.Data.List.Basic
import Saloon.Lib.Base64
import Saloon.Source.Session

/-!
# Tokens and the authentication middleware

`core/JWT.php:7-54` and `middlewares/AuthMiddleware.php:6-53`. Headers and tokens are
byte strings; a token is `header.payload.signature` in base64url.
-/
namespace Saloon.Source

open Lib

inductive Role where
  | admin
  | receptionist
  | stylist
  deriving DecidableEq

def Role.name : Role → String
  | .admin => "admin"
  | .receptionist => "receptionist"
  | .stylist => "stylist"

def space : UInt8 := 32

def dot : UInt8 := 46

/-- `str_replace` of one byte. -/
def replaceByte (c : UInt8) (new : Bytes) (data : Bytes) : Bytes :=
  data.flatMap fun x => if x = c then new else [x]

/-- `$v[$k] = $w` on an array. -/
def Val.put (v : Val) (k : String) (w : Val) : Val :=
  match v with
  | .arr entries =>
    if entries.any fun p => p.1 = k then
      .arr (entries.map fun p => if p.1 = k then (k, w) else p)
    else .arr (entries ++ [(k, w)])
  | other => other

/-- `$m + $n` on integers: a sum past 64 bits is a float. -/
def intSum (m n : Int) : Val :=
  if clamp64 (m + n) = m + n then .int (m + n) else .float (m + n)

namespace JWT

def base64UrlEncode (data : Bytes) : Bytes :=
  replaceByte 61 [] (replaceByte 47 [95] (replaceByte 43 [45] (Base64.encode data)))

def base64UrlDecode (data : Bytes) : Bytes :=
  let remainder := data.length % 4
  let data := if remainder ≠ 0 then data ++ List.replicate (4 - remainder) 61 else data
  Base64.decode (replaceByte 95 [47] (replaceByte 45 [43] data))

def header : Val := .arr [("alg", .str "HS256"), ("typ", .str "JWT")]

/-- The two parts that are signed, joined by the dot. -/
def signingInput (header payload : Bytes) : Bytes := header ++ dot :: payload

/-- What `encode` makes of the payload that it is given. -/
def stamped (clock : Clock) (payload : Val) (exp : Int) : Val :=
  payload.put "exp" (intSum clock.time exp)

/-- The signed text of the token for a payload. -/
def message (php : Platform) (clock : Clock) (payload : Val) (exp : Int) : Bytes :=
  signingInput (base64UrlEncode (php.jsonEncode header))
    (base64UrlEncode (php.jsonEncode (stamped clock payload exp)))

def token (php : Platform) (signed : Bytes) : Bytes :=
  signed ++ dot :: base64UrlEncode (php.hmac signed)

/-- The session records what was signed. -/
def encode (php : Platform) (clock : Clock) (payload : Val) (exp : Int) : Php Bytes := fun s =>
  let signed := message php clock payload exp
  (.ok (token php signed), { s with signed := signed :: s.signed })

/-- `isset($payload['exp']) && $payload['exp'] < time()`. -/
def expired (clock : Clock) (payload : Val) : Bool :=
  match payload.field "exp" with
  | .null => false
  | exp => exp.ltInt clock.time

def decode (php : Platform) (clock : Clock) (token : Bytes) : Val :=
  match token.splitOn dot with
  | [header, payload, signature] =>
    if base64UrlDecode signature = php.hmac (signingInput header payload) then
      let payload := php.jsonDecode (base64UrlDecode payload)
      if expired clock payload then .null else payload
    else .null
  | _ => .null

section Specs

/-! What the encoding lets through: no dot, and every byte back. -/

/-- The alphabet of a token: dash and underscore stand for plus and slash. -/
def urlDigit (n : Nat) : UInt8 := if n = 62 then 45 else if n = 63 then 95 else Base64.digit n

/-- What the three replacements of the encoder make of one byte. -/
def urlByte (c : UInt8) : Bytes :=
  if c = 43 then [45] else if c = 47 then [95] else if c = 61 then [] else [c]

theorem replaceByte_eq_map (c d : UInt8) (data : Bytes) :
    replaceByte c [d] data = data.map fun x => if x = c then d else x := by
  induction data with
  | nil => rfl
  | cons x data ih =>
    rw [List.map_cons, ← ih, replaceByte, replaceByte, List.flatMap_cons]
    split <;> rfl

theorem replacements_eq (data : Bytes) :
    replaceByte 61 [] (replaceByte 47 [95] (replaceByte 43 [45] data)) = data.flatMap urlByte := by
  rw [replaceByte, replaceByte, replaceByte, List.flatMap_assoc, List.flatMap_assoc]
  refine List.flatMap_congr fun c _ => ?_
  unfold urlByte
  split
  · simp
  · split
    · simp [*]
    · simp [*]

theorem urlByte_digit : ∀ n < 64, urlByte (Base64.digit n) = [urlDigit n] := by decide

theorem base64UrlEncode_eq (data : Bytes) :
    base64UrlEncode data = (Base64.toSextets data).map urlDigit := by
  have letters : ((Base64.toSextets data).map Base64.digit).flatMap urlByte =
      (Base64.toSextets data).map urlDigit := by
    rw [List.flatMap_map, List.map_eq_flatMap]
    exact List.flatMap_congr fun n member => urlByte_digit n (Base64.toSextets_lt data n member)
  have padding : (Base64.padding data).flatMap urlByte = [] := by
    rw [List.flatMap_eq_nil_iff]
    intro c member
    rw [List.eq_of_mem_replicate member]
    decide
  rw [base64UrlEncode, replacements_eq, Base64.encode, List.flatMap_append, letters, padding,
    List.append_nil]

theorem notMem_base64UrlEncode {c : UInt8} (none : ∀ n < 64, urlDigit n ≠ c) (data : Bytes) :
    c ∉ base64UrlEncode data := by
  rw [base64UrlEncode_eq, List.mem_map]
  rintro ⟨n, member, same⟩
  exact none n (Base64.toSextets_lt data n member) same

theorem dot_notMem_base64UrlEncode (data : Bytes) : dot ∉ base64UrlEncode data :=
  notMem_base64UrlEncode (by decide) data

/-- What one byte of a segment says to the decoder: a letter of either alphabet, or nothing. -/
def letter? (c : UInt8) : Option Nat :=
  if c = 45 then some 62 else if c = 95 then some 63 else Base64.value? c

def letters (text : Bytes) : List Nat := text.filterMap letter?

theorem letters_lt (text : Bytes) : ∀ n ∈ letters text, n < 64 := by
  have small : ∀ c : UInt8, ∀ n, letter? c = some n → n < 64 := by
    rintro c n read
    unfold letter? Base64.value? at read
    grind
  intro n member
  obtain ⟨c, -, read⟩ := List.mem_filterMap.mp member
  exact small c n read

/-- The added padding says nothing, and the replacements only join the two alphabets. -/
theorem base64UrlDecode_eq (data : Bytes) :
    base64UrlDecode data = Base64.ofSextets (letters data) := by
  have replaced (text : Bytes) :
      Base64.decode (replaceByte 95 [47] (replaceByte 45 [43] text)) =
        Base64.ofSextets (letters text) := by
    rw [replaceByte_eq_map, replaceByte_eq_map, Base64.decode, List.filterMap_map,
      List.filterMap_map, letters]
    refine congrArg Base64.ofSextets (List.filterMap_congr fun c _ => ?_)
    simp only [Function.comp_apply, letter?]
    split
    · rfl
    · split
      · rfl
      · rfl
  have padding (k : Nat) : letters (data ++ List.replicate k 61) = letters data := by
    have nothing : letters (List.replicate k 61) = [] := by
      refine List.filterMap_eq_nil_iff.mpr fun c member => ?_
      rw [List.eq_of_mem_replicate member]
      rfl
    exact (List.filterMap_append ..).trans (by rw [← letters, ← letters, nothing, List.append_nil])
  unfold base64UrlDecode
  dsimp only
  split
  · rw [replaced, padding]
  · exact replaced data

theorem letter?_urlDigit : ∀ n < 64, letter? (urlDigit n) = some n := by decide

theorem letters_urlDigit {sextets : List Nat} (small : ∀ n ∈ sextets, n < 64) :
    letters (sextets.map urlDigit) = sextets := by
  rw [letters, List.filterMap_map]
  conv_rhs => rw [← List.filterMap_some (l := sextets)]
  exact List.filterMap_congr fun n member => letter?_urlDigit n (small n member)

theorem base64UrlDecode_base64UrlEncode (data : Bytes) :
    base64UrlDecode (base64UrlEncode data) = data := by
  rw [base64UrlDecode_eq, base64UrlEncode_eq, letters_urlDigit (Base64.toSextets_lt data),
    Base64.ofSextets_toSextets]

/-- A signed text has one reading: neither part of what the server signs holds a dot. -/
theorem signingInput_inj {header payload first second : Bytes}
    (same : signingInput header payload =
      signingInput (base64UrlEncode first) (base64UrlEncode second)) :
    header = base64UrlEncode first ∧ payload = base64UrlEncode second := by
  have parts := (List.append_cons_inj_of_notMem (dot_notMem_base64UrlEncode first)
    (dot_notMem_base64UrlEncode second)).mp same.symm
  exact ⟨parts.1.symm, parts.2.2.symm⟩

/-- Three segments as `decode` expects them. -/
def joined (header payload signature : Bytes) : Bytes :=
  signingInput header payload ++ dot :: signature

theorem splitOn_joined {header payload : Bytes} (dotless : dot ∉ header) (dotless' : dot ∉ payload)
    (signature : Bytes) :
    (joined header payload signature).splitOn dot = header :: payload :: signature.splitOn dot := by
  rw [joined, signingInput, List.append_assoc, List.cons_append,
    List.splitOn_append_cons_self_of_not_mem dotless,
    List.splitOn_append_cons_self_of_not_mem dotless']

/-- An issued token splits into the parts it was made of. -/
theorem splitOn_token (php : Platform) (first second : Bytes) :
    (token php (signingInput (base64UrlEncode first) (base64UrlEncode second))).splitOn dot =
      [base64UrlEncode first, base64UrlEncode second, base64UrlEncode (php.hmac
        (signingInput (base64UrlEncode first) (base64UrlEncode second)))] := by
  have split := splitOn_joined (dot_notMem_base64UrlEncode first)
    (dot_notMem_base64UrlEncode second)
    (base64UrlEncode (php.hmac (signingInput (base64UrlEncode first) (base64UrlEncode second))))
  rwa [List.splitOn_eq_singleton (dot_notMem_base64UrlEncode _)] at split

/-- What a token that decodes to something shows: a verified signature, and a payload
that has not expired. -/
theorem decode_eq {php : Platform} {clock : Clock} {token : Bytes} {payload : Val}
    (decoded : decode php clock token = payload) (present : payload.truthy = true) :
    ∃ header body signature, token.splitOn dot = [header, body, signature] ∧
      base64UrlDecode signature = php.hmac (signingInput header body) ∧
      php.jsonDecode (base64UrlDecode body) = payload ∧ expired clock payload = false := by
  unfold decode at decoded
  split at decoded
  · rename_i header body signature parts
    split at decoded
    · rename_i verified
      dsimp only at decoded
      split at decoded
      · subst decoded
        cases present
      · rename_i fresh
        subst decoded
        exact ⟨header, body, signature, parts, verified, rfl, by simpa using fresh⟩
    · subst decoded
      cases present
  · subst decoded
    cases present

end Specs

end JWT

/-- Where PHP finds the Authorization header of a request. -/
structure Headers where
  /-- `getallheaders()['Authorization']` -/
  authorization : Option Bytes
  /-- `getallheaders()['authorization']` -/
  lowercase : Option Bytes
  /-- `$_SERVER['HTTP_AUTHORIZATION']` -/
  server : Option Bytes
  /-- `$_SERVER['REDIRECT_HTTP_AUTHORIZATION']` -/
  redirect : Option Bytes

/-- `empty($s)`: the empty string and "0". -/
def emptyBytes (b : Bytes) : Bool := b = [] || b = [48]

def Headers.authHeader (h : Headers) : Bytes :=
  let first := (h.authorization <|> h.lowercase).getD []
  let second := if emptyBytes first then h.server.getD first else first
  if emptyBytes second then h.redirect.getD second else second

def strtolower (b : Bytes) : Bytes := b.map fun c => if 65 ≤ c ∧ c ≤ 90 then c + 32 else c

def errorBody (message : String) : Val := .arr [("error", .str message)]

variable {α : Type}

/-- `Controller::json`: the response, and the end of the request. -/
def json (data : Val) (status : Nat) : Php α := .stop (.exit ⟨status, some data⟩)

/-- The role a payload claims is one that the middleware takes for `r`. -/
def grants (payload : Val) (r : Role) : Bool :=
  (payload.fieldOr "role" (.str "")).looseEq r.name

namespace AuthMiddleware

/-- `handle` up to its outcome: the payload, or the refusal. -/
def ruling (php : Platform) (clock : Clock) (headers : Headers) (allowedRoles : List String) :
    Except Response Val :=
  if emptyBytes headers.authHeader then
    .error ⟨401, some (errorBody "Authorization token is required")⟩
  else
    match headers.authHeader.splitOn space with
    | [scheme, token] =>
      if strtolower scheme = utf8 "bearer" then
        let payload := JWT.decode php clock token
        if payload.empty then .error ⟨401, some (errorBody "Token is invalid or expired")⟩
        else if allowedRoles = [] ||
            (payload.fieldOr "role" (.str "")).inArray allowedRoles then .ok payload
        else .error ⟨403, some (errorBody "Access denied: Insufficient privileges")⟩
      else .error ⟨401, some (errorBody "Invalid token format")⟩
    | _ => .error ⟨401, some (errorBody "Invalid token format")⟩

/-- `ruling` for roles that the repository names. -/
def check (php : Platform) (clock : Clock) (headers : Headers) (allowedRoles : List Role) :
    Except Response Val :=
  ruling php clock headers (allowedRoles.map Role.name)

/-- A refusal ends the request; otherwise the session records who passed. -/
def handle (php : Platform) (clock : Clock) (headers : Headers) (allowedRoles : List String) :
    Php Val := fun s =>
  match ruling php clock headers allowedRoles with
  | .error response => (.error (.exit response), s)
  | .ok payload => (.ok payload, { s with user := some payload })

/-- The token of a header that names the bearer scheme. -/
def Bears (headers : Headers) (token : Bytes) : Prop :=
  ∃ scheme, headers.authHeader.splitOn space = [scheme, token] ∧
    strtolower scheme = utf8 "bearer"

theorem check_eq_ok {php : Platform} {clock : Clock} {headers : Headers}
    {allowedRoles : List Role} {payload : Val}
    (passed : check php clock headers allowedRoles = .ok payload) :
    (∃ token, Bears headers token ∧ JWT.decode php clock token = payload) ∧
      payload.truthy = true ∧
      (allowedRoles ≠ [] → ∃ r ∈ allowedRoles, grants payload r = true) := by
  rw [check, ruling] at passed
  split at passed
  · cases passed
  · split at passed
    · rename_i scheme token parts
      split at passed
      · rename_i bearer
        dsimp only at passed
        split at passed
        · cases passed
        · rename_i present
          split at passed
          · rename_i allowed
            cases passed
            refine ⟨⟨token, ⟨scheme, parts, bearer⟩, rfl⟩, by simpa [Val.empty] using present, ?_⟩
            intro some
            simpa [some, grants, Val.inArray] using allowed
          · cases passed
      · cases passed
    · cases passed

end AuthMiddleware

end Saloon.Source
