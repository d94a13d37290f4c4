import Saloon.Guarantees.Serving

/-!
# The spellings of a signature

`JWT::decode` compares the bytes that a signature segment decodes to, not the
segment. So a token is not canonical: the segments that it takes for one header
and payload are those whose letters spell the HMAC, and the encoder's is one of
them, the only one that is written as the encoder writes.
-/
namespace Saloon.Guarantees

open Lib Source

/-- The token decodes to something at some time. -/
def Decodes (php : Platform) (token : Bytes) : Prop := ∃ clock, JWT.decode php clock token ≠ .null

/-- The letters of the URL alphabet alone, and no bits over but zeros that fill the last. -/
def Written (text bytes : Bytes) : Prop :=
  (∀ c ∈ text, ∃ n < 64, JWT.urlDigit n = c) ∧ Base64.Tight (JWT.letters text) bytes

section Spelling

variable {text bytes : Bytes}

theorem base64UrlDecode_eq_iff :
    JWT.base64UrlDecode text = bytes ↔ Base64.Spells (JWT.letters text) bytes := by
  rw [JWT.base64UrlDecode_eq, Base64.ofSextets_eq_iff (JWT.letters_lt text)]

theorem map_letters (alphabet : ∀ c ∈ text, ∃ n < 64, JWT.urlDigit n = c) :
    (JWT.letters text).map JWT.urlDigit = text := by
  induction text with
  | nil => rfl
  | cons c text ih =>
    rw [List.forall_mem_cons] at alphabet
    obtain ⟨⟨n, small, rfl⟩, rest⟩ := alphabet
    rw [JWT.letters, List.filterMap_cons_some (JWT.letter?_urlDigit n small), List.map_cons]
    exact congrArg _ (ih rest)

/-- The encoder's spelling is the only one that is written as it writes. -/
theorem written_iff : Written text bytes ↔ text = JWT.base64UrlEncode bytes := by
  rw [JWT.base64UrlEncode_eq]
  constructor
  · rintro ⟨alphabet, tight⟩
    rw [← (Base64.tight_iff (JWT.letters_lt text)).mp tight, map_letters alphabet]
  · rintro rfl
    have small := Base64.toSextets_lt bytes
    refine ⟨fun c member => ?_, ?_⟩
    · obtain ⟨n, letter, same⟩ := List.mem_map.mp member
      exact ⟨n, small n letter, same⟩
    · rw [JWT.letters_urlDigit small]
      exact Base64.tight_toSextets bytes

theorem spells_base64UrlEncode (bytes : Bytes) :
    Base64.Spells (JWT.letters (JWT.base64UrlEncode bytes)) bytes :=
  base64UrlDecode_eq_iff.mp (JWT.base64UrlDecode_base64UrlEncode bytes)

end Spelling

section Segments

variable {php : Platform} {clock : Clock} {header body signature : Bytes}

/-- What `decode` returns once the signature is verified. -/
def reading (php : Platform) (clock : Clock) (body : Bytes) : Val :=
  let payload := php.jsonDecode (JWT.base64UrlDecode body)
  if JWT.expired clock payload then .null else payload

theorem decode_three {token : Bytes} (parts : token.splitOn dot = [header, body, signature]) :
    JWT.decode php clock token =
      if JWT.base64UrlDecode signature = php.hmac (JWT.signingInput header body) then
        reading php clock body
      else .null := by
  rw [JWT.decode, parts]
  rfl

theorem two_le_length_splitOn {segment : Bytes} (dotted : dot ∈ segment) :
    2 ≤ (segment.splitOn dot).length := by
  obtain ⟨before, after, rfl⟩ := List.append_of_mem dotted
  have first := List.length_pos_iff.mpr (List.splitOn_ne_nil dot before)
  have second := List.length_pos_iff.mpr (List.splitOn_ne_nil dot after)
  rw [List.splitOn_append_cons_self, List.length_append]
  omega

/-- A token that decodes to something is three segments without a dot, joined. -/
theorem parts_of_decodes {token : Bytes} (decodes : Decodes php token) :
    ∃ header body signature, token.splitOn dot = [header, body, signature] ∧
      token = JWT.joined header body signature := by
  obtain ⟨clock, present⟩ := decodes
  unfold JWT.decode at present
  split at present
  · rename_i header body signature parts
    refine ⟨header, body, signature, parts, ?_⟩
    have whole : [dot].intercalate (token.splitOn dot) = token := List.intercalate_splitOn dot
    rw [parts] at whole
    rw [← whole, JWT.joined, JWT.signingInput]
    simp
  · exact absurd rfl present

theorem dotless_of_joined (parts : ∃ a b c, (JWT.joined header body signature).splitOn dot =
    [a, b, c]) : dot ∉ header ∧ dot ∉ body ∧ dot ∉ signature := by
  obtain ⟨a, b, c, split⟩ := parts
  have counted := congrArg List.length split
  rw [JWT.joined, JWT.signingInput, List.splitOn_append_cons_self, List.splitOn_append_cons_self,
    List.length_append, List.length_append] at counted
  have one (segment : Bytes) := List.length_pos_iff.mpr (List.splitOn_ne_nil dot segment)
  have := one header
  have := one body
  have := one signature
  have three : [a, b, c].length = 3 := rfl
  refine ⟨fun dotted => ?_, fun dotted => ?_, fun dotted => ?_⟩ <;>
  · have := two_le_length_splitOn dotted
    omega

/-- Which signature segments go with a header and a payload: whether one is accepted at all
is the payload's affair, and which of them is up to their letters. -/
theorem decodes_joined_iff (dotless : dot ∉ header) (dotless' : dot ∉ body) :
    Decodes php (JWT.joined header body signature) ↔
      (dot ∉ signature ∧ Base64.Spells (JWT.letters signature)
        (php.hmac (JWT.signingInput header body))) ∧ ∃ clock, reading php clock body ≠ .null := by
  rw [← base64UrlDecode_eq_iff]
  constructor
  · rintro ⟨clock, present⟩
    obtain ⟨a, b, c, parts, -⟩ := parts_of_decodes ⟨clock, present⟩
    have undotted := (dotless_of_joined ⟨a, b, c, parts⟩).2.2
    have split := JWT.splitOn_joined dotless dotless' signature
    rw [List.splitOn_eq_singleton undotted] at split
    rw [decode_three split] at present
    split at present
    · rename_i verified
      exact ⟨⟨undotted, verified⟩, clock, present⟩
    · exact absurd rfl present
  · rintro ⟨⟨undotted, verified⟩, clock, present⟩
    have split := JWT.splitOn_joined dotless dotless' signature
    rw [List.splitOn_eq_singleton undotted] at split
    exact ⟨clock, by rwa [decode_three split, if_pos verified]⟩

end Segments

/-- An accepted token is three segments; for its header and payload `decode` accepts exactly
the signature segments whose letters spell the HMAC, and of these exactly one is written as
the encoder writes: the encoding of the HMAC. -/
theorem accepted_signatures {php : Platform} {token : Bytes} (decodes : Decodes php token) :
    ∃ header body signature, token.splitOn dot = [header, body, signature] ∧
      token = JWT.joined header body signature ∧
      (∀ other, Decodes php (JWT.joined header body other) ↔
        dot ∉ other ∧ Base64.Spells (JWT.letters other)
          (php.hmac (JWT.signingInput header body))) ∧
      ∀ other, (Decodes php (JWT.joined header body other) ∧
          Written other (php.hmac (JWT.signingInput header body))) ↔
        other = JWT.base64UrlEncode (php.hmac (JWT.signingInput header body)) := by
  obtain ⟨header, body, signature, parts, rfl⟩ := parts_of_decodes decodes
  obtain ⟨dotless, dotless', -⟩ := dotless_of_joined ⟨_, _, _, parts⟩
  have alive := ((decodes_joined_iff dotless dotless').mp decodes).2
  have which (other : Bytes) : Decodes php (JWT.joined header body other) ↔
      dot ∉ other ∧ Base64.Spells (JWT.letters other)
        (php.hmac (JWT.signingInput header body)) := by
    rw [decodes_joined_iff dotless dotless']
    exact ⟨And.left, fun verified => ⟨verified, alive⟩⟩
  refine ⟨header, body, signature, parts, rfl, which, fun other => ?_⟩
  rw [written_iff, which]
  constructor
  · rintro ⟨-, same⟩
    exact same
  · rintro rfl
    exact ⟨⟨JWT.dot_notMem_base64UrlEncode _, spells_base64UrlEncode _⟩, rfl⟩

section Admin

/-- The two segments that the administrator's login signed. -/
def adminHeader : Bytes := utf8 "eyJhbGciOiJIUzI1NiIsInR5cCI6IkpXVCJ9"

def adminBody : Bytes := utf8
  "eyJpZCI6MSwidXNlcm5hbWUiOiJhZG1pbiIsInJvbGUiOiJhZG1pbiIsIm5hbWUiOiJTeXN0ZW0gQWRtaW5pc3RyYXRvciIsImV4cCI6MTc4MTE2NDgwMH0"

/-- The signature segment of the administrator's token. -/
def adminSignature : Bytes := utf8 "jGwblccDPepH5o4lbnnO9UqxfU7-m-K5RK76yxIkh-0"

/-- The same with the padding, with the dash written as a plus, with a byte of no alphabet in
front, and with the two idle bits of the last letter set. -/
def respelled : List Bytes :=
  ["jGwblccDPepH5o4lbnnO9UqxfU7-m-K5RK76yxIkh-0=", "jGwblccDPepH5o4lbnnO9UqxfU7+m-K5RK76yxIkh-0",
    "!jGwblccDPepH5o4lbnnO9UqxfU7-m-K5RK76yxIkh-0",
    "jGwblccDPepH5o4lbnnO9UqxfU7-m-K5RK76yxIkh-3"].map utf8

theorem decodes_of_truthy {php : Platform} (clock : Clock) {token : Bytes}
    (present : (JWT.decode php clock token).truthy = true) : Decodes php token := by
  refine ⟨clock, fun nothing => ?_⟩
  rw [nothing] at present
  cases present

theorem respelled_accepted :
    (adminSignature = JWT.base64UrlEncode (recorded.hmac (JWT.signingInput adminHeader adminBody)) ∧
      Decodes recorded (JWT.joined adminHeader adminBody adminSignature) ∧
      ∀ other ∈ respelled, other ≠ adminSignature ∧
        Decodes recorded (JWT.joined adminHeader adminBody other)) ∧
    ¬ ∀ header body first second, Decodes recorded (JWT.joined header body first) →
      Decodes recorded (JWT.joined header body second) → first = second := by
  have issued : Decodes recorded (JWT.joined adminHeader adminBody adminSignature) :=
    decodes_of_truthy morning (by decide +kernel)
  have spellings : ∀ other ∈ respelled, other ≠ adminSignature ∧
      (JWT.decode recorded morning (JWT.joined adminHeader adminBody other)).truthy = true := by
    decide +kernel
  refine ⟨⟨by decide +kernel, issued, fun other member =>
    ⟨(spellings other member).1, decodes_of_truthy morning (spellings other member).2⟩⟩,
    fun unique => ?_⟩
  obtain ⟨different, present⟩ := spellings (utf8 "jGwblccDPepH5o4lbnnO9UqxfU7-m-K5RK76yxIkh-0=")
    (by decide)
  exact different (unique adminHeader adminBody _ _ (decodes_of_truthy morning present) issued)

theorem admin_signatures : ∃ header body signature,
    (JWT.token recorded adminMessage).splitOn dot = [header, body, signature] ∧
      ∀ other, (Decodes recorded (JWT.joined header body other) ∧
          Written other (recorded.hmac (JWT.signingInput header body))) ↔
        other = JWT.base64UrlEncode (recorded.hmac (JWT.signingInput header body)) := by
  obtain ⟨header, body, signature, parts, -, -, encoder⟩ :=
    @accepted_signatures recorded (JWT.token recorded adminMessage)
      (decodes_of_truthy morning (by decide +kernel))
  exact ⟨header, body, signature, parts, encoder⟩

end Admin

end Saloon.Guarantees
