import Mathlib.Data.Nat.Log
import Mathlib.Data.Rat.Floor
import Saloon.Lib.Numeral

/-!
# PHP values, conversions and the clock

The request bodies, the token payloads and the responses are PHP values as
`json_decode(…, true)` makes them (`controllers/Controller.php:5-13`,
`core/JWT.php:19-54`): scalars, and arrays keyed by text (a JSON
list has the keys "0", "1", …). Floats are exact rationals. The conversions
follow PHP 8.2 on 64-bit integers.
-/
namespace Saloon.Source

open Lib

abbrev Bytes : Type := List UInt8

def utf8 (s : String) : Bytes := s.toUTF8.data.toList

/-- The text of bytes that are all one-byte characters. -/
def ofAscii (b : Bytes) : String := String.ofList (b.map fun u => Char.ofNat u.toNat)

inductive Val where
  | null
  | bool (b : Bool)
  | int (n : Int)
  | float (q : Rat)
  | str (s : String)
  | arr (entries : List (String × Val))

def wrap64 (n : Int) : Int := (n + 2 ^ 63) % 2 ^ 64 - 2 ^ 63

def clamp64 (n : Int) : Int := max (-2 ^ 63) (min n (2 ^ 63 - 1))

def truncate (q : Rat) : Int := q.num.tdiv q.den

def roundHalfEven (q : Rat) : Int :=
  let below := q.floor
  let part := q - below
  if part < 1 / 2 then below
  else if 1 / 2 < part then below + 1
  else if below % 2 = 0 then below else below + 1

/-- The power of ten at the first digit of a positive number. -/
def leadingPower (a : Rat) : Int :=
  if 1 ≤ a then Nat.log 10 a.floor.toNat else -(Nat.clog 10 (a⁻¹).ceil.toNat : Int)

def zeros (n : Int) : List Char := List.replicate n.toNat '0'

/-- Decimal digits without the trailing zeros. -/
def significant (n : Nat) : List Char :=
  ((Nat.toDigits 10 n).reverse.dropWhile (· = '0')).reverse

/-- The digits with the decimal point after the first `point` of them; with an
exponent where the point would lie far outside. -/
def placePoint (digits : List Char) (point : Int) : List Char :=
  if point < -3 ∨ 14 < point then
    let tail := if digits.length ≤ 1 then ['0'] else digits.drop 1
    let sign := if point ≤ 0 then '-' else '+'
    digits.take 1 ++ '.' :: tail ++ 'E' :: sign :: Nat.toDigits 10 (point - 1).natAbs
  else if point ≤ 0 then '0' :: '.' :: zeros (-point) ++ digits
  else if (digits.length : Int) ≤ point then digits ++ zeros (point - digits.length)
  else digits.take point.toNat ++ '.' :: digits.drop point.toNat

/-- A float as text, to fourteen significant digits (`precision = 14`). -/
def floatText (q : Rat) : String :=
  if q = 0 then "0"
  else
    let power := leadingPower |q|
    let scaled := (roundHalfEven (|q| * (10 : Rat) ^ (13 - power))).toNat
    let body := placePoint (significant scaled) (power + if scaled = 10 ^ 14 then 2 else 1)
    String.ofList (if q < 0 then '-' :: body else body)

namespace Val

/-- `(bool) $v`; `empty($v)` is its negation. -/
def truthy : Val → Bool
  | null => false
  | bool b => b
  | int n => n ≠ 0
  | float q => q ≠ 0
  | str s => s ≠ "" && s ≠ "0"
  | arr entries => !entries.isEmpty

def empty (v : Val) : Bool := !v.truthy

/-- `$v[$k] ?? null`. -/
def field (v : Val) (k : String) : Val :=
  match v with
  | arr entries => (entries.lookup k).getD null
  | _ => null

/-- `$v[$k] ?? $d`. -/
def fieldOr (v : Val) (k : String) (d : Val) : Val :=
  match v.field k with
  | null => d
  | w => w

/-- What `foreach` runs over; a scalar only draws a warning. -/
def elems : Val → List Val
  | arr entries => entries.map Prod.snd
  | _ => []

def strval : Val → String
  | null => ""
  | bool b => if b then "1" else ""
  | int n => toString n
  | float q => floatText q
  | str s => s
  | arr _ => "Array"

def floatval : Val → Rat
  | null => 0
  | bool b => if b then 1 else 0
  | int n => n
  | float q => q
  | str s => (Numeral.leading s.toList).getD 0
  | arr entries => if entries.isEmpty then 0 else 1

def intval : Val → Int
  | null => 0
  | bool b => if b then 1 else 0
  | int n => n
  | float q => wrap64 (truncate q)
  | str s => clamp64 (truncate ((Numeral.leading s.toList).getD 0))
  | arr entries => if entries.isEmpty then 0 else 1

/-- `$v === 's'`. -/
def is (v : Val) (s : String) : Bool :=
  match v with
  | str t => t = s
  | _ => false

/-- `$v == 's'`: booleans compare by truth, numbers and numeric texts by value. -/
def looseEq (v : Val) (s : String) : Bool :=
  match v with
  | null => s = ""
  | bool b => b = (str s).truthy
  | int n =>
    match Numeral.whole s.toList with
    | some q => (n : Rat) = q
    | none => toString n = s
  | float q =>
    match Numeral.whole s.toList with
    | some r => q = r
    | none => floatText q = s
  | str t =>
    match Numeral.whole t.toList, Numeral.whole s.toList with
    | some q, some r => q = r
    | _, _ => t = s
  | arr _ => false

/-- `in_array($v, $names)`, not strict. -/
def inArray (v : Val) (names : List String) : Bool := names.any v.looseEq

/-- `$v < $n` against an integer. -/
def ltInt (v : Val) (n : Int) : Bool :=
  match v with
  | null => n ≠ 0
  | bool b => !b && n ≠ 0
  | int m => m < n
  | float q => q < n
  | str s =>
    match Numeral.whole s.toList with
    | some q => q < n
    | none => s < toString n
  | arr _ => false

end Val

/-- `[...$values]` as a JSON list. -/
def Val.list (vs : List Val) : Val :=
  .arr (vs.zipIdx.map fun (v, i) => (toString i, v))

theorem Val.elems_list (vs : List Val) : (Val.list vs).elems = vs := by
  rw [Val.list, Val.elems, List.map_map]
  exact List.zipIdx_map_fst 0 vs

section Texts

/-- The characters that the text of a number is made of. -/
def isNumeralChar (c : Char) : Bool := c.isDigit || c = '-' || c = '+' || c = '.' || c = 'E'

theorem isNumeralChar_of_isDigit {c : Char} (digit : c.isDigit = true) : isNumeralChar c = true := by
  simp [isNumeralChar, digit]

theorem isNumeralChar_toDigits {n : Nat} {c : Char} (member : c ∈ Nat.toDigits 10 n) :
    isNumeralChar c = true :=
  isNumeralChar_of_isDigit (Nat.isDigit_of_mem_toDigits (by decide) (by decide) member)

theorem isNumeralChar_toString (n : Int) : ∀ c ∈ (toString n).toList, isNumeralChar c = true := by
  intro c member
  cases n with
  | ofNat n =>
    have : c ∈ Nat.toDigits 10 n := by
      simpa [toString, Int.repr, Nat.toList_repr] using member
    exact isNumeralChar_toDigits this
  | negSucc n =>
    have : c = '-' ∨ c ∈ Nat.toDigits 10 (n + 1) := by
      simpa [toString, Int.repr, String.Internal.append, Nat.toList_repr] using member
    rcases this with rfl | digit
    · decide
    · exact isNumeralChar_toDigits digit

theorem isNumeralChar_zeros {n : Int} {c : Char} (member : c ∈ zeros n) :
    isNumeralChar c = true := by
  rw [zeros, List.mem_replicate] at member
  rw [member.2]
  decide

theorem isNumeralChar_significant {n : Nat} {c : Char} (member : c ∈ significant n) :
    isNumeralChar c = true := by
  have kept := (List.dropWhile_sublist _).subset (List.mem_reverse.mp member)
  exact isNumeralChar_toDigits (List.mem_reverse.mp kept)

theorem isNumeralChar_placePoint {digits : List Char} {point : Int}
    (number : ∀ c ∈ digits, isNumeralChar c = true) :
    ∀ c ∈ placePoint digits point, isNumeralChar c = true := by
  have some : ∀ n, ∀ c ∈ digits.take n, isNumeralChar c = true :=
    fun n c member => number c (List.mem_of_mem_take member)
  have others : ∀ n, ∀ c ∈ digits.drop n, isNumeralChar c = true :=
    fun n c member => number c (List.mem_of_mem_drop member)
  have noughts : ∀ n, ∀ c ∈ zeros n, isNumeralChar c = true := fun n c => isNumeralChar_zeros
  have exponent : ∀ n, ∀ c ∈ Nat.toDigits 10 n, isNumeralChar c = true :=
    fun n c => isNumeralChar_toDigits
  have marks : isNumeralChar '.' = true ∧ isNumeralChar 'E' = true ∧ isNumeralChar '-' = true ∧
      isNumeralChar '+' = true ∧ isNumeralChar '0' = true := by decide
  intro c member
  unfold placePoint at member
  split at member
  · dsimp only at member
    simp only [List.append_assoc, List.cons_append, List.mem_append, List.mem_cons] at member
    rcases member with first | rfl | tail | rfl | rfl | digit
    · exact some 1 c first
    · exact marks.1
    · split at tail
      · rw [List.mem_singleton.mp tail]
        exact marks.2.2.2.2
      · exact others 1 c tail
    · exact marks.2.1
    · split
      · exact marks.2.2.1
      · exact marks.2.2.2.1
    · exact exponent _ c digit
  · split at member
    · simp only [List.cons_append, List.mem_append, List.mem_cons] at member
      rcases member with rfl | rfl | nought | digit
      · exact marks.2.2.2.2
      · exact marks.1
      · exact noughts _ c nought
      · exact number c digit
    · split at member
      · rcases List.mem_append.mp member with digit | nought
        · exact number c digit
        · exact noughts _ c nought
      · simp only [List.mem_append, List.mem_cons] at member
        rcases member with digit | rfl | digit
        · exact some _ c digit
        · exact marks.1
        · exact others _ c digit

theorem isNumeralChar_floatText (q : Rat) : ∀ c ∈ (floatText q).toList, isNumeralChar c = true := by
  unfold floatText
  split
  · intro c member
    rw [show "0".toList = ['0'] from rfl, List.mem_singleton] at member
    rw [member]
    decide
  · simp only [String.toList_ofList]
    have body : ∀ n point, ∀ c ∈ placePoint (significant n) point, isNumeralChar c = true :=
      fun n point => isNumeralChar_placePoint fun c => isNumeralChar_significant
    intro c member
    split at member
    · rcases List.mem_cons.mp member with rfl | digit
      · decide
      · exact body _ _ c digit
    · exact body _ _ c member

/-- Only the text `s` itself turns into a text that is no numeral. -/
theorem is_iff_strval {v : Val} {s : String} (notNumeral : s.toList.all isNumeralChar = false)
    (notArray : s ≠ "Array") : v.is s = true ↔ v.strval = s := by
  have letter : ∃ c ∈ s.toList, isNumeralChar c = false := by
    simpa [List.all_eq_false] using notNumeral
  obtain ⟨c, member, other⟩ := letter
  cases v with
  | null =>
    simp only [Val.is, Val.strval, Bool.false_eq_true, false_iff]
    rintro rfl
    simp at member
  | bool b =>
    simp only [Val.is, Val.strval, Bool.false_eq_true, false_iff]
    rintro rfl
    cases b
    · simp at member
    · simp only [if_true] at member
      revert other
      simp_all [isNumeralChar]
  | int n =>
    simp only [Val.is, Val.strval, Bool.false_eq_true, false_iff]
    rintro rfl
    simp [isNumeralChar_toString n c member] at other
  | float q =>
    simp only [Val.is, Val.strval, Bool.false_eq_true, false_iff]
    rintro rfl
    simp [isNumeralChar_floatText q c member] at other
  | str t => simp [Val.is, Val.strval]
  | arr entries =>
    simp only [Val.is, Val.strval, Bool.false_eq_true, false_iff]
    exact fun same => notArray same.symm

end Texts

section Calendar

structure Date where
  year : Int
  month : Nat
  day : Nat
  deriving DecidableEq

/-- The proleptic Gregorian date of a day counted from 1970-01-01. -/
def civil (days : Int) : Date :=
  let z := days + 719468
  let era := z / 146097
  let doe := (z % 146097).toNat
  let yoe := (doe - doe / 1460 + doe / 36524 - doe / 146096) / 365
  let doy := doe - (365 * yoe + yoe / 4 - yoe / 100)
  let mp := (5 * doy + 2) / 153
  let month := if mp < 10 then mp + 3 else mp - 9
  { year := yoe + era * 400 + (if month ≤ 2 then 1 else 0)
    month
    day := doy - (153 * mp + 2) / 5 + 1 }

def twoDigits (n : Nat) : List Char := [Nat.digitChar (n / 10 % 10), Nat.digitChar (n % 10)]

def fourDigits (n : Nat) : List Char := (Nat.toDigits 10 n).leftpad 4 '0'

/-- `date('Y-m-d', $ts)`; the time zone is PHP's default, UTC. -/
def dateYmd (ts : Int) : String :=
  let d := civil (ts / 86400)
  let year := if d.year < 0 then '-' :: fourDigits d.year.natAbs else fourDigits d.year.natAbs
  String.ofList (year ++ '-' :: (twoDigits d.month ++ '-' :: twoDigits d.day))

/-- `date('H:i:s', $ts)`. -/
def dateHis (ts : Int) : String :=
  let s := (ts % 86400).toNat
  String.ofList
    (twoDigits (s / 3600) ++ ':' :: (twoDigits (s / 60 % 60) ++ ':' :: twoDigits (s % 60)))

end Calendar

/-- DATETIME text `Y-m-d H:i:s`, kept as its two halves: SQLite's `date()` is the first. -/
structure DateTime where
  date : String
  time : String
  deriving DecidableEq

/-- The server's clock during one request. It stands within the years whose dates
have four digits, the ones SQLite's date functions read. -/
structure Clock where
  time : Int
  epoch : 0 ≤ time
  fourDigit : time < 253402300800

namespace Clock

/-- `date('Y-m-d')`. -/
def today (c : Clock) : String := dateYmd c.time

/-- `date('Y-m-d H:i:s')`, and SQLite's CURRENT_TIMESTAMP. -/
def now (c : Clock) : DateTime := ⟨dateYmd c.time, dateHis c.time⟩

end Clock

/-- PHP built-ins that the code relies on and that are not part of it. -/
structure Platform where
  /-- `hash_hmac('sha256', $m, $secret, true)` under the server's secret. -/
  hmac : Bytes → Bytes
  jsonEncode : Val → Bytes
  /-- `json_decode($b, true)`; null when the bytes are no JSON. -/
  jsonDecode : Bytes → Val
  /-- `password_hash($p, PASSWORD_BCRYPT)` with the salt it draws. -/
  passwordHash : Nat → String → String
  passwordVerify : String → String → Bool
  /-- `strtotime($s)` at a time; none where it returns false. -/
  strtotime : Int → String → Option Int

example : dateYmd 1781049600 = "2026-06-10" := by decide

example : dateHis 1781049600 = "00:00:00" := by decide

end Saloon.Source
