import Mathlib.Data.Rat.Defs
import Mathlib.Algebra.Order.Ring.Unbundled.Rat

/-!
# Decimal numerals in text

The numeral at the front of a text: an optional sign, digits with an optional
fraction, an optional exponent. A text is a number when the numeral takes all
of it but surrounding blanks. Values are exact rationals.
-/
namespace Saloon.Lib.Numeral

/-- Space, and the controls from tab to carriage return. -/
def isBlank (c : Char) : Bool :=
  c.toNat = 32 || (9 ≤ c.toNat && c.toNat ≤ 13)

def digits (cs : List Char) : List Char := cs.takeWhile Char.isDigit

def afterDigits (cs : List Char) : List Char := cs.dropWhile Char.isDigit

/-- The sign, if any, and what follows it. -/
def splitSign : List Char → Bool × List Char
  | '-' :: cs => (true, cs)
  | '+' :: cs => (false, cs)
  | cs => (false, cs)

/-- The digits behind a decimal point, if there is one. -/
def splitFraction : List Char → List Char × List Char
  | '.' :: cs => (digits cs, afterDigits cs)
  | cs => ([], cs)

/-- A decimal exponent; an `e` without digits is not part of the numeral. -/
def splitExponent (cs : List Char) : Int × List Char :=
  match cs with
  | [] => (0, [])
  | c :: rest =>
    if c = 'e' ∨ c = 'E' then
      let (negative, tail) := splitSign rest
      if digits tail = [] then (0, cs)
      else
        let value : Int := Nat.ofDigitChars 10 (digits tail) 0
        (if negative then -value else value, afterDigits tail)
    else (0, cs)

/-- The numeral at the very front and the text behind it. -/
def scan (cs : List Char) : Option (Rat × List Char) :=
  let (negative, unsigned) := splitSign cs
  let (fraction, tail) := splitFraction (afterDigits unsigned)
  if digits unsigned = [] ∧ fraction = [] then none
  else
    let (exponent, rest) := splitExponent tail
    let mantissa : Rat := Nat.ofDigitChars 10 (digits unsigned ++ fraction) 0
    let value := mantissa * (10 : Rat) ^ (exponent - fraction.length)
    some (if negative then -value else value, rest)

/-- The value of the numeral a text starts with, blanks skipped. -/
def leading (cs : List Char) : Option Rat := (scan (cs.dropWhile isBlank)).map Prod.fst

/-- The value of a text that is a number as a whole. -/
def whole (cs : List Char) : Option Rat :=
  match scan (cs.dropWhile isBlank) with
  | some (value, rest) => if rest.all isBlank then some value else none
  | none => none

theorem code_of_isDigit {c : Char} (digit : c.isDigit = true) : 48 ≤ c.toNat ∧ c.toNat ≤ 57 := by
  simp only [Char.isDigit, Bool.and_eq_true, decide_eq_true_eq, UInt32.le_iff_toNat_le] at digit
  exact digit

theorem isBlank_of_isDigit {c : Char} (digit : c.isDigit = true) : isBlank c = false := by
  have code := code_of_isDigit digit
  have notSpace : c.toNat ≠ 32 := by omega
  have notControl : ¬ c.toNat ≤ 13 := by omega
  simp [isBlank, notSpace, notControl]

theorem splitSign_of_isDigit {c : Char} (cs : List Char) (digit : c.isDigit = true) :
    splitSign (c :: cs) = (false, c :: cs) := by
  have code := code_of_isDigit digit
  unfold splitSign
  split
  · rename_i same
    cases same
    simp at code
  · rename_i same
    cases same
    simp at code
  · rfl

/-- Digits, then a dash: a calendar date is not a number. -/
theorem whole_eq_none_of_dash (d : Char) (ds cs : List Char) (first : d.isDigit = true)
    (rest : ∀ c ∈ ds, c.isDigit = true) : whole (d :: (ds ++ '-' :: cs)) = none := by
  have number : ∀ c ∈ d :: ds, c.isDigit = true := by simpa [first] using rest
  have skip : (d :: (ds ++ '-' :: cs)).dropWhile isBlank = d :: (ds ++ '-' :: cs) := by
    simp [isBlank_of_isDigit first]
  have after : afterDigits (d :: (ds ++ '-' :: cs)) = '-' :: cs := by
    rw [afterDigits, ← List.cons_append, List.dropWhile_append_of_pos number]
    rfl
  have taken : digits (d :: (ds ++ '-' :: cs)) ≠ [] := by
    rw [digits, ← List.cons_append, List.takeWhile_append_of_pos number]
    simp
  simp only [whole, skip, scan, splitSign_of_isDigit _ first, after, splitFraction, taken,
    false_and, if_false]
  rfl

end Saloon.Lib.Numeral
