import Mathlib.Algebra.Group.Nat.Defs
import Mathlib.Data.List.Basic

/-!
# Base64 over byte strings

The encoder with padding, and the lenient decoder: it skips every byte outside
the alphabet, padding included, and drops the bits that fill no byte. The round
trip is one induction over groups of three bytes. `ofSextets_eq_iff` says what
the decoder reads, bit by bit, and `tight_iff` which of the spellings of a byte
string is the encoder's.
-/
namespace Saloon.Lib.Base64

/-- The alphabet: letters, digits, plus, slash. -/
def digit (n : Nat) : UInt8 :=
  if n < 26 then .ofNat (65 + n)
  else if n < 52 then .ofNat (71 + n)
  else if n < 62 then .ofNat (n - 4)
  else if n = 62 then 43
  else 47

def value? (c : UInt8) : Option Nat :=
  let n := c.toNat
  if 65 ≤ n ∧ n ≤ 90 then some (n - 65)
  else if 97 ≤ n ∧ n ≤ 122 then some (n - 71)
  else if 48 ≤ n ∧ n ≤ 57 then some (n + 4)
  else if n = 43 then some 62
  else if n = 47 then some 63
  else none

def pad : UInt8 := 61

/-- The six-bit groups of a byte string, the last one filled up with zeros. -/
def toSextets : List UInt8 → List Nat
  | a :: b :: c :: rest =>
    a.toNat / 4 :: (a.toNat % 4 * 16 + b.toNat / 16) :: (b.toNat % 16 * 4 + c.toNat / 64) ::
      c.toNat % 64 :: toSextets rest
  | [a, b] => [a.toNat / 4, a.toNat % 4 * 16 + b.toNat / 16, b.toNat % 16 * 4]
  | [a] => [a.toNat / 4, a.toNat % 4 * 16]
  | [] => []

/-- The whole bytes in a sequence of six-bit groups. -/
def ofSextets : List Nat → List UInt8
  | a :: b :: c :: d :: rest =>
    .ofNat (a * 4 + b / 16) :: .ofNat (b % 16 * 16 + c / 4) :: .ofNat (c % 4 * 64 + d) ::
      ofSextets rest
  | [a, b, c] => [.ofNat (a * 4 + b / 16), .ofNat (b % 16 * 16 + c / 4)]
  | [a, b] => [.ofNat (a * 4 + b / 16)]
  | [_] => []
  | [] => []

/-- The padding behind a byte string. -/
def padding (bytes : List UInt8) : List UInt8 :=
  List.replicate ((3 - bytes.length % 3) % 3) pad

def encode (bytes : List UInt8) : List UInt8 := (toSextets bytes).map digit ++ padding bytes

def decode (text : List UInt8) : List UInt8 := ofSextets (text.filterMap value?)

theorem toSextets_lt (bytes : List UInt8) : ∀ n ∈ toSextets bytes, n < 64 := by
  induction bytes using toSextets.induct with
  | case1 a b c rest ih =>
    have := a.toNat_lt
    have := b.toNat_lt
    have := c.toNat_lt
    simp only [toSextets, List.mem_cons]
    rintro n (rfl | rfl | rfl | rfl | member)
    · omega
    · omega
    · omega
    · omega
    · exact ih n member
  | case2 a b =>
    have := a.toNat_lt
    have := b.toNat_lt
    simp only [toSextets, List.mem_cons, List.not_mem_nil, or_false]
    rintro n (rfl | rfl | rfl) <;> omega
  | case3 a =>
    have := a.toNat_lt
    simp only [toSextets, List.mem_cons, List.not_mem_nil, or_false]
    rintro n (rfl | rfl) <;> omega
  | case4 => simp [toSextets]

theorem ofNat_eq_of_toNat {n : Nat} {a : UInt8} (same : n = a.toNat) : UInt8.ofNat n = a := by
  rw [same, UInt8.ofNat_toNat]

theorem ofSextets_toSextets (bytes : List UInt8) : ofSextets (toSextets bytes) = bytes := by
  induction bytes using toSextets.induct with
  | case1 a b c rest ih =>
    have := b.toNat_lt
    have := c.toNat_lt
    simp only [toSextets, ofSextets, ih, List.cons.injEq, and_true]
    refine ⟨ofNat_eq_of_toNat ?_, ofNat_eq_of_toNat ?_, ofNat_eq_of_toNat ?_⟩ <;> omega
  | case2 a b =>
    have := b.toNat_lt
    simp only [toSextets, ofSextets, List.cons.injEq, and_true]
    refine ⟨ofNat_eq_of_toNat ?_, ofNat_eq_of_toNat ?_⟩ <;> omega
  | case3 a =>
    simp only [toSextets, ofSextets, List.cons.injEq, and_true]
    exact ofNat_eq_of_toNat (by omega)
  | case4 => rfl

section Bits

/-- The lowest bits of a number, `width` of them, the highest first. -/
def bits : Nat → Nat → List Bool
  | 0, _ => []
  | width + 1, n => n.testBit width :: bits width n

/-- The bits of a sequence of groups. -/
def groupBits (width : Nat) (groups : List Nat) : List Bool := groups.flatMap (bits width)

def byteBits (bytes : List UInt8) : List Bool := groupBits 8 (bytes.map UInt8.toNat)

/-- The bits of the sextets begin with those of the bytes, and what is behind fills no byte. -/
def Spells (sextets : List Nat) (bytes : List UInt8) : Prop :=
  ∃ rest, groupBits 6 sextets = byteBits bytes ++ rest ∧ rest.length < 8

/-- What is behind is shorter than a sextet, and zero. -/
def Tight (sextets : List Nat) (bytes : List UInt8) : Prop :=
  ∃ k < 6, groupBits 6 sextets = byteBits bytes ++ List.replicate k false

theorem length_bits (width n : Nat) : (bits width n).length = width := by
  induction width with
  | zero => rfl
  | succ width ih => rw [bits, List.length_cons, ih]

theorem bits_zero (width : Nat) : bits width 0 = List.replicate width false := by
  induction width with
  | zero => rfl
  | succ width ih => rw [bits, ih, Nat.zero_testBit, List.replicate_succ]

theorem bits_eq_iff {width m n : Nat} :
    bits width m = bits width n ↔ ∀ i < width, m.testBit i = n.testBit i := by
  induction width with
  | zero => simp [bits]
  | succ width ih =>
    rw [bits, bits, List.cons.injEq, ih]
    constructor
    · rintro ⟨top, lower⟩ i below
      obtain lower' | rfl := Nat.lt_succ_iff_lt_or_eq.mp below
      · exact lower i lower'
      · exact top
    · intro same
      exact ⟨same width (Nat.lt_succ_self width), fun i below => same i (Nat.lt_succ_of_lt below)⟩

theorem bits_inj {width m n : Nat} (small : m < 2 ^ width) (small' : n < 2 ^ width)
    (same : bits width m = bits width n) : m = n := by
  refine Nat.eq_of_testBit_eq fun i => ?_
  obtain below | above := Nat.lt_or_ge i width
  · exact bits_eq_iff.mp same i below
  · have beyond : 2 ^ width ≤ 2 ^ i := Nat.pow_le_pow_right Nat.zero_lt_two above
    rw [Nat.testBit_lt_two_pow (Nat.lt_of_lt_of_le small beyond),
      Nat.testBit_lt_two_pow (Nat.lt_of_lt_of_le small' beyond)]

theorem bits_append {w m n : Nat} (v : Nat) (low : n < 2 ^ w) :
    bits v m ++ bits w n = bits (v + w) (2 ^ w * m + n) := by
  induction v with
  | zero =>
    rw [bits, List.nil_append, Nat.zero_add, bits_eq_iff]
    intro i below
    rw [Nat.testBit_two_pow_mul_add m low, if_pos below]
  | succ v ih =>
    rw [bits, List.cons_append, ih, Nat.succ_add, bits, Nat.testBit_two_pow_mul_add m low,
      if_neg (by omega), Nat.add_sub_cancel_right]

theorem groupBits_cons (width n : Nat) (groups : List Nat) :
    groupBits width (n :: groups) = bits width n ++ groupBits width groups :=
  List.flatMap_cons

theorem length_groupBits (width : Nat) (groups : List Nat) :
    (groupBits width groups).length = width * groups.length := by
  induction groups with
  | nil => rfl
  | cons n groups ih =>
    rw [groupBits_cons, List.length_append, length_bits, ih, List.length_cons, Nat.mul_succ,
      Nat.add_comm]

theorem groupBits_inj {width : Nat} : ∀ {s t : List Nat}, s.length = t.length →
    (∀ n ∈ s, n < 2 ^ width) → (∀ n ∈ t, n < 2 ^ width) →
    groupBits width s = groupBits width t → s = t
  | [], [], _, _, _, _ => rfl
  | m :: s, n :: t, lengths, small, small', same => by
    rw [groupBits_cons, groupBits_cons] at same
    obtain ⟨first, rest⟩ :=
      List.append_inj same (by rw [length_bits, length_bits])
    rw [List.forall_mem_cons] at small small'
    rw [bits_inj small.1 small'.1 first,
      groupBits_inj (Nat.succ.inj lengths) small.2 small'.2 rest]

/-- The boundary between two groups may stand elsewhere in the same number. -/
theorem bits_regroup {v x y w m n u r : Nat} (widths : v + x = y + w) (low : n < 2 ^ x)
    (low' : r < 2 ^ w) (same : 2 ^ x * m + n = 2 ^ w * u + r) :
    bits v m ++ bits x n = bits y u ++ bits w r := by
  rw [bits_append v low, bits_append y low', widths, same]

theorem byteBits_cons (byte : UInt8) (bytes : List UInt8) :
    byteBits (byte :: bytes) = bits 8 byte.toNat ++ byteBits bytes := List.flatMap_cons

theorem toNat_ofNat {n : Nat} (small : n < 256) : (UInt8.ofNat n).toNat = n := by
  rw [UInt8.toNat_ofNat', Nat.mod_eq_of_lt small]

/-- The bits of two sextets: a byte, and four bits over. -/
theorem two_sextets {a b : Nat} (ha : a < 64) (hb : b < 64) :
    bits 6 a ++ bits 6 b = bits 8 (UInt8.ofNat (a * 4 + b / 16)).toNat ++ bits 4 (b % 16) := by
  rw [toNat_ofNat (by omega)]
  exact bits_regroup rfl hb (by omega) (by omega)

/-- Of three: two bytes, and two bits over. -/
theorem three_sextets {a b c : Nat} (ha : a < 64) (hb : b < 64) (hc : c < 64) :
    bits 6 a ++ bits 6 b ++ bits 6 c =
      bits 8 (UInt8.ofNat (a * 4 + b / 16)).toNat ++
        bits 8 (UInt8.ofNat (b % 16 * 16 + c / 4)).toNat ++ bits 2 (c % 4) := by
  have second : bits 4 (b % 16) ++ bits 6 c =
      bits 8 (UInt8.ofNat (b % 16 * 16 + c / 4)).toNat ++ bits 2 (c % 4) := by
    rw [toNat_ofNat (by omega)]
    exact bits_regroup rfl hc (by omega) (by omega)
  rw [two_sextets ha hb, List.append_assoc, second, List.append_assoc]

/-- Of four: three bytes. -/
theorem four_sextets {a b c d : Nat} (ha : a < 64) (hb : b < 64) (hc : c < 64) (hd : d < 64) :
    bits 6 a ++ bits 6 b ++ bits 6 c ++ bits 6 d =
      bits 8 (UInt8.ofNat (a * 4 + b / 16)).toNat ++
        bits 8 (UInt8.ofNat (b % 16 * 16 + c / 4)).toNat ++
          bits 8 (UInt8.ofNat (c % 4 * 64 + d)).toNat := by
  have third : bits 2 (c % 4) ++ bits 6 d = bits 8 (UInt8.ofNat (c % 4 * 64 + d)).toNat := by
    rw [toNat_ofNat (by omega), bits_append 2 hd]
    exact congrArg (bits 8) (by omega)
  rw [three_sextets ha hb hc, List.append_assoc, third]

theorem spells_ofSextets {sextets : List Nat} (small : ∀ n ∈ sextets, n < 64) :
    Spells sextets (ofSextets sextets) := by
  induction sextets using ofSextets.induct with
  | case1 a b c d rest ih =>
    simp only [List.forall_mem_cons] at small
    obtain ⟨ha, hb, hc, hd, small⟩ := small
    obtain ⟨behind, spelled, short⟩ := ih small
    refine ⟨behind, ?_, short⟩
    have group := four_sextets ha hb hc hd
    simp only [ofSextets, groupBits_cons, byteBits_cons, spelled, ← List.append_assoc, group]
  | case2 a b c =>
    simp only [List.forall_mem_cons] at small
    refine ⟨bits 2 (c % 4), ?_, by rw [length_bits]; decide⟩
    have group := three_sextets small.1 small.2.1 small.2.2.1
    simpa [ofSextets, groupBits, byteBits] using group
  | case3 a b =>
    simp only [List.forall_mem_cons] at small
    refine ⟨bits 4 (b % 16), ?_, by rw [length_bits]; decide⟩
    have group := two_sextets small.1 small.2.1
    simpa [ofSextets, groupBits, byteBits] using group
  | case4 a => exact ⟨bits 6 a, List.append_nil _, by rw [length_bits]; decide⟩
  | case5 => exact ⟨[], rfl, by decide⟩

theorem length_byteBits (bytes : List UInt8) : (byteBits bytes).length = 8 * bytes.length := by
  rw [byteBits, length_groupBits, List.length_map]

theorem byteBits_inj {first second : List UInt8} (lengths : first.length = second.length)
    (same : byteBits first = byteBits second) : first = second := by
  have small (bytes : List UInt8) : ∀ n ∈ bytes.map UInt8.toNat, n < 2 ^ 8 := by
    rintro n member
    obtain ⟨byte, -, rfl⟩ := List.mem_map.mp member
    exact byte.toNat_lt
  have values : first.map UInt8.toNat = second.map UInt8.toNat :=
    groupBits_inj (by rw [List.length_map, List.length_map, lengths]) (small first)
      (small second) same
  exact List.map_injective_iff.mpr (fun _ _ => UInt8.toNat_inj.mp) values

theorem Spells.unique {sextets : List Nat} {first second : List UInt8}
    (one : Spells sextets first) (other : Spells sextets second) : first = second := by
  obtain ⟨behind, spelled, short⟩ := one
  obtain ⟨behind', spelled', short'⟩ := other
  have same := spelled.symm.trans spelled'
  have lengths := congrArg List.length same
  rw [List.length_append, List.length_append, length_byteBits, length_byteBits] at lengths
  have counts : first.length = second.length := by omega
  exact byteBits_inj counts (List.append_inj same
    (by rw [length_byteBits, length_byteBits, counts])).1

/-- The decoder reads a byte string exactly where its bits are spelled. -/
theorem ofSextets_eq_iff {sextets : List Nat} {bytes : List UInt8}
    (small : ∀ n ∈ sextets, n < 64) : ofSextets sextets = bytes ↔ Spells sextets bytes := by
  constructor
  · rintro rfl
    exact spells_ofSextets small
  · intro spelled
    exact (spells_ofSextets small).unique spelled

theorem tight_toSextets (bytes : List UInt8) : Tight (toSextets bytes) bytes := by
  induction bytes using toSextets.induct with
  | case1 a b c rest ih =>
    obtain ⟨k, short, spelled⟩ := ih
    refine ⟨k, short, ?_⟩
    have ha := a.toNat_lt
    have hb := b.toNat_lt
    have hc := c.toNat_lt
    have group := four_sextets (a := a.toNat / 4) (b := a.toNat % 4 * 16 + b.toNat / 16)
      (c := b.toNat % 16 * 4 + c.toNat / 64) (d := c.toNat % 64) (by omega) (by omega) (by omega)
      (by omega)
    rw [ofNat_eq_of_toNat (a := a) (by omega), ofNat_eq_of_toNat (a := b) (by omega),
      ofNat_eq_of_toNat (a := c) (by omega)] at group
    simp only [toSextets, groupBits_cons, byteBits_cons, spelled, ← List.append_assoc, group]
  | case2 a b =>
    refine ⟨2, by decide, ?_⟩
    have ha := a.toNat_lt
    have hb := b.toNat_lt
    have group := three_sextets (a := a.toNat / 4) (b := a.toNat % 4 * 16 + b.toNat / 16)
      (c := b.toNat % 16 * 4) (by omega) (by omega) (by omega)
    rw [ofNat_eq_of_toNat (a := a) (by omega), ofNat_eq_of_toNat (a := b) (by omega),
      Nat.mul_mod_left, bits_zero] at group
    simpa [toSextets, groupBits, byteBits] using group
  | case3 a =>
    refine ⟨4, by decide, ?_⟩
    have ha := a.toNat_lt
    have group := two_sextets (a := a.toNat / 4) (b := a.toNat % 4 * 16) (by omega) (by omega)
    rw [ofNat_eq_of_toNat (a := a) (by omega), Nat.mul_mod_left, bits_zero] at group
    simpa [toSextets, groupBits, byteBits] using group
  | case4 => exact ⟨0, by decide, rfl⟩

/-- The encoder's is the only tight spelling. -/
theorem tight_iff {sextets : List Nat} {bytes : List UInt8} (small : ∀ n ∈ sextets, n < 64) :
    Tight sextets bytes ↔ sextets = toSextets bytes := by
  constructor
  · rintro ⟨k, short, spelled⟩
    obtain ⟨k', short', spelled'⟩ := tight_toSextets bytes
    have lengths := congrArg List.length spelled
    have lengths' := congrArg List.length spelled'
    rw [length_groupBits, List.length_append, List.length_replicate] at lengths lengths'
    have behind : k = k' := by omega
    subst behind
    exact groupBits_inj (by omega) small (toSextets_lt bytes) (spelled.trans spelled'.symm)
  · rintro rfl
    exact tight_toSextets bytes

end Bits

end Saloon.Lib.Base64
