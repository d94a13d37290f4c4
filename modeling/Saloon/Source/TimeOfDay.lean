import Saloon.Source.Php

/-!
# Times of day as texts

The schema keeps times as texts 'HH:MM:SS', and the conflict query
(`models/Appointment.php:64-83`) compares them as texts. Two digits stand for every
part, so the order of the texts is the order of the seconds they stand for.
-/
namespace Saloon.Source

/-- The text 'HH:MM:SS' of a number of seconds. -/
def clockText (seconds : Nat) : String :=
  String.ofList (twoDigits (seconds / 3600) ++ ':' :: (twoDigits (seconds / 60 % 60) ++ ':' ::
    twoDigits (seconds % 60)))

/-- `date('H:i:s', $ts)` shows the time within the day. -/
theorem dateHis_eq (ts : Int) : dateHis ts = clockText (ts % 86400).toNat := rfl

/-- `text` is the time of day that stands so many seconds after midnight. -/
def IsTime (text : String) (seconds : Nat) : Prop := seconds < 86400 ∧ text = clockText seconds

section Order

theorem digitChar_lt_iff : ∀ m < 10, ∀ n < 10, Nat.digitChar m < Nat.digitChar n ↔ m < n := by decide

theorem digitChar_eq_iff : ∀ m < 10, ∀ n < 10, Nat.digitChar m = Nat.digitChar n ↔ m = n := by decide

/-- Two digits before any texts decide by their number, or else leave it to the texts. -/
theorem twoDigits_append_lt {m n : Nat} (hm : m < 100) (hn : n < 100) (left right : List Char) :
    twoDigits m ++ left < twoDigits n ++ right ↔ m < n ∨ m = n ∧ left < right := by
  have tens : m / 10 % 10 = m / 10 ∧ n / 10 % 10 = n / 10 :=
    ⟨Nat.mod_eq_of_lt (by omega), Nat.mod_eq_of_lt (by omega)⟩
  simp only [twoDigits, tens, List.cons_append, List.nil_append, List.cons_lt_cons_iff,
    digitChar_lt_iff (m / 10) (by omega) (n / 10) (by omega),
    digitChar_eq_iff (m / 10) (by omega) (n / 10) (by omega),
    digitChar_lt_iff (m % 10) (by omega) (n % 10) (by omega),
    digitChar_eq_iff (m % 10) (by omega) (n % 10) (by omega)]
  by_cases below : left < right
  · simp only [below, and_true]
    omega
  · simp only [below, and_false, or_false]
    omega

/-- With at most 99 hours, the texts are ordered as the seconds are. -/
theorem clockText_lt_iff {s t : Nat} (hs : s < 360000) (ht : t < 360000) :
    clockText s < clockText t ↔ s < t := by
  have colon : ∀ left right : List Char, ':' :: left < ':' :: right ↔ left < right := by simp
  have last := twoDigits_append_lt (m := s % 60) (n := t % 60) (by omega) (by omega) [] []
  simp only [List.append_nil, List.not_lt_nil, and_false, or_false] at last
  rw [String.lt_iff, clockText, clockText, String.toList_ofList, String.toList_ofList,
    twoDigits_append_lt (by omega) (by omega), colon, twoDigits_append_lt (by omega) (by omega),
    colon, last]
  omega

theorem clockText_injective {s t : Nat} (hs : s < 360000) (ht : t < 360000)
    (same : clockText s = clockText t) : s = t := by
  have forward := clockText_lt_iff hs ht
  have backward := clockText_lt_iff ht hs
  rw [same] at forward backward
  have irrefl : ¬ clockText t < clockText t := String.lt_irrefl _
  have before : ¬ s < t := fun lt => irrefl (forward.mpr lt)
  have behind : ¬ t < s := fun lt => irrefl (backward.mpr lt)
  omega

end Order

end Saloon.Source
