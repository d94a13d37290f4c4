import Mathlib.Data.List.Nodup
import Saloon.Lib.Splice

/-!
# Snapshots of a collection that stays editable

A live collection is submitted as a snapshot. While the answer is awaited the
collection may change, and may be submitted again. An answer settles a snapshot or
drops it; clearing empties the live collection. An item is accounted for once when
it is live and not settled, or in one snapshot, pending or settled.
-/
namespace Saloon.Lib

structure Snapshots (α : Type) where
  live : List α
  pending : List (List α)
  settled : List (List α)

namespace Snapshots

variable {α : Type} [DecidableEq α]

/-- Everything in the snapshots that count. -/
def claims (s : Snapshots α) : List α := s.pending.flatten ++ s.settled.flatten

def Once (s : Snapshots α) (x : α) : Prop :=
  (x ∈ s.live ∧ x ∉ s.settled.flatten) ∨ s.claims.count x = 1

instance (s : Snapshots α) (x : α) : Decidable (s.Once x) :=
  inferInstanceAs (Decidable (_ ∨ _))

def submit (s : Snapshots α) : Snapshots α := { s with pending := s.pending ++ [s.live] }

def settle (s : Snapshots α) (i : Nat) (snapshot : List α) : Snapshots α :=
  { s with pending := s.pending.eraseIdx i, settled := s.settled ++ [snapshot] }

def drop (s : Snapshots α) (i : Nat) : Snapshots α := { s with pending := s.pending.eraseIdx i }

def clear (s : Snapshots α) : Snapshots α := { s with live := [] }

variable {s : Snapshots α} {x : α} {i : Nat} {snapshot : List α}

/-- The claims are those of one pending snapshot and of the others. -/
theorem count_claims (present : s.pending[i]? = some snapshot) (x : α) :
    s.claims.count x = snapshot.count x + (s.drop i).claims.count x := by
  have split := (flatMap_perm present id).count_eq x
  simp only [List.flatMap_id, id_eq, List.count_append] at split
  simp only [claims, drop, List.count_append]
  omega

/-- A live collection with nothing settled in it may be submitted. -/
theorem once_submit (unsettled : x ∈ s.live → x ∉ s.settled.flatten) (once : s.Once x) :
    s.submit.Once x := by
  by_cases live : x ∈ s.live
  · exact .inl ⟨live, unsettled live⟩
  · rcases once with ⟨present, -⟩ | counted
    · exact absurd present live
    · refine .inr ?_
      simpa [claims, submit, List.count_eq_zero_of_not_mem live] using counted

theorem count_flatten_eq_zero {l : List (List α)} :
    l.flatten.count x = 0 ↔ ∀ other ∈ l, x ∉ other := by
  simp [List.count_eq_zero, List.mem_flatten]

/-- Settling keeps an item accounted for when no other pending snapshot has it. -/
theorem once_settle (present : s.pending[i]? = some snapshot) (nodup : snapshot.Nodup)
    (once : s.Once x) :
    (s.settle i snapshot).Once x ↔
      (x ∈ snapshot → ∀ other ∈ s.pending.eraseIdx i, x ∉ other) := by
  have total := count_claims present x
  have moved : (s.settle i snapshot).claims.count x = s.claims.count x := by
    simp only [settle, claims, drop, List.count_append, List.flatten_append, List.flatten_singleton]
      at total ⊢
    omega
  by_cases here : x ∈ snapshot
  · have one : snapshot.count x = 1 := List.count_eq_one_of_mem nodup here
    have settled : x ∈ (s.settle i snapshot).settled.flatten := by simp [settle, here]
    rw [forall_prop_of_true here, ← count_flatten_eq_zero]
    simp only [Once, settled, not_true, and_false, false_or, moved]
    simp only [claims, drop, List.count_append] at total ⊢
    constructor
    · intro counted
      omega
    · intro others
      rcases once with ⟨-, unsettled⟩ | counted
      · have := List.count_eq_zero_of_not_mem unsettled
        omega
      · simpa [claims] using counted
  · refine ⟨fun _ present => absurd present here, fun _ => ?_⟩
    rcases once with ⟨live, unsettled⟩ | counted
    · exact .inl ⟨live, by simpa [settle, here] using unsettled⟩
    · exact .inr (moved.trans counted)

/-- Dropping keeps an item accounted for when it is still live. -/
theorem once_drop (present : s.pending[i]? = some snapshot) (once : s.Once x) :
    (s.drop i).Once x ↔ (x ∈ snapshot → x ∈ s.live) := by
  have total := count_claims present x
  by_cases here : x ∈ snapshot
  · have some : 0 < snapshot.count x := List.count_pos_iff.mpr here
    rw [forall_prop_of_true here]
    rcases once with ⟨live, unsettled⟩ | counted
    · exact ⟨fun _ => live, fun _ => .inl ⟨live, unsettled⟩⟩
    · have others : (s.drop i).claims.count x = 0 := by omega
      refine ⟨fun kept => ?_, fun live => .inl ⟨live, ?_⟩⟩
      · exact (kept.resolve_right (by omega)).1
      · have unclaimed := List.count_eq_zero.mp others
        exact fun settled => unclaimed (List.mem_append_right _ settled)
  · have same : (s.drop i).claims.count x = s.claims.count x := by
      rw [total, List.count_eq_zero_of_not_mem here, Nat.zero_add]
    refine ⟨fun _ present => absurd present here, fun _ => ?_⟩
    exact once.imp_right same.trans

/-- Clearing keeps an item accounted for when one snapshot has it. -/
theorem once_clear (once : s.Once x) : s.clear.Once x ↔ (x ∈ s.live → s.claims.count x = 1) := by
  constructor
  · intro kept _
    rcases kept with ⟨live, -⟩ | counted
    · cases live
    · exact counted
  · intro claimed
    rcases once with ⟨live, -⟩ | counted
    · exact .inr (claimed live)
    · exact .inr counted

end Snapshots

end Saloon.Lib
