import Mathlib.Data.List.Nodup
import Saloon.Lib.Splice

/-!
# Lists whose elements have distinct keys

What stays true of the keys, and which elements stay, when one place of such a
list is changed or erased, or an element with a new key is appended.
-/
namespace Saloon.Lib

variable {α κ : Type} {key : α → κ} {l : List α} {i : Nat} {a b : α}

/-- No two places have the same key. -/
def DistinctKeys (key : α → κ) (l : List α) : Prop := (l.map key).Nodup

theorem DistinctKeys.modify {f : α → α} (keeps : ∀ a, key (f a) = key a)
    (distinct : DistinctKeys key l) (i : Nat) : DistinctKeys key (l.modify i f) := by
  rwa [DistinctKeys, map_modify_same l i keeps]

theorem DistinctKeys.eraseIdx (distinct : DistinctKeys key l) (i : Nat) :
    DistinctKeys key (l.eraseIdx i) :=
  ((List.eraseIdx_sublist l i).map key).nodup distinct

theorem DistinctKeys.append (distinct : DistinctKeys key l) (fresh : ∀ b ∈ l, key b ≠ key a) :
    DistinctKeys key (l ++ [a]) := by
  rw [DistinctKeys, List.map_append, List.nodup_append]
  refine ⟨distinct, List.nodup_singleton _, ?_⟩
  rintro k old k' new
  obtain ⟨b, member, rfl⟩ := List.mem_map.mp old
  rw [List.map_singleton, List.mem_singleton] at new
  rw [new]
  exact fresh b member

/-- The places around one place have other keys. -/
theorem DistinctKeys.around {before rest : List α}
    (distinct : DistinctKeys key (before ++ a :: rest)) (member : b ∈ before ++ rest) :
    key b ≠ key a := by
  have split : (key a :: (before ++ rest).map key).Nodup := by
    have moved : (before ++ a :: rest).Perm (a :: (before ++ rest)) := List.perm_middle
    exact (moved.map key).nodup distinct
  rintro same
  exact (List.nodup_cons.mp split).1 (same ▸ List.mem_map_of_mem member)

theorem DistinctKeys.mem_eraseIdx (distinct : DistinctKeys key l) (present : l[i]? = some a)
    (member : b ∈ l.eraseIdx i) : b ∈ l ∧ key b ≠ key a := by
  obtain ⟨before, rest, rfl, erased, -⟩ := exists_split present
  refine ⟨List.mem_of_mem_eraseIdx member, ?_⟩
  rw [erased] at member
  exact distinct.around member

/-- An element of the changed list is the changed one, or stood there under another key. -/
theorem DistinctKeys.mem_modify {f : α → α} (distinct : DistinctKeys key l)
    (present : l[i]? = some a) (member : b ∈ l.modify i f) :
    b = f a ∨ b ∈ l ∧ key b ≠ key a := by
  obtain ⟨before, rest, rfl, -, modified⟩ := exists_split present
  rw [modified] at member
  rcases List.mem_append.mp member with old | here
  · exact .inr ⟨List.mem_append_left _ old, distinct.around (List.mem_append_left _ old)⟩
  · rcases List.mem_cons.mp here with new | old
    · exact .inl new
    · exact .inr ⟨List.mem_append_right _ (List.mem_cons_of_mem _ old),
        distinct.around (List.mem_append_right _ old)⟩

end Saloon.Lib
