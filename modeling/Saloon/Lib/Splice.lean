import Mathlib.Data.List.Basic

/-!
# Changing a list at one place

A list around one of its places, and what changing or erasing that place does to
the concatenation of what the elements hold, up to the order.
-/
namespace Saloon.Lib

variable {α β : Type} {l : List α} {i : Nat} {a : α}

theorem mem_of_mem_modify {f : α → α}
    (member : a ∈ l.modify i f) : a ∈ l ∨ ∃ b ∈ l, a = f b := by
  obtain ⟨j, spot⟩ := List.mem_iff_getElem?.mp member
  rw [List.getElem?_modify] at spot
  obtain ⟨b, found, same⟩ := Option.map_eq_some_iff.mp spot
  have bMember := List.mem_of_getElem? found
  split at same
  · exact .inr ⟨b, bMember, same.symm⟩
  · exact .inl (same ▸ bMember)

/-- A list around one of its places. -/
theorem exists_split (present : l[i]? = some a) :
    ∃ before rest, l = before ++ a :: rest ∧ l.eraseIdx i = before ++ rest ∧
      ∀ f, l.modify i f = before ++ f a :: rest := by
  obtain ⟨bound, rfl⟩ := List.getElem?_eq_some_iff.mp present
  refine ⟨l.take i, l.drop (i + 1), ?_, List.eraseIdx_eq_take_drop_succ .., fun f => ?_⟩
  · simp
  · rw [List.modify_eq_take_cons_drop bound]

/-- What is read off the elements is changed at the same place. -/
theorem map_modify {f : α → α} {g : α → β} {h : β → β} (l : List α) (i : Nat)
    (same : ∀ a, g (f a) = h (g a)) : (l.modify i f).map g = (l.map g).modify i h := by
  refine List.ext_getElem? fun j => ?_
  simp only [List.getElem?_map, List.getElem?_modify, Option.map_eq_map, Option.map_map]
  refine congrArg (fun read => l[j]?.map read) (funext fun a => ?_)
  simp only [Function.comp_apply]
  split
  · exact same a
  · rfl

theorem map_modify_same {f : α → α} {g : α → β} (l : List α) (i : Nat) (same : ∀ a, g (f a) = g a) :
    (l.modify i f).map g = l.map g := by
  rw [map_modify l i (h := id) same, List.modify_id]

theorem flatMap_modify_perm (present : l[i]? = some a) (f : α → α) (g : α → List β) :
    ((l.modify i f).flatMap g).Perm (g (f a) ++ (l.eraseIdx i).flatMap g) := by
  obtain ⟨before, rest, -, erased, modified⟩ := exists_split present
  rw [modified, erased, List.flatMap_append, List.flatMap_append, List.flatMap_cons]
  exact List.perm_append_comm_assoc _ _ _

theorem flatMap_perm (present : l[i]? = some a) (g : α → List β) :
    (l.flatMap g).Perm (g a ++ (l.eraseIdx i).flatMap g) := by
  simpa using flatMap_modify_perm present id g

theorem flatMap_set_perm (bound : i < l.length) (b : α) (g : α → List β) :
    ((l.set i b).flatMap g).Perm (g b ++ (l.eraseIdx i).flatMap g) := by
  have present : (l.set i b)[i]? = some b := List.getElem?_set_self bound
  simpa [List.eraseIdx_set_eq] using flatMap_perm present g

theorem flatMap_modify_same {f : α → α} {g : α → List β} (l : List α) (same : ∀ a, g (f a) = g a) :
    (l.modify i f).flatMap g = l.flatMap g := by
  cases present : l[i]? with
  | none => rw [List.modify_eq_self (List.getElem?_eq_none_iff.mp present)]
  | some a =>
    obtain ⟨before, rest, whole, -, modified⟩ := exists_split present
    rw [modified, whole]
    simp [same]

theorem perm_append_right_comm (u v w : List α) : (u ++ v ++ w).Perm (u ++ w ++ v) := by
  rw [List.append_assoc, List.append_assoc]
  exact List.perm_append_comm.append_left u

section Zip

/-! The same for two lists side by side. -/

variable {γ : Type} (f : α → β → γ)

theorem zipWith_set {b : β} : ∀ {l : List α} {i : Nat} (r : List β), l[i]? = some a →
    List.zipWith f l (r.set i b) = (List.zipWith f l r).set i (f a b)
  | _ :: _, 0, [], _ => rfl
  | _ :: _, i + 1, [], _ => rfl
  | _ :: _, 0, _ :: _, present => by
    obtain rfl := Option.some.inj present
    rfl
  | _ :: _, i + 1, _ :: r, present => congrArg (List.cons _) (zipWith_set r present)

theorem zipWith_eraseIdx : ∀ (l : List α) (r : List β) (i : Nat),
    List.zipWith f (l.eraseIdx i) (r.eraseIdx i) = (List.zipWith f l r).eraseIdx i
  | [], _, _ => by simp
  | _ :: _, [], _ => by simp
  | _ :: _, _ :: _, 0 => rfl
  | _ :: l, _ :: r, i + 1 => congrArg (List.cons _) (zipWith_eraseIdx l r i)

end Zip

end Saloon.Lib
