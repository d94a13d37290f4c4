import Saloon.Lib.Table

/-!
# Parts of a table

A view of a table: some of its rows, under their ids, with some of their columns
blanked. A query that selects among the visible rows finds the same ones there.
-/
namespace Saloon.Lib

variable {α β : Type}

namespace Table

/-- The rows that `p` keeps, under their ids. -/
def filter (t : Table α) (p : Row α → Bool) : Table α where
  rows := t.rows.filter p
  seq := t.seq
  ids_nodup := t.ids_nodup.sublist (List.filter_sublist.map _)
  ids_range := fun r member => t.ids_range r (List.mem_of_mem_filter member)

/-- Every row with its columns rewritten. -/
def mapCols (t : Table α) (f : α → α) : Table α := t.modify (fun _ => true) f

@[simp] theorem filter_rows (t : Table α) (p : Row α → Bool) :
    (t.filter p).rows = t.rows.filter p := rfl

@[simp] theorem mapCols_rows (t : Table α) (f : α → α) :
    (t.mapCols f).rows = t.rows.map fun r => { r with cols := f r.cols } := rfl

/-- A selection among the rows that `v` keeps, by what the view shows of them. -/
theorem forall₂_part {t : Table α} {v p q : Row α → Bool} {f : α → α}
    (within : ∀ r ∈ t.rows, p r = true → v r = true)
    (same : ∀ r, q { r with cols := f r.cols } = p r) :
    List.Forall₂ (fun r s => s = { r with cols := f r.cols }) (t.rows.filter p)
      (((t.filter v).mapCols f).rows.filter q) := by
  have selected : (t.rows.filter v).filter p = t.rows.filter p := by
    rw [List.filter_filter]
    refine List.filter_congr fun r member => ?_
    by_cases chosen : p r = true
    · rw [chosen, within r member chosen]
      rfl
    · simp [chosen]
  have composed : q ∘ (fun r : Row α => { r with cols := f r.cols }) = p := funext same
  rw [mapCols_rows, filter_rows, List.filter_map, composed, selected]
  exact List.forall₂_map_right_iff.mpr (List.forall₂_same.mpr fun r _ => rfl)

end Table

/-- A condition on the results of a query that each of its rows decides. -/
theorem filter_flatMap {f : α → List β} {p : β → Bool} {q : α → Bool} {xs : List α}
    (decided : ∀ a, ∀ b ∈ f a, p b = q a) : (xs.flatMap f).filter p = (xs.filter q).flatMap f := by
  induction xs with
  | nil => rfl
  | cons a xs ih =>
    rw [List.flatMap_cons, List.filter_append, ih]
    by_cases kept : q a = true
    · have all : (f a).filter p = f a :=
        List.filter_eq_self.mpr fun b member => (decided a b member).trans kept
      rw [List.filter_cons_of_pos kept, List.flatMap_cons, all]
    · have none : (f a).filter p = [] :=
        List.filter_eq_nil_iff.mpr fun b member => by rw [decided a b member]; exact kept
      rw [List.filter_cons_of_neg kept, none, List.nil_append]

/-- Rows without results can be left out. -/
theorem flatMap_filter {f : α → List β} {q : α → Bool} {xs : List α}
    (without : ∀ a ∈ xs, q a = false → f a = []) : xs.flatMap f = (xs.filter q).flatMap f := by
  induction xs with
  | nil => rfl
  | cons a xs ih =>
    rw [List.flatMap_cons, ih fun b member => without b (by simp [member])]
    by_cases kept : q a = true
    · rw [List.filter_cons_of_pos kept, List.flatMap_cons]
    · rw [List.filter_cons_of_neg kept, without a (by simp) (by simpa using kept), List.nil_append]

end Saloon.Lib
