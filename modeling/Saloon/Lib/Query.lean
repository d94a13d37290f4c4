import Mathlib.Data.List.Sort

/-!
# Query results as lists

ORDER BY as a stable sort, inner and left joins. A result's members do not
depend on its order.
-/
namespace Saloon.Lib

variable {α β : Type}

def orderBy (cmp : α → α → Ordering) (rows : List α) : List α :=
  rows.insertionSort fun a b => (cmp a b).isLE

def descending (cmp : α → α → Ordering) (a b : α) : Ordering := cmp b a

def join (left : List α) (right : List β) (on : α → β → Bool) : List (α × β) :=
  left.flatMap fun a => (right.filter (on a)).map fun b => (a, b)

/-- A left row without a partner is kept, once, with nothing beside it. -/
def leftJoin (left : List α) (right : List β) (on : α → β → Bool) : List (α × Option β) :=
  left.flatMap fun a =>
    match right.filter (on a) with
    | [] => [(a, none)]
    | b :: bs => (b :: bs).map fun c => (a, some c)

theorem perm_orderBy (cmp : α → α → Ordering) (rows : List α) : (orderBy cmp rows).Perm rows :=
  List.perm_insertionSort _ rows

@[simp] theorem mem_orderBy {cmp : α → α → Ordering} {rows : List α} {a : α} :
    a ∈ orderBy cmp rows ↔ a ∈ rows := (perm_orderBy cmp rows).mem_iff

instance (cmp : α → α → Ordering) [Std.TransCmp cmp] : Std.TransCmp (descending cmp) :=
  inferInstanceAs (Std.TransCmp fun a b => cmp b a)

/-- An order on what is read of a row. -/
theorem transCmp_on (cmp : α → α → Ordering) [Std.TransCmp cmp] (f : β → α) :
    Std.TransCmp fun a b => cmp (f a) (f b) where
  eq_swap := Std.OrientedCmp.eq_swap
  isLE_trans := Std.TransCmp.isLE_trans

/-- ORDER BY sorts, by any order that is total and transitive. -/
theorem pairwise_orderBy (cmp : α → α → Ordering) [Std.TransCmp cmp] (rows : List α) :
    (orderBy cmp rows).Pairwise fun a b => (cmp a b).isLE := by
  have total : Std.Total fun a b => (cmp a b).isLE = true := ⟨fun a b => by
    rw [show cmp b a = (cmp a b).swap from Std.OrientedCmp.eq_swap]
    cases cmp a b <;> simp⟩
  have trans : IsTrans α fun a b => (cmp a b).isLE = true :=
    ⟨fun a b c => Std.TransCmp.isLE_trans⟩
  exact List.pairwise_insertionSort _ rows

/-- A join in which every left row has one partner keeps the left rows. -/
theorem map_fst_join {left : List α} {right : List β} {on : α → β → Bool}
    (one : ∀ a ∈ left, ∃ b, right.filter (on a) = [b]) :
    (join left right on).map Prod.fst = left := by
  rw [join, List.map_flatMap]
  refine (List.flatMap_congr fun a member => ?_).trans (List.flatMap_singleton' left)
  obtain ⟨b, partner⟩ := one a member
  rw [partner]
  rfl

/-- A left join keeps every left row. -/
theorem exists_mem_leftJoin {left : List α} {right : List β} {on : α → β → Bool} {a : α}
    (member : a ∈ left) : ∃ b, (a, b) ∈ leftJoin left right on := by
  simp only [leftJoin, List.mem_flatMap]
  cases partners : right.filter (on a) with
  | nil => exact ⟨none, a, member, by simp [partners]⟩
  | cons b bs => exact ⟨some b, a, member, by simp [partners]⟩

theorem fst_mem_of_mem_leftJoin {left : List α} {right : List β} {on : α → β → Bool}
    {p : α × Option β} (member : p ∈ leftJoin left right on) : p.1 ∈ left := by
  obtain ⟨a, present, found⟩ := List.mem_flatMap.mp member
  split at found
  · rw [List.mem_singleton.mp found]
    exact present
  · obtain ⟨b, -, rfl⟩ := List.mem_map.mp found
    exact present

/-- A left join in which no left row has two partners looks each row's partner up. -/
theorem leftJoin_eq_map {left : List α} {right : List β} {on : α → β → Bool}
    (single : ∀ a ∈ left, (right.filter (on a)).length ≤ 1) :
    leftJoin left right on = left.map fun a => (a, right.find? (on a)) := by
  rw [leftJoin, List.map_eq_flatMap]
  refine List.flatMap_congr fun a member => ?_
  rw [← List.head?_filter]
  have few := single a member
  match partners : right.filter (on a) with
  | [] => rfl
  | [b] => rfl
  | b :: c :: rest =>
    rw [partners] at few
    simp at few

/-- The only row that is looked for is found in whatever order. -/
theorem find?_eq_of_unique {p : α → Bool} {rows : List α} {a : α} (member : a ∈ rows)
    (sought : p a = true) (unique : ∀ b ∈ rows, p b = true → b = a) : rows.find? p = some a := by
  cases found : rows.find? p with
  | none => exact absurd sought (List.find?_eq_none.mp found a member)
  | some b => rw [unique b (List.mem_of_find?_eq_some found) (List.find?_some found)]

/-- A query that gives each row it keeps once is a selection. -/
theorem flatMap_eq_filter {p : α → Bool} {f : α → List α} {rows : List α}
    (one : ∀ a ∈ rows, f a = if p a then [a] else []) : rows.flatMap f = rows.filter p := by
  induction rows with
  | nil => rfl
  | cons a rows ih =>
    rw [List.flatMap_cons, one a (by simp), ih fun b member => one b (by simp [member])]
    by_cases kept : p a <;> simp [kept]

end Saloon.Lib
