import Mathlib.Algebra.BigOperators.Group.List.Basic
import Mathlib.Data.List.Nodup
import Saloon.Lib.Query

/-!
# Tables with automatic row ids

A `Table α` is the list of its rows in id order together with the highest id
ever given out. The two facts an id column guarantees are fields: ids are
pairwise distinct, and they lie between one and that highest id, so the next
insert never meets an existing row. Rows are only inserted and modified here.
-/
namespace Saloon.Lib

structure Row (α : Type) where
  id : Nat
  cols : α
  deriving DecidableEq

structure Table (α : Type) where
  rows : List (Row α)
  seq : Nat
  ids_nodup : (rows.map Row.id).Nodup
  ids_range : ∀ r ∈ rows, 1 ≤ r.id ∧ r.id ≤ seq

namespace Table

variable {α : Type}

@[ext] theorem ext {t u : Table α} (rows : t.rows = u.rows) (seq : t.seq = u.seq) : t = u := by
  cases t
  cases u
  cases rows
  cases seq
  rfl

def empty : Table α := ⟨[], 0, by simp, by simp⟩

/-- The id the next insert gives. -/
def nextId (t : Table α) : Nat := t.seq + 1

def insert (t : Table α) (a : α) : Table α where
  rows := t.rows ++ [⟨t.nextId, a⟩]
  seq := t.nextId
  ids_nodup := by
    have fresh : t.nextId ∉ t.rows.map Row.id := by
      simp only [List.mem_map, not_exists, not_and]
      intro r member same
      have := (t.ids_range r member).2
      simp only [nextId] at same
      omega
    simpa [List.nodup_append, t.ids_nodup] using fresh
  ids_range := by
    intro r member
    rcases List.mem_append.mp member with old | new
    · have := t.ids_range r old
      simp only [nextId]
      omega
    · rw [List.mem_singleton] at new
      subst new
      simp [nextId]

/-- Rewrite the columns of the rows that `p` selects. -/
def modify (t : Table α) (p : Row α → Bool) (f : α → α) : Table α where
  rows := t.rows.map fun r => if p r then { r with cols := f r.cols } else r
  seq := t.seq
  ids_nodup := by
    have same : (t.rows.map fun r => if p r then { r with cols := f r.cols } else r).map Row.id =
        t.rows.map Row.id := by
      rw [List.map_map]
      refine List.map_congr_left fun r _ => ?_
      simp only [Function.comp_apply]
      split <;> rfl
    rw [same]
    exact t.ids_nodup
  ids_range := by
    intro r member
    obtain ⟨old, oldMember, rfl⟩ := List.mem_map.mp member
    have := t.ids_range old oldMember
    split <;> exact this

def ofList (as : List α) : Table α := as.foldl insert empty

def find? (t : Table α) (p : Row α → Bool) : Option (Row α) := t.rows.find? p

/-- The sum of `f` over the rows that `p` selects. -/
def sumOver {M : Type} [AddMonoid M] (t : Table α) (p : Row α → Bool) (f : Row α → M) : M :=
  ((t.rows.filter p).map f).sum

@[simp] theorem insert_rows (t : Table α) (a : α) :
    (t.insert a).rows = t.rows ++ [⟨t.nextId, a⟩] := rfl

@[simp] theorem insert_seq (t : Table α) (a : α) : (t.insert a).seq = t.nextId := rfl

theorem mem_insert {t : Table α} {a : α} {r : Row α} :
    r ∈ (t.insert a).rows ↔ r ∈ t.rows ∨ r = ⟨t.nextId, a⟩ := by simp

theorem mem_insert_self (t : Table α) (a : α) : ⟨t.nextId, a⟩ ∈ (t.insert a).rows := by simp

theorem mem_modify {t : Table α} {p : Row α → Bool} {f : α → α} {r : Row α} :
    r ∈ (t.modify p f).rows ↔
      ∃ old ∈ t.rows, r = if p old then { old with cols := f old.cols } else old := by
  simp only [modify, List.mem_map]
  exact ⟨fun ⟨old, member, same⟩ => ⟨old, member, same.symm⟩,
    fun ⟨old, member, same⟩ => ⟨old, member, same.symm⟩⟩

theorem insert_inj {t : Table α} {a b : α} : t.insert a = t.insert b ↔ a = b := by
  constructor
  · intro same
    have rows := congrArg Table.rows same
    simpa using rows
  · rintro rfl
    rfl

theorem insert_ne_self (t : Table α) (a : α) : t.insert a ≠ t := by
  intro same
  have lengths := congrArg (fun u : Table α => u.rows.length) same
  simp at lengths

@[simp] theorem ids_insert (t : Table α) (a : α) :
    (t.insert a).rows.map Row.id = t.rows.map Row.id ++ [t.nextId] := by simp

@[simp] theorem ids_modify (t : Table α) (p : Row α → Bool) (f : α → α) :
    (t.modify p f).rows.map Row.id = t.rows.map Row.id := by
  simp only [modify, List.map_map]
  refine List.map_congr_left fun r _ => ?_
  simp only [Function.comp_apply]
  split <;> rfl

/-- An id names one row. -/
theorem eq_of_id_eq (t : Table α) {r s : Row α} (left : r ∈ t.rows) (right : s ∈ t.rows)
    (same : r.id = s.id) : r = s :=
  List.inj_on_of_nodup_map t.ids_nodup left right same

theorem id_ne_nextId (t : Table α) {r : Row α} (member : r ∈ t.rows) : r.id ≠ t.nextId := by
  have := (t.ids_range r member).2
  simp only [nextId]
  omega

theorem mem_of_find? {t : Table α} {p : Row α → Bool} {r : Row α} (found : t.find? p = some r) :
    r ∈ t.rows ∧ p r = true :=
  ⟨List.mem_of_find?_eq_some found, List.find?_some found⟩

theorem find?_eq_none {t : Table α} {p : Row α → Bool} :
    t.find? p = none ↔ ∀ r ∈ t.rows, p r = false := by
  simp [find?]

/-- A selection that at most one row meets finds that row. -/
theorem find?_of_unique {t : Table α} {p : Row α → Bool} {r : Row α} (member : r ∈ t.rows)
    (selected : p r = true) (unique : ∀ s ∈ t.rows, p s = true → s = r) : t.find? p = some r :=
  find?_eq_of_unique member selected unique

/-- A condition that only `r` meets selects just that row. -/
theorem filter_of_unique {t : Table α} {p : Row α → Bool} {r : Row α} (member : r ∈ t.rows)
    (selected : p r = true) (unique : ∀ s ∈ t.rows, p s = true → s = r) :
    t.rows.filter p = [r] := by
  have nodup : t.rows.Nodup := List.Nodup.of_map Row.id t.ids_nodup
  refine List.perm_singleton.mp ((List.perm_ext_iff_of_nodup (nodup.filter p) (by simp)).mpr ?_)
  intro s
  rw [List.mem_filter, List.mem_singleton]
  constructor
  · rintro ⟨sMember, sSelected⟩
    exact unique s sMember sSelected
  · rintro rfl
    exact ⟨member, selected⟩

/-- A modification that changes no selected row changes nothing. -/
theorem modify_eq_self {t : Table α} {p : Row α → Bool} {f : α → α}
    (same : ∀ r ∈ t.rows, p r = true → f r.cols = r.cols) : t.modify p f = t := by
  apply ext
  · conv_rhs => rw [← List.map_id t.rows]
    refine List.map_congr_left fun r member => ?_
    by_cases selected : p r
    · simp [selected, same r member selected]
    · simp [selected]
  · rfl

theorem modify_congr {t : Table α} {p q : Row α → Bool} {f : α → α}
    (same : ∀ r ∈ t.rows, p r = q r) : t.modify p f = t.modify q f := by
  apply ext
  · refine List.map_congr_left fun r member => ?_
    rw [same r member]
  · rfl

/-- A table whose modification is itself had nothing to change. -/
theorem cols_of_modify_eq_self {t : Table α} {p : Row α → Bool} {f : α → α}
    (same : t.modify p f = t) {r : Row α} (member : r ∈ t.rows) (selected : p r = true) :
    f r.cols = r.cols := by
  have changed : { r with cols := f r.cols } ∈ t.rows := by
    rw [← same]
    exact mem_modify.mpr ⟨r, member, by simp [selected]⟩
  have := t.eq_of_id_eq changed member rfl
  exact congrArg Row.cols this

section Sums

variable {M : Type} [AddMonoid M]

theorem sumOver_insert (t : Table α) (a : α) (p : Row α → Bool) (f : Row α → M) :
    (t.insert a).sumOver p f =
      t.sumOver p f + if p ⟨t.nextId, a⟩ then f ⟨t.nextId, a⟩ else 0 := by
  simp only [sumOver, insert_rows, List.filter_append, List.map_append, List.sum_append]
  by_cases selected : p ⟨t.nextId, a⟩ <;> simp [selected]

theorem sumOver_eq_zero (t : Table α) (p : Row α → Bool) (f : Row α → M)
    (nothing : ∀ r ∈ t.rows, p r = false) : t.sumOver p f = 0 := by
  have none : t.rows.filter p = [] := by
    rw [List.filter_eq_nil_iff]
    intro r member
    simp [nothing r member]
  simp [sumOver, none]

theorem sumOver_congr {t : Table α} {p q : Row α → Bool} (f : Row α → M)
    (same : ∀ r ∈ t.rows, p r = q r) : t.sumOver p f = t.sumOver q f := by
  unfold sumOver
  rw [List.filter_congr same]

/-- Counting nothing for some rows is leaving them out. -/
theorem sumOver_ite (t : Table α) (p q : Row α → Bool) (f : Row α → M) :
    (t.sumOver p fun r => if q r then f r else 0) = t.sumOver (fun r => p r && q r) f := by
  unfold sumOver
  induction t.rows with
  | nil => rfl
  | cons r rows ih =>
    by_cases first : p r <;> by_cases second : q r <;> simp_all

end Sums

/-- The rows of `t` stand unchanged in `u`, which may have more behind them. -/
def Extends (t u : Table α) : Prop := t.rows <+: u.rows

theorem Extends.refl (t : Table α) : t.Extends t := List.prefix_refl _

theorem Extends.trans {t u v : Table α} (first : t.Extends u) (second : u.Extends v) :
    t.Extends v := List.IsPrefix.trans first second

theorem extends_insert (t : Table α) (a : α) : t.Extends (t.insert a) := List.prefix_append _ _

theorem extends_foldl_insert (rows : List α) (t : Table α) :
    t.Extends (rows.foldl insert t) := by
  induction rows generalizing t with
  | nil => exact .refl t
  | cons row rows ih => exact (extends_insert t row).trans (ih _)

/-- Inserting a list puts it behind what is there. -/
theorem cols_foldl_insert (rows : List α) (t : Table α) :
    (rows.foldl insert t).rows.map Row.cols = t.rows.map Row.cols ++ rows := by
  induction rows generalizing t with
  | nil => simp
  | cons row rows ih =>
    rw [List.foldl_cons, ih, insert_rows, List.map_append, List.append_assoc]
    rfl

/-- What inserting a list adds to a sum over columns. -/
theorem sumOver_foldl_insert {M : Type} [AddMonoid M] (rows : List α) (t : Table α) (p : α → Bool)
    (f : α → M) :
    ((rows.foldl insert t).sumOver (fun r => p r.cols) fun r => f r.cols) =
      (t.sumOver (fun r => p r.cols) fun r => f r.cols) + ((rows.filter p).map f).sum := by
  have columns : ∀ u : Table α, (u.sumOver (fun r => p r.cols) fun r => f r.cols) =
      (((u.rows.map Row.cols).filter p).map f).sum := by
    intro u
    rw [sumOver, List.filter_map, List.map_map]
    rfl
  rw [columns, columns, cols_foldl_insert, List.filter_append, List.map_append, List.sum_append]

/-- The rows that inserting a list adds are rows of the list. -/
theorem mem_foldl_insert {rows : List α} {t : Table α} {r : Row α}
    (member : r ∈ (rows.foldl insert t).rows) : r ∈ t.rows ∨ r.cols ∈ rows := by
  induction rows generalizing t with
  | nil => exact .inl member
  | cons row rows ih =>
    rcases ih member with old | new
    · rcases mem_insert.mp old with old | rfl
      · exact .inl old
      · exact .inr (by simp)
    · exact .inr (List.mem_cons_of_mem row new)

theorem Extends.mem {t u : Table α} (more : t.Extends u) {r : Row α} (member : r ∈ t.rows) :
    r ∈ u.rows := List.IsPrefix.subset more member

/-- Every row of `t` is still there under its id, whatever became of its columns. -/
def Keeps (t u : Table α) : Prop := t.rows.map Row.id <+: u.rows.map Row.id

theorem Keeps.refl (t : Table α) : t.Keeps t := List.prefix_refl _

theorem Keeps.trans {t u v : Table α} (first : t.Keeps u) (second : u.Keeps v) : t.Keeps v :=
  List.IsPrefix.trans first second

theorem Extends.keeps {t u : Table α} (more : t.Extends u) : t.Keeps u :=
  List.IsPrefix.map Row.id more

theorem keeps_insert (t : Table α) (a : α) : t.Keeps (t.insert a) := (extends_insert t a).keeps

theorem keeps_modify (t : Table α) (p : Row α → Bool) (f : α → α) : t.Keeps (t.modify p f) := by
  simp [Keeps]

theorem Keeps.exists_id {t u : Table α} (kept : t.Keeps u) {r : Row α} (member : r ∈ t.rows) :
    ∃ s ∈ u.rows, s.id = r.id := by
  have present := List.IsPrefix.subset kept (List.mem_map_of_mem (f := Row.id) member)
  obtain ⟨s, sMember, same⟩ := List.mem_map.mp present
  exact ⟨s, sMember, same⟩

section Columns

variable {β : Type} {f : α → β}

/-- Every row of `t` is still there under its id, with what `f` reads of it. -/
def KeepsColumn (f : α → β) (t u : Table α) : Prop :=
  ∀ r ∈ t.rows, ∃ s ∈ u.rows, s.id = r.id ∧ f s.cols = f r.cols

theorem KeepsColumn.refl (t : Table α) : t.KeepsColumn f t := fun r member => ⟨r, member, rfl, rfl⟩

theorem KeepsColumn.trans {t u v : Table α} (first : t.KeepsColumn f u)
    (second : u.KeepsColumn f v) : t.KeepsColumn f v := by
  intro r member
  obtain ⟨s, sMember, sId, sCols⟩ := first r member
  obtain ⟨q, qMember, qId, qCols⟩ := second s sMember
  exact ⟨q, qMember, qId.trans sId, qCols.trans sCols⟩

theorem keepsColumn_insert (t : Table α) (a : α) : t.KeepsColumn f (t.insert a) :=
  fun r member => ⟨r, mem_insert.mpr (.inl member), rfl, rfl⟩

theorem keepsColumn_modify (t : Table α) (p : Row α → Bool) {g : α → α}
    (same : ∀ a, f (g a) = f a) : t.KeepsColumn f (t.modify p g) := by
  intro r member
  refine ⟨_, mem_modify.mpr ⟨r, member, rfl⟩, ?_, ?_⟩
  · split <;> rfl
  · split
    · exact same r.cols
    · rfl

end Columns

end Table

end Saloon.Lib
