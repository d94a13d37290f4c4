import Saloon.Lib.Table

/-!
# Running totals

A table of groups carries, in each group, a total that is meant to be the sum
over the entries of another table with the group's key. A `Tally` says which
columns these are. The rules give what an insert of an entry with its posting
to a group needs for the totals to stay right: the key must name one group, and
an entry must never be left without one.
-/
namespace Saloon.Lib

structure Tally (α ρ κ M : Type) where
  entryKey : α → κ
  weight : α → M
  groupKey : ρ → κ
  total : ρ → M

/-- A key names at most one row. -/
def UniqueKey {ρ κ : Type} (key : ρ → κ) (t : Table ρ) : Prop :=
  ∀ r ∈ t.rows, ∀ s ∈ t.rows, key r.cols = key s.cols → r = s

/-- Every entry has a group. -/
def Covers {α ρ κ : Type} (entryKey : α → κ) (groupKey : ρ → κ) (entries : Table α)
    (groups : Table ρ) : Prop :=
  ∀ x ∈ entries.rows, ∃ r ∈ groups.rows, groupKey r.cols = entryKey x.cols

section Keys

variable {ρ κ : Type} {key : ρ → κ} {t : Table ρ}

theorem UniqueKey.modify {p : Row ρ → Bool} {f : ρ → ρ} (keeps : ∀ r, key (f r) = key r)
    (unique : UniqueKey key t) : UniqueKey key (t.modify p f) := by
  have keyOf : ∀ old : Row ρ, key (if p old then { old with cols := f old.cols } else old).cols =
      key old.cols := by
    intro old
    split
    · exact keeps old.cols
    · rfl
  intro r rMember s sMember same
  obtain ⟨r, rOld, rfl⟩ := Table.mem_modify.mp rMember
  obtain ⟨s, sOld, rfl⟩ := Table.mem_modify.mp sMember
  rw [keyOf, keyOf] at same
  rw [unique r rOld s sOld same]

theorem UniqueKey.insert {a : ρ} (fresh : ∀ r ∈ t.rows, key r.cols ≠ key a)
    (unique : UniqueKey key t) : UniqueKey key (t.insert a) := by
  intro r rMember s sMember same
  rcases Table.mem_insert.mp rMember with rOld | rfl <;>
    rcases Table.mem_insert.mp sMember with sOld | rfl
  · exact unique r rOld s sOld same
  · exact absurd same (fresh r rOld)
  · exact absurd same.symm (fresh s sOld)
  · rfl

/-- One row takes a new key that no other row has. -/
theorem UniqueKey.rekey {p : Row ρ → Bool} {f : ρ → ρ}
    (one : ∀ r ∈ t.rows, ∀ s ∈ t.rows, p r = true → p s = true → r = s)
    (free : ∀ r ∈ t.rows, p r = true → ∀ s ∈ t.rows, p s = false → key s.cols ≠ key (f r.cols))
    (unique : UniqueKey key t) : UniqueKey key (t.modify p f) := by
  intro r rMember s sMember same
  obtain ⟨r, rOld, rfl⟩ := Table.mem_modify.mp rMember
  obtain ⟨s, sOld, rfl⟩ := Table.mem_modify.mp sMember
  by_cases rHit : p r = true <;> by_cases sHit : p s = true
  · rw [one r rOld s sOld rHit sHit]
  · simp only [rHit, sHit, if_true] at same
    exact absurd same.symm (free r rOld rHit s sOld (by simpa using sHit))
  · simp only [rHit, sHit, if_true] at same
    exact absurd same (free s sOld sHit r rOld (by simpa using rHit))
  · simp only [rHit, sHit] at same
    rw [unique r rOld s sOld same]

theorem uniqueKey_of_nodup (nodup : (t.rows.map fun r => key r.cols).Nodup) : UniqueKey key t :=
  fun _ rMember _ sMember same => List.inj_on_of_nodup_map nodup rMember sMember same

end Keys

section Covering

variable {α ρ κ : Type} {entryKey : α → κ} {groupKey : ρ → κ} {entries : Table α} {groups : Table ρ}

/-- Groups may be added, and may change but for their keys. -/
theorem Covers.groups_modify {p : Row ρ → Bool} {f : ρ → ρ}
    (keeps : ∀ r, groupKey (f r) = groupKey r) (covered : Covers entryKey groupKey entries groups) :
    Covers entryKey groupKey entries (groups.modify p f) := by
  intro x member
  obtain ⟨r, rMember, same⟩ := covered x member
  refine ⟨_, Table.mem_modify.mpr ⟨r, rMember, rfl⟩, ?_⟩
  split
  · exact (keeps r.cols).trans same
  · exact same

theorem Covers.groups_insert {g : ρ} (covered : Covers entryKey groupKey entries groups) :
    Covers entryKey groupKey entries (groups.insert g) := by
  intro x member
  obtain ⟨r, rMember, same⟩ := covered x member
  exact ⟨r, Table.mem_insert.mpr (.inl rMember), same⟩

theorem Covers.entries_insert {a : α} (group : ∃ r ∈ groups.rows, groupKey r.cols = entryKey a)
    (covered : Covers entryKey groupKey entries groups) :
    Covers entryKey groupKey (entries.insert a) groups := by
  intro x member
  rcases Table.mem_insert.mp member with old | rfl
  · exact covered x old
  · exact group

/-- A key without a group has no entries. -/
theorem Covers.no_entries {k : κ} (covered : Covers entryKey groupKey entries groups)
    (absent : ∀ r ∈ groups.rows, groupKey r.cols ≠ k) : ∀ x ∈ entries.rows, entryKey x.cols ≠ k := by
  intro x member same
  obtain ⟨r, rMember, key⟩ := covered x member
  exact absent r rMember (key.trans same)

end Covering

namespace Tally

variable {α ρ κ M : Type} [AddCommMonoid M] [DecidableEq κ] (T : Tally α ρ κ M)

/-- The sum over the entries of a key. -/
def sum (entries : Table α) (k : κ) : M :=
  entries.sumOver (fun x => T.entryKey x.cols = k) fun x => T.weight x.cols

/-- Every group's total is the sum over its entries. -/
def Balanced (entries : Table α) (groups : Table ρ) : Prop :=
  ∀ r ∈ groups.rows, T.total r.cols = T.sum entries (T.groupKey r.cols)

variable {T} {entries : Table α} {groups : Table ρ}

theorem sum_insert_self (a : α) :
    T.sum (entries.insert a) (T.entryKey a) = T.sum entries (T.entryKey a) + T.weight a := by
  simp [sum, Table.sumOver_insert]

theorem sum_insert_other {a : α} {k : κ} (other : T.entryKey a ≠ k) :
    T.sum (entries.insert a) k = T.sum entries k := by
  simp [sum, Table.sumOver_insert, other]

theorem sum_eq_zero {k : κ} (none : ∀ x ∈ entries.rows, T.entryKey x.cols ≠ k) :
    T.sum entries k = 0 :=
  Table.sumOver_eq_zero _ _ _ fun x member => by simp [none x member]

/-- Changing groups in other columns. -/
theorem Balanced.groups_modify {p : Row ρ → Bool} {f : ρ → ρ}
    (keepsKey : ∀ r, T.groupKey (f r) = T.groupKey r) (keepsTotal : ∀ r, T.total (f r) = T.total r)
    (balanced : T.Balanced entries groups) : T.Balanced entries (groups.modify p f) := by
  intro r member
  obtain ⟨old, oldMember, rfl⟩ := Table.mem_modify.mp member
  split
  · exact (keepsTotal _).trans ((balanced old oldMember).trans (by rw [keepsKey]))
  · exact balanced old oldMember

/-- A new group for a key that no entry has begins at zero. -/
theorem Balanced.groups_insert {g : ρ} (zero : T.total g = 0)
    (none : ∀ x ∈ entries.rows, T.entryKey x.cols ≠ T.groupKey g)
    (balanced : T.Balanced entries groups) : T.Balanced entries (groups.insert g) := by
  intro r member
  rcases Table.mem_insert.mp member with old | rfl
  · exact balanced r old
  · rw [zero, sum_eq_zero none]

/-- An entry posted to the one group of its key. -/
theorem Balanced.post {a : α} {f : ρ → ρ} {r : Row ρ} (unique : UniqueKey T.groupKey groups)
    (member : r ∈ groups.rows) (key : T.groupKey r.cols = T.entryKey a)
    (keepsKey : ∀ s, T.groupKey (f s) = T.groupKey s)
    (adds : ∀ s, T.total (f s) = T.total s + T.weight a) (balanced : T.Balanced entries groups) :
    T.Balanced (entries.insert a) (groups.modify (fun s => s.id = r.id) f) := by
  intro s sMember
  obtain ⟨old, oldMember, rfl⟩ := Table.mem_modify.mp sMember
  by_cases same : old.id = r.id
  · obtain rfl := groups.eq_of_id_eq oldMember member same
    simp only [decide_true, if_true]
    rw [adds, keepsKey, key, sum_insert_self, balanced _ oldMember, key]
  · have other : T.entryKey a ≠ T.groupKey old.cols := fun equal =>
      same (congrArg Row.id (unique old oldMember r member (equal.symm.trans key.symm)))
    simp only [same, decide_false]
    exact (balanced old oldMember).trans (sum_insert_other other).symm

/-- An entry that opens the group of its key. -/
theorem Balanced.opened {a : α} {g : ρ} (key : T.groupKey g = T.entryKey a)
    (first : T.total g = T.weight a) (absent : ∀ r ∈ groups.rows, T.groupKey r.cols ≠ T.entryKey a)
    (none : ∀ x ∈ entries.rows, T.entryKey x.cols ≠ T.entryKey a)
    (balanced : T.Balanced entries groups) : T.Balanced (entries.insert a) (groups.insert g) := by
  intro r member
  rcases Table.mem_insert.mp member with old | rfl
  · exact (balanced r old).trans (sum_insert_other fun same => absent r old same.symm).symm
  · rw [first, key, sum_insert_self, sum_eq_zero none, zero_add]

end Tally

end Saloon.Lib
