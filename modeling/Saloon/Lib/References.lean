import Saloon.Lib.Table

/-!
# References between tables

A column that holds ids of another table refers to its rows. Inserts, updates
that leave the column, and whatever keeps the rows of the parent keep such
references.
-/
namespace Saloon.Lib

variable {α β : Type} {column : α → Option Nat} {t u : Table α} {parent parent' : Table β}

/-- Each id in the column is the id of a row of the parent. -/
def Refers (column : α → Option Nat) (t : Table α) (parent : Table β) : Prop :=
  ∀ r ∈ t.rows, ∀ i, column r.cols = some i → ∃ p ∈ parent.rows, p.id = i

theorem refers_empty (column : α → Option Nat) (parent : Table β) :
    Refers column Table.empty parent := fun _ member => by cases member

theorem Refers.kept (refers : Refers column t parent) (keeps : parent.Keeps parent') :
    Refers column t parent' := by
  intro r member i named
  obtain ⟨p, pMember, rfl⟩ := refers r member i named
  exact keeps.exists_id pMember

theorem Refers.insert {a : α} (refers : Refers column t parent)
    (resolves : ∀ i, column a = some i → ∃ p ∈ parent.rows, p.id = i) :
    Refers column (t.insert a) parent := by
  intro r member i named
  rcases Table.mem_insert.mp member with old | rfl
  · exact refers r old i named
  · exact resolves i named

theorem Refers.foldl_insert {rows : List α} (refers : Refers column t parent)
    (resolve : ∀ a ∈ rows, ∀ i, column a = some i → ∃ p ∈ parent.rows, p.id = i) :
    Refers column (rows.foldl Table.insert t) parent := by
  intro r member i named
  rcases Table.mem_foldl_insert member with old | new
  · exact refers r old i named
  · exact resolve _ new i named

/-- An update of other columns, or of this one by ids that resolve. -/
theorem Refers.modify {p : Row α → Bool} {f : α → α} (refers : Refers column t parent)
    (resolves : ∀ a i, column (f a) = some i → column a = some i ∨ ∃ p ∈ parent.rows, p.id = i) :
    Refers column (t.modify p f) parent := by
  intro r member i named
  obtain ⟨old, oldMember, rfl⟩ := Table.mem_modify.mp member
  split at named
  · rcases resolves _ _ named with same | resolved
    · exact refers old oldMember i same
    · exact resolved
  · exact refers old oldMember i named

theorem Refers.same {p : Row α → Bool} {f : α → α} (refers : Refers column t parent)
    (same : ∀ a, column (f a) = column a) : Refers column (t.modify p f) parent :=
  refers.modify fun a _ named => .inl ((same a).symm.trans named)

end Saloon.Lib
