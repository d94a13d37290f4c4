import Saloon.Lib.Table

/-!
# Tables whose live rows do not clash

Rows come into a calendar by insert and leave or come back by changes of one
row. The calendar stays free of clashes when what becomes live was checked
against the rows that are.
-/
namespace Saloon.Lib

variable {α : Type}

/-- No two live rows clash. -/
def Exclusive (live : α → Prop) (clash : α → α → Prop) (t : Table α) : Prop :=
  ∀ r ∈ t.rows, ∀ s ∈ t.rows, r ≠ s → live r.cols → live s.cols → ¬ clash r.cols s.cols

namespace Exclusive

variable {live : α → Prop} {clash : α → α → Prop} {t : Table α}

theorem insert {a : α} (symm : ∀ b c, clash b c → clash c b)
    (fresh : ∀ r ∈ t.rows, live r.cols → ¬ clash a r.cols) (free : Exclusive live clash t) :
    Exclusive live clash (t.insert a) := by
  intro r rMember s sMember different rLive sLive clashes
  rcases Table.mem_insert.mp rMember with rOld | rfl <;>
    rcases Table.mem_insert.mp sMember with sOld | rfl
  · exact free r rOld s sOld different rLive sLive clashes
  · exact fresh r rOld rLive (symm _ _ clashes)
  · exact fresh s sOld sLive clashes
  · exact different rfl

/-- One row may change to anything that is checked against the other live rows. -/
theorem modify {p : Row α → Bool} {f : α → α} (symm : ∀ b c, clash b c → clash c b)
    (one : ∀ r ∈ t.rows, ∀ s ∈ t.rows, p r = true → p s = true → r = s)
    (enters : ∀ r ∈ t.rows, p r = true → live (f r.cols) →
      ∀ s ∈ t.rows, s ≠ r → live s.cols → ¬ clash (f r.cols) s.cols)
    (free : Exclusive live clash t) : Exclusive live clash (t.modify p f) := by
  intro r rMember s sMember different
  obtain ⟨r, rOld, rfl⟩ := Table.mem_modify.mp rMember
  obtain ⟨s, sOld, rfl⟩ := Table.mem_modify.mp sMember
  have apart : s ≠ r := by
    rintro rfl
    exact different rfl
  by_cases rChanged : p r = true <;> by_cases sChanged : p s = true
  · exact absurd (one s sOld r rOld sChanged rChanged) apart
  · simp only [rChanged, if_true, sChanged]
    exact fun rLive sLive => enters r rOld rChanged rLive s sOld apart sLive
  · simp only [rChanged, sChanged, if_true]
    exact fun rLive sLive clashes =>
      enters s sOld sChanged sLive r rOld apart.symm rLive (symm _ _ clashes)
  · simp only [rChanged, sChanged]
    exact free r rOld s sOld apart.symm

end Exclusive

end Saloon.Lib
