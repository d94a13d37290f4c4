import Saloon.Lib.Prog
import Saloon.Lib.Query
import Saloon.Lib.Run

/-!
# Two runs side by side

`InStep R Q x y`: from two states that `R` connects, `x` and `y` stop with one
error or return results that `Q` connects, and the states they leave are
connected again. A program in step with itself over `R` is blind to what `R`
blurs. The rules follow the constructors of `Prog`; queries of connected rows
give connected rows.
-/
namespace Saloon.Lib

variable {σ τ ε α β γ δ : Type}

/-- The same stop, or two results that `Q` connects. -/
def SameOutcome (Q : α → β → Prop) : Except ε α → Except ε β → Prop
  | .ok a, .ok b => Q a b
  | .error e, .error f => e = f
  | _, _ => False

theorem sameOutcome_eq {x y : Except ε α} : SameOutcome Eq x y ↔ x = y := by
  cases x <;> cases y <;> simp [SameOutcome]

namespace Prog

def InStep (R : σ → τ → Prop) (Q : α → β → Prop) (x : Prog σ ε α) (y : Prog τ ε β) : Prop :=
  ∀ s t, R s t → SameOutcome Q (x s).1 (y t).1 ∧ R (x s).2 (y t).2

/-- The program sees nothing of what `R` blurs. -/
abbrev Blind (R : σ → σ → Prop) (x : Prog σ ε α) : Prop := InStep R Eq x x

section Rules

variable {R : σ → τ → Prop} {P : α → β → Prop} {Q : γ → δ → Prop}

theorem inStep_pure {a : α} {b : β} (same : P a b) :
    InStep R P (pure a : Prog σ ε α) (pure b) := fun _ _ start => ⟨same, start⟩

theorem inStep_stop (e : ε) : InStep R P (stop e : Prog σ ε α) (stop e) :=
  fun _ _ start => ⟨rfl, start⟩

theorem inStep_read {f : σ → α} {g : τ → β} (same : ∀ s t, R s t → P (f s) (g t)) :
    InStep R P (read f : Prog σ ε α) (read g) := fun s t start => ⟨same s t start, start⟩

theorem inStep_bind {x : Prog σ ε α} {y : Prog τ ε β} {f : α → Prog σ ε γ} {g : β → Prog τ ε δ}
    (first : InStep R P x y) (rest : ∀ a b, P a b → InStep R Q (f a) (g b)) :
    InStep R Q (x >>= f) (y >>= g) := by
  intro s t start
  have outcome := first s t start
  rw [bind_run, bind_run]
  generalize x s = left at outcome ⊢
  generalize y t = right at outcome ⊢
  obtain ⟨same, next⟩ := outcome
  rcases left with ⟨e | a, s'⟩ <;> rcases right with ⟨e' | b, t'⟩
  · exact ⟨same, next⟩
  · exact same.elim
  · exact same.elim
  · exact rest a b same s' t' next

theorem inStep_ite {c d : Prop} [Decidable c] [Decidable d] (same : c ↔ d) {x x' : Prog σ ε α}
    {y y' : Prog τ ε β} (yes : c → InStep R P x y) (no : ¬ c → InStep R P x' y') :
    InStep R P (if c then x else x') (if d then y else y') := by
  by_cases taken : c
  · rw [if_pos taken, if_pos (same.mp taken)]
    exact yes taken
  · rw [if_neg taken, if_neg fun other => taken (same.mpr other)]
    exact no taken

end Rules

section Blindness

variable {R : σ → σ → Prop} {Q : α → β → Prop}

theorem blind_bind {x : Prog σ ε γ} {f : γ → Prog σ ε α} {g : γ → Prog σ ε β} (first : Blind R x)
    (rest : ∀ c, InStep R Q (f c) (g c)) : InStep R Q (x >>= f) (x >>= g) :=
  inStep_bind first fun a _ same => same ▸ rest a

theorem blind_ite {c : Prop} [Decidable c] {x y : Prog σ ε α} (yes : c → Blind R x)
    (no : ¬ c → Blind R y) : Blind R (if c then x else y) := inStep_ite Iff.rfl yes no

theorem blind_forEach {f : γ → Prog σ ε Unit} (turn : ∀ c, Blind R (f c)) (cs : List γ) :
    Blind R (forEach f cs) := by
  induction cs with
  | nil => exact inStep_pure rfl
  | cons c cs ih => exact blind_bind (turn c) fun _ => ih

/-- Two runs of a blind program end alike. -/
theorem Blind.run {x : Prog σ ε α} (blind : Blind R x) {s t : σ} (start : R s t) :
    (x s).1 = (x t).1 ∧ R (x s).2 (x t).2 :=
  ⟨sameOutcome_eq.mp (blind s t start).1, (blind s t start).2⟩

end Blindness

end Prog

section Steps

variable {ι ω : Type} {step : ι → σ → σ} {out : ι → σ → List ω} {R : σ → σ → Prop}

/-- Steps that put out the same from connected states do so all along a run. -/
theorem run_inStep {inputs : List ι}
    (one : ∀ i ∈ inputs, ∀ s t, R s t → out i s = out i t ∧ R (step i s) (step i t)) {s t : σ}
    (start : R s t) :
    emitted step out s inputs = emitted step out t inputs ∧
      R (run step s inputs) (run step t inputs) := by
  induction inputs generalizing s t with
  | nil => exact ⟨rfl, start⟩
  | cons i inputs ih =>
    obtain ⟨here, next⟩ := one i (by simp) s t start
    obtain ⟨later, last⟩ := ih (fun j member => one j (by simp [member])) next
    exact ⟨by rw [emitted, emitted, here, later], last⟩

end Steps

section Queries

variable {R : α → β → Prop} {xs : List α} {ys : List β}

theorem forall₂_orderedInsert {r : α → α → Prop} {q : β → β → Prop} [DecidableRel r]
    [DecidableRel q] (same : ∀ a a' b b', R a b → R a' b' → (r a a' ↔ q b b')) {a : α} {b : β}
    (head : R a b) (rows : List.Forall₂ R xs ys) :
    List.Forall₂ R (xs.orderedInsert r a) (ys.orderedInsert q b) := by
  induction rows with
  | nil => exact .cons head .nil
  | @cons a' b' xs ys here rest ih =>
    rw [List.orderedInsert, List.orderedInsert]
    by_cases before : r a a'
    · rw [if_pos before, if_pos ((same a a' b b' head here).mp before)]
      exact .cons head (.cons here rest)
    · rw [if_neg before, if_neg fun other => before ((same a a' b b' head here).mpr other)]
      exact .cons here ih

/-- ORDER BY something that connected rows share. -/
theorem forall₂_orderBy {cmp : α → α → Ordering} {cmp' : β → β → Ordering}
    (same : ∀ a a' b b', R a b → R a' b' → cmp a a' = cmp' b b') (rows : List.Forall₂ R xs ys) :
    List.Forall₂ R (orderBy cmp xs) (orderBy cmp' ys) := by
  have relation (a a' : α) (b b' : β) (left : R a b) (right : R a' b') :
      (cmp a a').isLE = true ↔ (cmp' b b').isLE = true := by rw [same a a' b b' left right]
  rw [orderBy, orderBy]
  induction rows with
  | nil => exact .nil
  | cons here rest ih =>
    rw [List.insertionSort_cons, List.insertionSort_cons]
    exact forall₂_orderedInsert relation here ih

/-- Connected rows on the left of a left join, partnered alike. -/
theorem forall₂_leftJoin {right : List γ} {on : α → γ → Bool} {on' : β → γ → Bool}
    (same : ∀ a b, R a b → on a = on' b) (rows : List.Forall₂ R xs ys) :
    List.Forall₂ (fun p q => R p.1 q.1 ∧ p.2 = q.2) (leftJoin xs right on)
      (leftJoin ys right on') := by
  refine List.rel_flatMap rows fun a b connected => ?_
  rw [same a b connected]
  cases right.filter (on' b) with
  | nil => exact .cons ⟨connected, rfl⟩ .nil
  | cons c cs =>
    refine List.rel_map (R := Eq) ?_ (List.forall₂_refl _)
    rintro _ c rfl
    exact ⟨connected, rfl⟩

theorem forall₂_filter {p : α → Bool} {q : β → Bool} (same : ∀ a b, R a b → p a = q b)
    (rows : List.Forall₂ R xs ys) : List.Forall₂ R (xs.filter p) (ys.filter q) := by
  refine List.rel_filter (fun a b connected => ?_) rows
  show p a = true ↔ q b = true
  rw [same a b connected]

/-- Connected rows on the right of a left join. -/
theorem forall₂_leftJoin_right {left : List γ} {on : γ → α → Bool} {on' : γ → β → Bool}
    (same : ∀ c a b, R a b → on c a = on' c b) (rows : List.Forall₂ R xs ys) :
    List.Forall₂ (fun p q => p.1 = q.1 ∧ Option.Rel R p.2 q.2) (leftJoin left xs on)
      (leftJoin left ys on') := by
  refine List.rel_flatMap (R := Eq) (List.forall₂_refl _) ?_
  rintro c _ rfl
  have partners := forall₂_filter (same c) rows
  beta_reduce
  generalize xs.filter (on c) = chosen at partners ⊢
  generalize ys.filter (on' c) = chosen' at partners ⊢
  cases partners with
  | nil => exact .cons ⟨rfl, .none⟩ .nil
  | cons here rest =>
    exact List.rel_map (fun a b connected => ⟨rfl, .some connected⟩) (.cons here rest)

/-- Connected rows on the right of a join. -/
theorem forall₂_join_right {left : List γ} {on : γ → α → Bool} {on' : γ → β → Bool}
    (same : ∀ c a b, R a b → on c a = on' c b) (rows : List.Forall₂ R xs ys) :
    List.Forall₂ (fun p q => p.1 = q.1 ∧ R p.2 q.2) (join left xs on) (join left ys on') := by
  refine List.rel_flatMap (R := Eq) (List.forall₂_refl _) ?_
  rintro c _ rfl
  exact List.rel_map (fun a b connected => ⟨rfl, connected⟩) (forall₂_filter (same c) rows)

/-- A column that connected rows share. -/
theorem map_eq_of_forall₂ {f : α → γ} {g : β → γ} (same : ∀ a b, R a b → f a = g b)
    (rows : List.Forall₂ R xs ys) : xs.map f = ys.map g := by
  induction rows with
  | nil => rfl
  | cons here rest ih => rw [List.map_cons, List.map_cons, same _ _ here, ih]

theorem any_eq_of_forall₂ {p : α → Bool} {q : β → Bool} (same : ∀ a b, R a b → p a = q b)
    (rows : List.Forall₂ R xs ys) : xs.any p = ys.any q := by
  induction rows with
  | nil => rfl
  | cons here rest ih => rw [List.any_cons, List.any_cons, same _ _ here, ih]

theorem find?_of_forall₂ {p : α → Bool} {q : β → Bool} (same : ∀ a b, R a b → p a = q b)
    (rows : List.Forall₂ R xs ys) : Option.Rel R (xs.find? p) (ys.find? q) := by
  induction rows with
  | nil => exact .none
  | @cons a b xs ys here rest ih =>
    rw [List.find?_cons, List.find?_cons, same a b here]
    cases q b with
    | true => exact .some here
    | false => exact ih

end Queries

end Saloon.Lib
