import Mathlib.Data.List.Forall2

/-!
# Programs with a state and early stops

`Prog σ ε α` is a straight-line program over a state `σ`. It returns an `α` or
stops with an `ε`, and reports the state it leaves in both cases: what was
written before a stop is not lost unless the program itself restores it.
-/
namespace Saloon.Lib

def Prog (σ ε α : Type) : Type := σ → Except ε α × σ

namespace Prog

variable {σ τ ε δ α β : Type}

instance : Monad (Prog σ ε) where
  pure a := fun s => (.ok a, s)
  bind x f := fun s =>
    match x s with
    | (.ok a, t) => f a t
    | (.error e, t) => (.error e, t)

/-- Stop here. -/
def stop (e : ε) : Prog σ ε α := fun s => (.error e, s)

/-- A query of the state. -/
def read (f : σ → α) : Prog σ ε α := fun s => (.ok (f s), s)

/-- One write that cannot fail. -/
def update (f : σ → σ) : Prog σ ε Unit := fun s => (.ok (), f s)

/-- Run on a component of a larger state, with the stops seen through `wrap`. -/
def zoom (get : σ → τ) (set : τ → σ → σ) (wrap : ε → δ) (x : Prog τ ε α) : Prog σ δ α := fun s =>
  ((x (get s)).1.mapError wrap, set (x (get s)).2 s)

/-- The loop over a list. -/
def forEach (f : β → Prog σ ε Unit) : List β → Prog σ ε Unit
  | [] => pure ()
  | b :: bs => do
    f b
    forEach f bs

@[simp] theorem pure_run (a : α) (s : σ) : (pure a : Prog σ ε α) s = (.ok a, s) := rfl

@[simp] theorem stop_run (e : ε) (s : σ) : (stop e : Prog σ ε α) s = (.error e, s) := rfl

@[simp] theorem read_run (f : σ → α) (s : σ) : (read f : Prog σ ε α) s = (.ok (f s), s) := rfl

@[simp] theorem update_run (f : σ → σ) (s : σ) :
    (update f : Prog σ ε Unit) s = (.ok (), f s) := rfl

@[simp] theorem zoom_run (get : σ → τ) (set : τ → σ → σ) (wrap : ε → δ) (x : Prog τ ε α) (s : σ) :
    zoom get set wrap x s = ((x (get s)).1.mapError wrap, set (x (get s)).2 s) := rfl

theorem bind_run (x : Prog σ ε α) (f : α → Prog σ ε β) (s : σ) :
    (x >>= f) s =
      match x s with
      | (.ok a, t) => f a t
      | (.error e, t) => (.error e, t) := rfl

@[simp] theorem read_bind_run (f : σ → α) (g : α → Prog σ ε β) (s : σ) :
    (read f >>= g) s = g (f s) s := rfl

/-- Continue after a first part whose outcome is known to be a value. -/
theorem bind_of_ok {x : Prog σ ε α} {f : α → Prog σ ε β} {s t : σ} {a : α}
    (first : x s = (.ok a, t)) : (x >>= f) s = f a t := by
  rw [bind_run, first]

/-- A stop of the first part is a stop of the whole. -/
theorem bind_of_error {x : Prog σ ε α} {f : α → Prog σ ε β} {s t : σ} {e : ε}
    (first : x s = (.error e, t)) : (x >>= f) s = (.error e, t) := by
  rw [bind_run, first]

/-- A sequence returns exactly when both parts do. -/
theorem bind_eq_ok {x : Prog σ ε α} {f : α → Prog σ ε β} {s t : σ} {b : β} :
    (x >>= f) s = (.ok b, t) ↔ ∃ a u, x s = (.ok a, u) ∧ f a u = (.ok b, t) := by
  rw [bind_run]
  rcases x s with ⟨_ | a, u⟩
  · simp
  · constructor
    · exact fun second => ⟨a, u, rfl, second⟩
    · rintro ⟨_, _, ⟨⟩, second⟩
      exact second

theorem ite_run (c : Prop) [Decidable c] (x y : Prog σ ε α) (s : σ) :
    (if c then x else y) s = if c then x s else y s := by
  split <;> rfl

/-- A loop that ends is the run of its turns. Each turn made a `γ` out of its
element and moved the state by it; `P` is what every turn may rely on. -/
theorem forEach_eq_ok {γ : Type} (f : β → Prog σ ε Unit) (P : σ → Prop) (made : β → γ → Prop)
    (next : σ → γ → σ)
    (turn : ∀ b s t, P s → f b s = (.ok (), t) → ∃ c, made b c ∧ t = next s c ∧ P t)
    (bs : List β) (s t : σ) (start : P s) (ends : forEach f bs s = (.ok (), t)) :
    ∃ cs : List γ, List.Forall₂ made bs cs ∧ t = cs.foldl next s := by
  induction bs generalizing s with
  | nil =>
    simp only [forEach, pure_run, Prod.mk.injEq, true_and] at ends
    exact ⟨[], .nil, ends.symm⟩
  | cons b bs ih =>
    obtain ⟨_, u, first, rest⟩ := bind_eq_ok.mp ends
    obtain ⟨c, new, rfl, kept⟩ := turn b s u start first
    obtain ⟨cs, each, whole⟩ := ih _ kept rest
    exact ⟨c :: cs, .cons new each, whole⟩

/-- A loop ends when each of its turns does, from whatever the earlier ones left. -/
theorem forEach_ends (f : β → Prog σ ε Unit) (P : σ → Prop) (bs : List β)
    (turn : ∀ b ∈ bs, ∀ s, P s → ∃ t, f b s = (.ok (), t) ∧ P t) (s : σ) (start : P s) :
    ∃ t, forEach f bs s = (.ok (), t) ∧ P t := by
  induction bs generalizing s with
  | nil => exact ⟨s, rfl, start⟩
  | cons b bs ih =>
    obtain ⟨u, first, kept⟩ := turn b (by simp) s start
    obtain ⟨t, rest, last⟩ := ih (fun c member => turn c (by simp [member])) u kept
    exact ⟨t, by rw [forEach, bind_of_ok first, rest], last⟩

end Prog

end Saloon.Lib
