import Mathlib.Logic.Function.Basic
import Saloon.Lib.Run

/-!
# Interleaved processes

Processes with a local state each, over one shared state. A step of the system
is one atomic step of one process, and a schedule is the list of the processes
that step. An assertion about each process holds throughout when its own steps
establish it again and the steps of others leave it alone.
-/
namespace Saloon.Lib

structure System (ι ρ σ : Type) where
  shared : σ
  locals : ι → ρ

namespace System

variable {ι ρ σ : Type} [DecidableEq ι]

def step (act : ι → ρ → σ → ρ × σ) (i : ι) (s : System ι ρ σ) : System ι ρ σ where
  shared := (act i (s.locals i) s.shared).2
  locals := Function.update s.locals i (act i (s.locals i) s.shared).1

variable {act : ι → ρ → σ → ρ × σ} {i j : ι} {s : System ι ρ σ}

@[simp] theorem step_shared : (step act i s).shared = (act i (s.locals i) s.shared).2 := rfl

@[simp] theorem step_self : (step act i s).locals i = (act i (s.locals i) s.shared).1 :=
  Function.update_self ..

theorem step_other (other : j ≠ i) : (step act i s).locals j = s.locals j :=
  Function.update_of_ne other ..

/-- Assertions about the processes, one each, survive a step of any of them. -/
theorem step_keeps {Q : ι → ρ → σ → Prop}
    (own : ∀ i r t, Q i r t → Q i (act i r t).1 (act i r t).2)
    (others : ∀ i j r q t, i ≠ j → Q i r t → Q j q t → Q j q (act i r t).2)
    (all : ∀ j, Q j (s.locals j) s.shared) (i : ι) :
    ∀ j, Q j ((step act i s).locals j) (step act i s).shared := by
  intro j
  by_cases same : j = i
  · subst same
    rw [step_self]
    exact own j _ _ (all j)
  · rw [step_other same]
    exact others i j _ _ _ (Ne.symm same) (all i) (all j)

end System

end Saloon.Lib
