import Saloon.Lib.Prog

/-!
# What a program returns or stops with

A condition on the values and one on the stops, for every state that the program
may start from. The parts of a sequence hand their values on.
-/
namespace Saloon.Lib

namespace Prog

variable {σ τ ε δ α β : Type} {P : α → Prop} {R : β → Prop} {Q : ε → Prop}

/-- Whatever `x` returns meets `P`, and whatever it stops with meets `Q`. -/
structure Yields (P : α → Prop) (Q : ε → Prop) (x : Prog σ ε α) : Prop where
  value : ∀ s a, (x s).1 = .ok a → P a
  stop : ∀ s e, (x s).1 = .error e → Q e

theorem yields_pure {a : α} (meets : P a) : Yields P Q (pure a : Prog σ ε α) where
  value s b returned := by
    cases returned
    exact meets
  stop s e stopped := by cases stopped

theorem yields_stop {e : ε} (meets : Q e) : Yields P Q (Prog.stop e : Prog σ ε α) where
  value s a returned := by cases returned
  stop s d stopped := by
    cases stopped
    exact meets

theorem yields_read {f : σ → α} (meets : ∀ s, P (f s)) : Yields P Q (read f : Prog σ ε α) where
  value s a returned := by
    cases returned
    exact meets s
  stop s e stopped := by cases stopped

theorem yields_bind {x : Prog σ ε α} {f : α → Prog σ ε β} (first : Yields P Q x)
    (rest : ∀ a, P a → Yields R Q (f a)) : Yields R Q (x >>= f) where
  value s b returned := by
    rw [bind_run] at returned
    rcases outcome : x s with ⟨e | a, t⟩
    · rw [outcome] at returned
      cases returned
    · rw [outcome] at returned
      exact (rest a (first.value s a (congrArg Prod.fst outcome))).value t b returned
  stop s e stopped := by
    rw [bind_run] at stopped
    rcases outcome : x s with ⟨d | a, t⟩
    · rw [outcome] at stopped
      cases stopped
      exact first.stop s e (congrArg Prod.fst outcome)
    · rw [outcome] at stopped
      exact (rest a (first.value s a (congrArg Prod.fst outcome))).stop t e stopped

theorem yields_ite {c : Prop} [Decidable c] {x y : Prog σ ε α} (yes : c → Yields P Q x)
    (no : ¬ c → Yields P Q y) : Yields P Q (if c then x else y) := by
  split
  · exact yes ‹_›
  · exact no ‹_›

theorem yields_zoom {get : σ → τ} {set : τ → σ → σ} {wrap : δ → ε} {x : Prog τ δ α}
    (inner : Yields P (fun d => Q (wrap d)) x) : Yields P Q (zoom get set wrap x) where
  value s a returned := by
    rw [zoom_run] at returned
    rcases outcome : x (get s) with ⟨d | b, t⟩
    · rw [outcome] at returned
      cases returned
    · rw [outcome] at returned
      cases returned
      exact inner.value (get s) a (congrArg Prod.fst outcome)
  stop s e stopped := by
    rw [zoom_run] at stopped
    rcases outcome : x (get s) with ⟨d | b, t⟩
    · rw [outcome] at stopped
      cases stopped
      exact inner.stop (get s) d (congrArg Prod.fst outcome)
    · rw [outcome] at stopped
      cases stopped

theorem yields_any (x : Prog σ ε α) : Yields (fun _ => True) (fun _ => True) x :=
  ⟨fun _ _ _ => trivial, fun _ _ _ => trivial⟩

end Prog

end Saloon.Lib
