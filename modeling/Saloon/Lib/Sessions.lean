import Mathlib.Logic.Function.Basic
import Saloon.Lib.Run

/-!
# Caches that follow a session

A client holds in its fields what responses brought, and knows the session its
user is in. The end of a session empties the fields. A filled field is observed
with the session in which its request was sent; what breaks the isolation of
sessions is a response that comes into another one, and a session that follows
another without an end between them.
-/
namespace Saloon.Lib

@[ext] structure Cache (κ τ : Type) where
  /-- none when no one is logged in -/
  session : Option τ
  /-- the session that asked for what the field holds; none for an empty field -/
  held : κ → Option (Option τ)

namespace Cache

/-- What an event does to a cache. -/
inductive Change (κ τ : Type) where
  | keep
  | enter (session : Option τ)
  | fill (k : κ) (origin : Option τ)
  | clear (k : κ)

variable {κ τ : Type}

/-- Only the end of a session empties the fields. -/
def enter (session : Option τ) (c : Cache κ τ) : Cache κ τ :=
  match session, c.session with
  | none, none => c
  | none, some _ => ⟨none, fun _ => none⟩
  | some t, _ => ⟨some t, c.held⟩

def apply [DecidableEq κ] (c : Cache κ τ) : Change κ τ → Cache κ τ
  | .keep => c
  | .enter session => c.enter session
  | .fill k origin => { c with held := Function.update c.held k (some origin) }
  | .clear k => { c with held := Function.update c.held k none }

/-- Outside a session nothing is held; in a session an own field holds only what that
session asked for. -/
structure Isolated (own : κ → Prop) (c : Cache κ τ) : Prop where
  outside : c.session = none → ∀ k, c.held k = none
  inside : ∀ t, c.session = some t → ∀ k, own k → ∀ origin, c.held k = some origin →
    origin = some t

/-- The change comes in time: what fills an own field was asked for in the current
session, a shared field is filled in some session, and a session that begins while
another is on finds the own fields empty. -/
def InTime (own : κ → Prop) (c : Cache κ τ) : Change κ τ → Prop
  | .keep => True
  | .enter none => True
  | .enter (some t) => some t = c.session ∨ ∀ k, own k → c.held k = none
  | .fill k origin => c.session ≠ none ∧ (own k → origin = c.session)
  | .clear _ => True

section Steps

variable {own : κ → Prop} {c : Cache κ τ} {j k : κ} {origin : Option τ}

@[simp] theorem enter_session (c : Cache κ τ) : c.enter c.session = c := by
  obtain ⟨session, fields⟩ := c
  cases session <;> rfl

theorem Isolated.not_outside (isolated : Isolated own c) (filled : c.held k = some origin) :
    ∃ t, c.session = some t := by
  cases session : c.session with
  | none => cases (isolated.outside session k).symm.trans filled
  | some t => exact ⟨t, rfl⟩

theorem isolated_end (isolated : Isolated own c) : Isolated own (c.enter none) := by
  unfold enter
  cases session : c.session with
  | none => exact isolated
  | some t => exact ⟨fun _ _ => rfl, fun u begun => by cases begun⟩

/-- A session that begins inherits what the fields hold. -/
theorem isolated_begin (isolated : Isolated own c) (t : τ) :
    Isolated own (c.enter (some t)) ↔ InTime own c (.enter (some t)) := by
  constructor
  · intro still
    by_cases same : some t = c.session
    · exact .inl same
    · refine .inr fun k mine => ?_
      by_contra some
      obtain ⟨origin, filled⟩ := Option.ne_none_iff_exists'.mp some
      obtain ⟨u, session⟩ := isolated.not_outside filled
      have new : origin = Option.some t := still.inside t rfl k mine origin filled
      have old := isolated.inside u session k mine origin filled
      exact same (new.symm.trans (old.trans session.symm))
  · rintro (again | empty)
    · refine ⟨fun outside => (by cases outside), fun u begun => ?_⟩
      exact isolated.inside u (again.symm.trans begun)
    · refine ⟨fun outside => (by cases outside), fun u _ k mine origin filled => ?_⟩
      cases (empty k mine).symm.trans filled

variable [DecidableEq κ]

@[simp] theorem held_fill : (c.apply (.fill k origin)).held k = some origin :=
  Function.update_self ..

theorem held_fill_other (other : j ≠ k) : (c.apply (.fill k origin)).held j = c.held j :=
  Function.update_of_ne other ..

@[simp] theorem held_clear : (c.apply (.clear k)).held k = none := Function.update_self ..

theorem held_clear_other (other : j ≠ k) : (c.apply (.clear k)).held j = c.held j :=
  Function.update_of_ne other ..

theorem isolated_fill (isolated : Isolated own c) (k : κ) (origin : Option τ) :
    Isolated own (c.apply (.fill k origin)) ↔ InTime own c (.fill k origin) := by
  constructor
  · intro still
    obtain ⟨t, session⟩ := still.not_outside held_fill
    have present : c.session = some t := session
    refine ⟨by simp [present], fun mine => ?_⟩
    exact (still.inside t session k mine origin held_fill).trans present.symm
  · rintro ⟨present, current⟩
    refine ⟨fun outside => absurd outside present, fun t session j mine o holds => ?_⟩
    by_cases same : j = k
    · subst same
      obtain rfl : origin = o := Option.some.inj (held_fill.symm.trans holds)
      exact (current mine).trans session
    · rw [held_fill_other same] at holds
      exact isolated.inside t session j mine o holds

theorem isolated_clear (isolated : Isolated own c) (k : κ) :
    Isolated own (c.apply (.clear k)) := by
  have less : ∀ j, (c.apply (.clear k)).held j = none ∨
      (c.apply (.clear k)).held j = c.held j := by
    intro j
    by_cases same : j = k
    · subst same
      exact .inl held_clear
    · exact .inr (held_clear_other same)
  refine ⟨fun outside j => ?_, fun t session j mine origin holds => ?_⟩
  · rcases less j with empty | same
    · exact empty
    · exact same.trans (isolated.outside outside j)
  · rcases less j with empty | same
    · cases empty.symm.trans holds
    · exact isolated.inside t session j mine origin (same.symm.trans holds)

/-- A change keeps an isolated cache isolated exactly when it comes in time. -/
theorem isolated_apply (isolated : Isolated own c) (change : Change κ τ) :
    Isolated own (c.apply change) ↔ InTime own c change := by
  cases change with
  | keep => exact iff_of_true isolated trivial
  | enter session =>
    cases session with
    | none => exact iff_of_true (isolated_end isolated) trivial
    | some t => exact isolated_begin isolated t
  | fill k origin => exact isolated_fill isolated k origin
  | clear k => exact iff_of_true (isolated_clear isolated k) trivial

end Steps

section Runs

variable [DecidableEq κ] {σ α : Type} {own : κ → Prop} {step : α → σ → σ} {P : σ → Prop}
  {cache : σ → Cache κ τ} {change : α → σ → Change κ τ}

/-- A system that a cache simulates keeps its sessions apart in every state of a run
exactly when all the changes of the run come in time. -/
theorem isolated_along (kept : ∀ a s, P s → P (step a s))
    (simulates : ∀ a s, P s → cache (step a s) = (cache s).apply (change a s)) {s : σ}
    (holds : P s) (start : Isolated own (cache s)) (inputs : List α) :
    (∀ first, first <+: inputs → Isolated own (cache (run step s first))) ↔
      Along step (fun a s => InTime own (cache s) (change a s)) s inputs := by
  refine always_iff_along (P := fun s => Isolated own (cache s))
    (Q := fun s => P s ∧ Isolated own (cache s)) (fun _ both => both.2)
    (fun a s timely ⟨sound, isolated⟩ => ⟨kept a s sound, ?_⟩)
    (fun a s late ⟨sound, isolated⟩ still => late ?_) ⟨holds, start⟩ inputs
  · rw [simulates a s sound]
    exact (isolated_apply isolated _).mpr timely
  · rw [simulates a s sound] at still
    exact (isolated_apply isolated _).mp still

end Runs

end Cache

end Saloon.Lib
