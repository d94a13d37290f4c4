import Mathlib.Data.List.Basic

/-!
# Runs of a step function

A run takes a list of inputs one after the other. What one step keeps, a run
keeps; with a condition on the steps, a run whose steps all meet it keeps what
such a step keeps.
-/
namespace Saloon.Lib

variable {σ ι : Type}

def run (step : ι → σ → σ) (s : σ) (inputs : List ι) : σ := inputs.foldl (fun t i => step i t) s

/-- Every step of the run meets the condition `ok` in the state it starts from. -/
def Along (step : ι → σ → σ) (ok : ι → σ → Prop) (s : σ) : List ι → Prop
  | [] => True
  | i :: inputs => ok i s ∧ Along step ok (step i s) inputs

@[simp] theorem run_nil (step : ι → σ → σ) (s : σ) : run step s [] = s := rfl

@[simp] theorem run_cons (step : ι → σ → σ) (s : σ) (i : ι) (inputs : List ι) :
    run step s (i :: inputs) = run step (step i s) inputs := rfl

theorem run_append (step : ι → σ → σ) (s : σ) (first second : List ι) :
    run step s (first ++ second) = run step (run step s first) second := by
  simp [run]

/-- What one step keeps, a run keeps. -/
theorem run_keeps {step : ι → σ → σ} {P : σ → Prop} (one : ∀ i s, P s → P (step i s)) {s : σ}
    (start : P s) (inputs : List ι) : P (run step s inputs) := by
  induction inputs generalizing s with
  | nil => exact start
  | cons i inputs ih => exact ih (one i s start)

/-- From one condition on the steps to another, by what the first one keeps. -/
theorem Along.imp_of_keeps {step : ι → σ → σ} {ok other : ι → σ → Prop} {P : σ → Prop}
    (one : ∀ i s, ok i s → P s → other i s ∧ P (step i s)) {s : σ} (start : P s)
    {inputs : List ι} (along : Along step ok s inputs) : Along step other s inputs := by
  induction inputs generalizing s with
  | nil => trivial
  | cons i inputs ih =>
    obtain ⟨met, next⟩ := one i s along.1 start
    exact ⟨met, ih next along.2⟩

/-- The condition on a run, step by step. -/
theorem along_iff {step : ι → σ → σ} {ok : ι → σ → Prop} {s : σ} {inputs : List ι} :
    Along step ok s inputs ↔
      ∀ first i, first ++ [i] <+: inputs → ok i (run step s first) := by
  induction inputs generalizing s with
  | nil => simp [Along]
  | cons i inputs ih =>
    rw [Along, ih]
    constructor
    · rintro ⟨met, rest⟩ first j before
      cases first with
      | nil =>
        obtain ⟨rfl, -⟩ := List.cons_prefix_cons.mp before
        exact met
      | cons k first =>
        obtain ⟨rfl, within⟩ := List.cons_prefix_cons.mp before
        exact rest first j within
    · intro each
      refine ⟨each [] i (by simp), fun first j before => ?_⟩
      exact each (i :: first) j (List.cons_prefix_cons.mpr ⟨rfl, before⟩)

/-- What the steps that meet a condition keep, a run of such steps keeps. -/
theorem Along.keeps {step : ι → σ → σ} {ok : ι → σ → Prop} {P : σ → Prop}
    (one : ∀ i s, ok i s → P s → P (step i s)) {s : σ} (start : P s) {inputs : List ι}
    (along : Along step ok s inputs) : P (run step s inputs) := by
  induction inputs generalizing s with
  | nil => exact start
  | cons i inputs ih => exact ih (one i s along.1 start) along.2

/-- Where the steps that meet the condition keep `Q`, which gives `P`, and any other step
breaks `P`: a run has `P` in every state exactly when all its steps meet the condition. -/
theorem always_iff_along {step : ι → σ → σ} {ok : ι → σ → Prop} {P Q : σ → Prop}
    (weaken : ∀ s, Q s → P s) (good : ∀ i s, ok i s → Q s → Q (step i s))
    (bad : ∀ i s, ¬ ok i s → Q s → ¬ P (step i s)) {s : σ} (start : Q s) (inputs : List ι) :
    (∀ first, first <+: inputs → P (run step s first)) ↔ Along step ok s inputs := by
  constructor
  · intro always
    induction inputs generalizing s with
    | nil => trivial
    | cons i inputs ih =>
      have next : P (step i s) := always [i] (by simp)
      have met : ok i s := by
        by_contra unmet
        exact bad i s unmet start next
      refine ⟨met, ih (good i s met start) fun first before => ?_⟩
      exact always (i :: first) (List.cons_prefix_cons.mpr ⟨rfl, before⟩)
  · intro along first before
    induction inputs generalizing s first with
    | nil =>
      rw [List.prefix_nil.mp before]
      exact weaken s start
    | cons i inputs ih =>
      cases first with
      | nil => exact weaken s start
      | cons j first =>
        obtain ⟨rfl, rest⟩ := List.cons_prefix_cons.mp before
        exact ih (good j s along.1 start) along.2 first rest

section Until

variable {step : ι → σ → σ} {P : σ → Prop} {released : ι → σ → Prop} {s : σ} {inputs : List ι}

/-- Wherever the run has `P`, it keeps it until a step that releases it. -/
def StaysUntil (step : ι → σ → σ) (P : σ → Prop) (released : ι → σ → Prop) (s : σ)
    (inputs : List ι) : Prop :=
  ∀ before between, before ++ between <+: inputs → P (run step s before) →
    Along step (fun i t => ¬ released i t) (run step s before) between →
      P (run step s (before ++ between))

/-- It is enough to look at one step at a time. -/
theorem staysUntil_iff_along :
    StaysUntil step P released s inputs ↔
      Along step (fun i t => P t → ¬ released i t → P (step i t)) s inputs := by
  rw [along_iff]
  constructor
  · intro stays first i before now unreleased
    have next := stays first [i] before now ⟨unreleased, trivial⟩
    rwa [run_append] at next
  · intro each before between within now unreleased
    induction between generalizing before with
    | nil => rwa [List.append_nil]
    | cons i between ih =>
      have split : before ++ i :: between = (before ++ [i]) ++ between := by simp
      rw [split] at within ⊢
      have next : P (run step s (before ++ [i])) := by
        rw [run_append]
        exact each before i ((List.prefix_append _ _).trans within) now unreleased.1
      refine ih (before ++ [i]) within next ?_
      rw [run_append]
      exact unreleased.2

theorem along_forall {κ : Type} {ok : κ → ι → σ → Prop} :
    (∀ k, Along step (ok k) s inputs) ↔ Along step (fun i t => ∀ k, ok k i t) s inputs := by
  simp only [along_iff]
  exact ⟨fun all first i before k => all k first i before,
    fun all k first i before => all first i before k⟩

end Until

section Emitted

/-! What the steps of a run put out, the first step's first. -/

variable {ω : Type} {step : ι → σ → σ} {out : ι → σ → List ω}

def emitted (step : ι → σ → σ) (out : ι → σ → List ω) (s : σ) : List ι → List ω
  | [] => []
  | i :: inputs => out i s ++ emitted step out (step i s) inputs

theorem emitted_append (s : σ) (first second : List ι) :
    emitted step out s (first ++ second) =
      emitted step out s first ++ emitted step out (run step s first) second := by
  induction first generalizing s with
  | nil => rfl
  | cons i first ih => rw [List.cons_append, emitted, ih, emitted, List.append_assoc, run_cons]

/-- What a run has put out, one of its steps put out. -/
theorem exists_of_mem_emitted {s : σ} {inputs : List ι} {w : ω}
    (member : w ∈ emitted step out s inputs) :
    ∃ first i rest, inputs = first ++ i :: rest ∧ w ∈ out i (run step s first) := by
  induction inputs generalizing s with
  | nil => cases member
  | cons i inputs ih =>
    rcases List.mem_append.mp member with here | later
    · exact ⟨[], i, inputs, rfl, here⟩
    · obtain ⟨first, j, rest, rfl, found⟩ := ih later
      exact ⟨i :: first, j, rest, rfl, found⟩

end Emitted

section Simulation

/-! A run as it is seen by an abstraction: what holds of the runs of the one holds of those
of the other. -/

variable {τ κ : Type} {step : ι → σ → σ} {other : κ → τ → τ} {see : σ → τ} {as : ι → σ → κ}
  {inv : σ → Prop} {s : σ}

/-- Each step, from a state with `inv`, is seen as a step of the other function. -/
structure Simulates (step : ι → σ → σ) (other : κ → τ → τ) (see : σ → τ) (as : ι → σ → κ)
    (inv : σ → Prop) : Prop where
  keeps : ∀ i s, inv s → inv (step i s)
  commutes : ∀ i s, inv s → see (step i s) = other (as i s) (see s)

/-- The inputs of a run as they are seen. -/
def seen (step : ι → σ → σ) (as : ι → σ → κ) (s : σ) (inputs : List ι) : List κ :=
  emitted step (fun i t => [as i t]) s inputs

@[simp] theorem seen_cons (i : ι) (inputs : List ι) :
    seen step as s (i :: inputs) = as i s :: seen step as (step i s) inputs := rfl

theorem Simulates.run (sim : Simulates step other see as inv) (start : inv s) (inputs : List ι) :
    see (run step s inputs) = Lib.run other (see s) (seen step as s inputs) := by
  induction inputs generalizing s with
  | nil => rfl
  | cons i inputs ih => rw [run_cons, ih (sim.keeps i s start), sim.commutes i s start, seen_cons,
      run_cons]

theorem Simulates.along (sim : Simulates step other see as inv) (start : inv s)
    (ok : κ → τ → Prop) (inputs : List ι) :
    Along step (fun i t => ok (as i t) (see t)) s inputs ↔
      Along other ok (see s) (seen step as s inputs) := by
  induction inputs generalizing s with
  | nil => exact Iff.rfl
  | cons i inputs ih => rw [Along, ih (sim.keeps i s start), sim.commutes i s start, seen_cons, Along]

theorem Simulates.always (sim : Simulates step other see as inv) (start : inv s) (P : τ → Prop)
    (inputs : List ι) :
    (∀ first, first <+: inputs → P (see (Lib.run step s first))) ↔
      ∀ first, first <+: seen step as s inputs → P (Lib.run other (see s) first) := by
  induction inputs generalizing s with
  | nil =>
    have none (first : List ι) : first <+: [] ↔ first = [] := List.prefix_nil
    have none' (first : List κ) : first <+: seen step as s [] ↔ first = [] := List.prefix_nil
    simp [none, none']
  | cons i inputs ih =>
    have later := ih (sim.keeps i s start)
    rw [sim.commutes i s start] at later
    constructor
    · rintro all (_ | ⟨k, first⟩) before
      · exact all [] (List.nil_prefix)
      · rw [seen_cons] at before
        obtain ⟨rfl, within⟩ := List.cons_prefix_cons.mp before
        exact later.mp (fun first before => all (i :: first)
          (List.cons_prefix_cons.mpr ⟨rfl, before⟩)) first within
    · rintro all (_ | ⟨k, first⟩) before
      · exact all [] (List.nil_prefix)
      · obtain ⟨rfl, within⟩ := List.cons_prefix_cons.mp before
        refine later.mpr (fun first before => all (as k s :: first) ?_) first within
        rw [seen_cons]
        exact List.cons_prefix_cons.mpr ⟨rfl, before⟩

end Simulation

end Saloon.Lib
