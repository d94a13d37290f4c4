import Saloon.Lib.Run
import Saloon.Lib.Splice

/-!
# A value shown before it is stored

A client shows a value, writes a new one at once and to the server later, and takes
it back when the server refuses; a read shows what the server had. Requests and
answers are under way together and are delivered in any order. `settled_step_iff`
says which deliveries leave the client with the stored value when all is quiet.
-/
namespace Saloon.Lib.Optimistic

/-- A request, or the answer to one. -/
inductive Packet (α : Type) where
  | write (v : α)
  | read
  /-- a write was applied -/
  | applied
  /-- a write was not -/
  | refused (v : α)
  /-- the answer to a read, none when it brings nothing -/
  | found (v : Option α)

/-- What a read shows; every answer ends the wait. -/
structure Link (α : Type) where
  shown : α
  stored : α
  busy : Bool
  underWay : List (Packet α)
  /-- Observation: an answer has arrived. -/
  completed : Bool

/-- The client writes and reads; the network delivers requests and answers. -/
inductive Move (α : Type) where
  | write (v : α)
  | read
  | serve (i : Nat) (ok : Bool)
  | arrive (i : Nat)

variable {α : Type}

/-- The value shown once an answer has arrived; none for a request. -/
def Packet.leaves (undo : α → α) (shown : α) : Packet α → Option α
  | write _ => none
  | read => none
  | applied => some shown
  | refused v => some (undo v)
  | found v => some (v.getD shown)

/-- A client that waits for an answer does not write. -/
def write (v : α) (s : Link α) : Link α :=
  if s.busy then s
  else { s with shown := v, busy := true, underWay := s.underWay ++ [.write v] }

def read (s : Link α) : Link α := { s with busy := true, underWay := s.underWay ++ [.read] }

def serve (i : Nat) (ok : Bool) (s : Link α) : Link α :=
  match s.underWay[i]? with
  | some (.write v) =>
    if ok then { s with stored := v, underWay := s.underWay.set i .applied }
    else { s with underWay := s.underWay.set i (.refused v) }
  | some .read =>
    { s with underWay := s.underWay.set i (.found (if ok then some s.stored else none)) }
  | _ => s

def arrive (undo : α → α) (i : Nat) (s : Link α) : Link α :=
  match s.underWay[i]?.bind (Packet.leaves undo s.shown) with
  | some shown =>
    { s with shown, busy := false, underWay := s.underWay.eraseIdx i, completed := true }
  | none => s

def step (undo : α → α) (m : Move α) (s : Link α) : Link α :=
  match m with
  | .write v => write v s
  | .read => read s
  | .serve i ok => serve i ok s
  | .arrive i => arrive undo i s

/-- With nothing under way, and something completed, the client shows what is stored. -/
def Converged (s : Link α) : Prop :=
  s.underWay = [] → s.completed = true → s.shown = s.stored

/-- All that is under way tells the client that its writes were applied. -/
def Quiet (s : Link α) : Prop := ∀ p ∈ s.underWay, p = .applied

/-- The same but for one place. -/
def QuietBut (i : Nat) (s : Link α) : Prop := ∀ p ∈ s.underWay.eraseIdx i, p = .applied

/-- Nothing that is still to arrive can change what is shown, and it is what is stored. -/
def Settled (s : Link α) : Prop :=
  Quiet s → s.completed = true ∨ s.underWay ≠ [] → s.shown = s.stored

/-- The deliveries that converge. They matter only where all the rest that is under way are
answers to applied writes: a write is then applied while it is still what is shown, and an
answer arrives that brings, or puts back, what is stored. -/
def Fits (undo : α → α) (m : Move α) (s : Link α) : Prop :=
  match m with
  | .serve i true => ∀ v, s.underWay[i]? = some (.write v) → QuietBut i s → s.shown = v
  | .arrive i =>
    (∀ v, s.underWay[i]? = some (.refused v) → QuietBut i s → undo v = s.stored) ∧
      (∀ v, s.underWay[i]? = some (.found (some v)) → QuietBut i s → v = s.stored) ∧
      (s.underWay[i]? = some (.found none) → QuietBut i s → s.shown = s.stored)
  | _ => True

section Steps

variable {undo : α → α} {s : Link α} {i : Nat} {p : Packet α}

/-- An answer is not served again. -/
theorem serve_answered {v shown : α} (ok : Bool) (present : s.underWay[i]? = some p)
    (answer : p.leaves undo v = some shown) : serve i ok s = s := by
  cases p with
  | write v => cases answer
  | read => cases answer
  | _ => simp [serve, present]

theorem serve_absent (ok : Bool) (absent : s.underWay[i]? = none) : serve i ok s = s := by
  simp [serve, absent]

/-- While anything else is under way there is nothing to show. -/
theorem settled_of_other (member : p ∈ s.underWay) (other : p ≠ .applied) : Settled s :=
  fun quiet => absurd (quiet p member) other

theorem mem_set {q : Packet α} (present : s.underWay[i]? = some p) :
    q ∈ s.underWay.set i q := by
  obtain ⟨bound, -⟩ := List.getElem?_eq_some_iff.mp present
  exact List.mem_set bound q

/-- Once one place says so, all of them do when the others do. -/
theorem forall_set_applied (present : s.underWay[i]? = some p) :
    (∀ q ∈ s.underWay.set i .applied, q = .applied) ↔ QuietBut i s := by
  obtain ⟨before, rest, whole, erased, modified⟩ := exists_split present
  have set : s.underWay.set i .applied = before ++ .applied :: rest := by
    rw [List.set_eq_modify, modified]
  rw [set, QuietBut, erased]
  simp only [List.forall_mem_append, List.forall_mem_cons, true_and]

theorem settled_serve_write {v : α} (present : s.underWay[i]? = some (.write v)) :
    Settled { s with stored := v, underWay := s.underWay.set i .applied } ↔
      (QuietBut i s → s.shown = v) := by
  have some : s.underWay.set i .applied ≠ [] := List.ne_nil_of_mem (mem_set present)
  constructor
  · exact fun settled others => settled ((forall_set_applied present).mpr others) (.inr some)
  · exact fun fits quiet _ => fits ((forall_set_applied present).mp quiet)

/-- An answer that arrives leaves the stored value, if the others change nothing. -/
theorem settled_arrive {shown : α} :
    Settled { s with shown, busy := false, underWay := s.underWay.eraseIdx i, completed := true } ↔
      (QuietBut i s → shown = s.stored) :=
  ⟨fun settled others => settled others (.inl rfl), fun fits quiet _ => fits quiet⟩

/-- The news that a write was applied comes to a client that shows what is stored. -/
theorem shown_of_applied (present : s.underWay[i]? = some .applied) (settled : Settled s)
    (others : QuietBut i s) : s.shown = s.stored := by
  refine settled (fun q member => ?_) (.inr (List.ne_nil_of_mem (List.mem_of_getElem? present)))
  obtain ⟨before, rest, whole, erased, -⟩ := exists_split present
  rw [QuietBut, erased] at others
  rw [whole] at member
  rcases List.mem_append.mp member with old | here
  · exact others q (List.mem_append_left _ old)
  · rcases List.mem_cons.mp here with same | old
    · exact same
    · exact others q (List.mem_append_right _ old)

theorem settled_write (v : α) (settled : Settled s) : Settled (write v s) := by
  unfold write
  split
  · exact settled
  · exact settled_of_other (List.mem_append_right _ (List.mem_singleton_self _)) (by simp)

theorem settled_read : Settled (read s) :=
  settled_of_other (List.mem_append_right _ (List.mem_singleton_self _)) (by simp)

theorem settled_serve_iff (ok : Bool) (settled : Settled s) :
    Settled (serve i ok s) ↔ Fits undo (.serve i ok) s := by
  cases present : s.underWay[i]? with
  | none =>
    refine iff_of_true ?_ ?_
    · simpa only [serve, present] using settled
    · cases ok <;> simp [Fits, present]
  | some p =>
    cases p with
    | write v =>
      cases ok with
      | true =>
        simp only [serve, present, if_true, Fits, Option.some.injEq, Packet.write.injEq, forall_eq']
        exact settled_serve_write present
      | false =>
        refine iff_of_true ?_ trivial
        simp only [serve, present]
        exact settled_of_other (mem_set present) (by simp)
    | read =>
      refine iff_of_true ?_ ?_
      · simp only [serve, present]
        exact settled_of_other (mem_set present) (by simp)
      · cases ok <;> simp [Fits, present]
    | _ =>
      refine iff_of_true ?_ ?_
      · simpa only [serve, present] using settled
      · cases ok <;> simp [Fits, present]

theorem settled_arrive_iff (settled : Settled s) :
    Settled (arrive undo i s) ↔ Fits undo (.arrive i) s := by
  cases present : s.underWay[i]? with
  | none => simpa [arrive, present, Fits] using settled
  | some p =>
    cases p with
    | write v => simpa [arrive, present, Packet.leaves, Fits] using settled
    | read => simpa [arrive, present, Packet.leaves, Fits] using settled
    | applied =>
      simp only [arrive, present, Option.bind_some, Packet.leaves, settled_arrive]
      exact iff_of_true (shown_of_applied present settled) (by simp [Fits, present])
    | refused v =>
      simp only [arrive, present, Option.bind_some, Packet.leaves, settled_arrive]
      simp [Fits, present]
    | found v =>
      simp only [arrive, present, Option.bind_some, Packet.leaves, settled_arrive]
      cases v <;> simp [Fits, present]

/-- A step keeps the client settled exactly when it fits. -/
theorem settled_step_iff (m : Move α) (settled : Settled s) :
    Settled (step undo m s) ↔ Fits undo m s := by
  cases m with
  | write v => exact iff_of_true (settled_write v settled) trivial
  | read => exact iff_of_true settled_read trivial
  | serve i ok => exact settled_serve_iff ok settled
  | arrive i => exact settled_arrive_iff settled

end Steps

section Runs

variable {undo : α → α} {s : Link α}

/-- Where only such answers are under way, each of them leaves the values as they are. -/
theorem quiet_arrive (undo : α → α) (quiet : Quiet s) :
    arrive undo 0 s = s ∧ s.underWay = [] ∨
      ∃ rest, s.underWay = .applied :: rest ∧
        arrive undo 0 s = { s with busy := false, underWay := rest, completed := true } := by
  cases under : s.underWay with
  | nil => exact .inl ⟨by simp [arrive, under], rfl⟩
  | cons p rest =>
    obtain rfl : p = .applied := quiet p (by simp [under])
    exact .inr ⟨rest, rfl, by simp [arrive, under, Packet.leaves]⟩

/-- The deliveries of the first packet, time and again. -/
def deliveries (n : Nat) : List (Move α) := List.replicate n (.arrive 0)

theorem converged_deliveries (quiet : Quiet s) (settled : Settled s) (n : Nat) :
    Converged (run (step undo) s (deliveries n)) := by
  induction n generalizing s with
  | zero => exact fun none completed => settled quiet (.inl completed)
  | succ n ih =>
    rw [deliveries, List.replicate_succ, run_cons]
    rcases quiet_arrive undo quiet with ⟨same, -⟩ | ⟨rest, under, after⟩
    · rw [step, same]
      exact ih quiet settled
    · have less : ∀ p ∈ rest, p = .applied := fun p member => quiet p (by simp [under, member])
      rw [step, after]
      exact ih less fun _ _ => settled quiet (.inr (by simp [under]))

/-- Once they have all arrived, nothing is under way and the values are the same. -/
theorem run_deliveries (undo : α → α) (quiet : Quiet s) :
    let t := run (step undo) s (deliveries s.underWay.length)
    t.underWay = [] ∧ t.shown = s.shown ∧ t.stored = s.stored ∧
      (s.completed = true ∨ s.underWay ≠ [] → t.completed = true) := by
  generalize length : s.underWay.length = n
  induction n generalizing s with
  | zero =>
    have none := List.eq_nil_of_length_eq_zero length
    exact ⟨none, rfl, rfl, fun either => either.resolve_right (fun some => some none)⟩
  | succ n ih =>
    rcases quiet_arrive undo quiet with ⟨-, none⟩ | ⟨rest, under, after⟩
    · rw [none] at length
      cases length
    · have less : ∀ p ∈ rest, p = .applied := fun p member => quiet p (by simp [under, member])
      have shorter : rest.length = n := by simpa [under] using length
      rw [deliveries, List.replicate_succ, run_cons, step, after]
      obtain ⟨none, shown, stored, completed⟩ :=
        @ih { s with busy := false, underWay := rest, completed := true } less shorter
      exact ⟨none, shown, stored, fun _ => completed (.inl rfl)⟩

/-- Settled is to converge however many of the answers under way arrive. -/
theorem settled_iff_converged :
    Settled s ↔ (Quiet s → ∀ n, Converged (run (step undo) s (deliveries n))) := by
  constructor
  · exact fun settled quiet n => converged_deliveries quiet settled n
  · intro converges quiet either
    obtain ⟨none, shown, stored, completed⟩ := run_deliveries undo quiet
    have same := converges quiet s.underWay.length none (completed either)
    rwa [shown, stored] at same

theorem Settled.converged (settled : Settled s) : Converged s := fun none completed =>
  settled (fun p member => by simp [none] at member) (.inl completed)

/-- A run converges, in every state and however its last answers arrive, exactly when all
its steps fit. -/
theorem converges_iff_along (start : Settled s) (moves : List (Move α)) :
    (∀ first, first <+: moves → Quiet (run (step undo) s first) → ∀ n,
        Converged (run (step undo) (run (step undo) s first) (deliveries n))) ↔
      Along (step undo) (Fits undo) s moves := by
  rw [← always_iff_along (P := Settled) (Q := Settled) (fun _ settled => settled)
    (fun m s fits settled => (settled_step_iff m settled).mpr fits)
    (fun m s unfit settled after => unfit ((settled_step_iff m settled).mp after)) start moves]
  exact forall₂_congr fun first _ => settled_iff_converged.symm

theorem converged_of_along (start : Settled s) {moves : List (Move α)}
    (along : Along (step undo) (Fits undo) s moves) :
    ∀ first, first <+: moves → Converged (run (step undo) s first) := by
  intro first before
  refine Settled.converged ?_
  exact (always_iff_along (P := Settled) (Q := Settled) (fun _ settled => settled)
    (fun m s fits settled => (settled_step_iff m settled).mpr fits)
    (fun m s unfit settled after => unfit ((settled_step_iff m settled).mp after)) start moves).mpr
      along first before

end Runs

section Order

variable {undo : α → α} {s : Link α}

/-- One request at a time: a write only changes a value that was read, and the first read
brings something. -/
def Orderly (undo : α → α) (m : Move α) (s : Link α) : Prop :=
  match m with
  | .write v => s.busy = false → s.underWay = [] ∧ s.completed = true ∧ undo v = s.shown
  | .read => s.underWay = []
  | .serve i ok => s.underWay[i]? = some .read → ok = true ∨ s.completed = true
  | .arrive _ => True

/-- What the one packet under way says of the values. -/
def InOrder (undo : α → α) (s : Link α) : Prop :=
  match s.underWay with
  | [] => s.completed = true → s.shown = s.stored
  | [.write v] => s.shown = v ∧ undo v = s.stored
  | [.read] => s.completed = true → s.shown = s.stored
  | [.applied] => s.shown = s.stored
  | [.refused v] => undo v = s.stored
  | [.found (some v)] => v = s.stored
  | [.found none] => s.shown = s.stored
  | _ => False

theorem InOrder.single (inOrder : InOrder undo s) : s.underWay = [] ∨ ∃ p, s.underWay = [p] := by
  cases under : s.underWay with
  | nil => exact .inl rfl
  | cons p rest =>
    cases rest with
    | nil => exact .inr ⟨p, rfl⟩
    | cons q rest =>
      rw [InOrder, under] at inOrder
      cases p with
      | found v => cases v <;> exact inOrder.elim
      | _ => exact inOrder.elim

theorem InOrder.only (inOrder : InOrder undo s) {i : Nat} {p : Packet α}
    (present : s.underWay[i]? = some p) : i = 0 ∧ s.underWay = [p] := by
  rcases inOrder.single with none | ⟨q, under⟩
  · simp [none] at present
  · rw [under] at present
    cases i with
    | zero => exact ⟨rfl, under.trans (congrArg (fun r => [r]) (Option.some.inj present))⟩
    | succ i => simp at present

/-- Where no packet is delivered nothing happens. -/
theorem absent_step (undo : α → α) {i : Nat} (absent : s.underWay[i]? = none) (ok : Bool) :
    (Fits undo (.serve i ok) s ∧ serve i ok s = s) ∧
      Fits undo (.arrive i) s ∧ arrive undo i s = s := by
  refine ⟨⟨?_, serve_absent ok absent⟩, by simp [Fits, absent], by simp [arrive, absent]⟩
  cases ok <;> simp [Fits, absent]

theorem inOrder_serve {i : Nat} {ok : Bool} (orderly : Orderly undo (.serve i ok) s)
    (inOrder : InOrder undo s) : Fits undo (.serve i ok) s ∧ InOrder undo (serve i ok s) := by
  cases present : s.underWay[i]? with
  | none =>
    obtain ⟨⟨fits, same⟩, -⟩ := absent_step undo present ok
    exact ⟨fits, same.symm ▸ inOrder⟩
  | some p =>
    obtain ⟨rfl, under⟩ := inOrder.only present
    rw [InOrder, under] at inOrder
    cases p with
    | write v =>
      obtain ⟨shown, restored⟩ := inOrder
      cases ok with
      | true => simp [Fits, serve, InOrder, under, shown]
      | false => simp [Fits, serve, InOrder, under, restored]
    | read =>
      cases ok with
      | true => simp [Fits, serve, InOrder, under]
      | false =>
        have completed := (orderly present).resolve_left Bool.false_ne_true
        simp [Fits, serve, InOrder, under, inOrder completed]
    | found v => cases v <;> cases ok <;> simp_all [Fits, serve, InOrder]
    | _ => cases ok <;> simp_all [Fits, serve, InOrder]

theorem inOrder_arrive (i : Nat) (inOrder : InOrder undo s) :
    Fits undo (.arrive i) s ∧ InOrder undo (arrive undo i s) := by
  cases present : s.underWay[i]? with
  | none =>
    obtain ⟨-, fits, same⟩ := absent_step undo present true
    exact ⟨fits, same.symm ▸ inOrder⟩
  | some p =>
    obtain ⟨rfl, under⟩ := inOrder.only present
    have before := inOrder
    rw [InOrder, under] at inOrder
    cases p with
    | write v => simp [Fits, arrive, Packet.leaves, under, before]
    | read => simp [Fits, arrive, Packet.leaves, under, before]
    | applied => simp_all [Fits, arrive, Packet.leaves, InOrder]
    | refused v => simp_all [Fits, arrive, Packet.leaves, InOrder]
    | found v => cases v <;> simp_all [Fits, arrive, Packet.leaves, InOrder]

/-- One request at a time fits. -/
theorem inOrder_step {m : Move α} (orderly : Orderly undo m s) (inOrder : InOrder undo s) :
    Fits undo m s ∧ InOrder undo (step undo m s) := by
  cases m with
  | write v =>
    refine ⟨trivial, ?_⟩
    show InOrder undo (write v s)
    unfold write
    split
    · exact inOrder
    · rename_i free
      obtain ⟨none, completed, changes⟩ := orderly (by simpa using free)
      rw [InOrder, none] at inOrder
      simp [InOrder, none, changes, inOrder completed]
  | read =>
    have none : s.underWay = [] := orderly
    rw [InOrder, none] at inOrder
    refine ⟨trivial, ?_⟩
    simpa [InOrder, step, read, none] using inOrder
  | serve i ok => exact inOrder_serve orderly inOrder
  | arrive i => exact inOrder_arrive i inOrder

theorem along_of_orderly {moves : List (Move α)} (inOrder : InOrder undo s)
    (orderly : Along (step undo) (Orderly undo) s moves) :
    Along (step undo) (Fits undo) s moves :=
  orderly.imp_of_keeps (P := InOrder undo) (fun _ _ one kept => inOrder_step one kept) inOrder

end Order

end Saloon.Lib.Optimistic
