import Saloon.Lib.Requests

/-!
# Requests of one transaction each

Where no request sends more than one transaction, an interleaving is the
requests that committed, each alone, one after the other. A request has the
answer that it gives alone at its place among them, or on the state between two
of them when it wrote nothing, unless the store refused it a write. A request
that writes before it reads and waits for the lock is never refused.
-/
namespace Saloon.Lib

open Script

variable {ι σ β : Type}

/-- The requests of a log, each alone, one after the other. -/
def replay (scripts : ι → Script σ β false) (db : σ) (log : List ι) : σ :=
  run (fun i s => ((scripts i).alone s).2) db log

section Waiting

/-! A request that reads nothing in a transaction before it has written. -/

variable {i : ι} {c d : Sender σ β} {s t : Store ι σ}

def Aligned (c : Sender σ β) : Prop :=
  match c.view with
  | .deferred => c.place.2.Straight .fresh
  | .reading _ _ => c.place.1 = true ∧ c.place.2.Straight .read
  | .writing _ => c.place.1 = true ∧ c.place.2.Straight .wrote
  | .ended => False

/-- A statement without the lock that is no refused write. -/
def Granted (c d : Sender σ β) : Prop :=
  c.view.Unlocked → d.view = c.view →
    ∀ effect next refused, c.place = ⟨true, write effect next refused⟩ → d.place = c.place

theorem Aligned.resume_self (aligned : Aligned c) : c.resume = c := by
  obtain ⟨place, view⟩ := c
  cases view with
  | ended => exact aligned.elim
  | _ => rfl

theorem not_granted {effect : σ → σ} {next : σ → Script σ β true} {refused : Script σ β false}
    {view : View σ} (unlocked : view.Unlocked) :
    ¬ Granted ⟨⟨true, write effect next refused⟩, view⟩ ⟨⟨true, rollBack refused⟩, view⟩ := by
  intro granted
  cases granted unlocked rfl _ _ _ rfl

theorem Aligned.effect (effect : Effect program i c s d t) (granted : Granted c d)
    (aligned : Aligned c) : Aligned d.resume := by
  obtain ⟨⟨inside, script⟩, view⟩ := c
  cases effect with
  | stays => exact aligned.resume_self.symm ▸ aligned
  | begins statement live =>
    cases script <;> cases statement
    cases view with
    | deferred => exact aligned
    | reading since read => cases aligned.1
    | writing written => cases aligned.1
    | ended => exact aligned.elim
  | selects statement live =>
    cases script <;> cases statement
    cases view with
    | deferred => exact ⟨rfl, aligned _⟩
    | reading since read => exact ⟨rfl, aligned.2 _⟩
    | writing written => exact ⟨rfl, aligned.2 _⟩
    | ended => exact aligned.elim
  | refused statement unlocked =>
    cases script <;> cases statement
    exact absurd granted (not_granted unlocked)
  | locks statement unlocked free current =>
    cases script <;> cases statement
    cases view with
    | deferred => exact ⟨rfl, aligned.2 _⟩
    | reading since read => exact absurd rfl aligned.2.1
    | writing written => exact unlocked.elim
    | ended => exact unlocked.elim
  | writes statement writing =>
    cases writing
    cases script <;> cases statement
    exact ⟨rfl, aligned.2.2 _⟩
  | commits statement writing =>
    cases writing
    cases script <;> cases statement
    exact aligned.2
  | leaves statement unlocked =>
    rcases statement with statement | statement <;> cases script <;> cases statement <;>
      cases view with
      | deferred => exact aligned
      | reading since read => exact aligned.2
      | writing written => exact unlocked.elim
      | ended => exact unlocked.elim
  | aborts statement writing =>
    cases writing
    cases script <;> cases statement
    exact aligned.2

/-- Waiting for the lock, such a request is granted its writes. -/
theorem Aligned.granted (aligned : Aligned c) (here : (proceed true i c s).1 = d.resume) :
    Granted c d := by
  intro unlocked same effect next refused place
  obtain ⟨place', view⟩ := c
  cases place
  cases view with
  | deferred =>
    obtain ⟨there, view⟩ := d
    cases same
    rcases proceed_patient (i := i) (s := s) (c := ⟨⟨true, write effect next refused⟩, .deferred⟩)
      rfl rfl with waiting | locked
    · rw [waiting] at here
      exact (congrArg Connection.place here).symm
    · rw [locked] at here
      cases congrArg Connection.view here
  | reading since read => exact absurd rfl aligned.2.1
  | writing written => exact unlocked.elim
  | ended => exact unlocked.elim

end Waiting

section Places

variable {scripts : ι → Script σ β false} {db : σ} {refusable : ι → Bool} {i j : ι}
  {c d q : Sender σ β} {s t : Store ι σ} {log : List ι} {b : β}

/-- What an answer tells of the log. -/
inductive Settled (scripts : ι → Script σ β false) (db : σ) (refusable : ι → Bool) (i : ι) (b : β)
    (log : List ι) : Prop
  /-- the request has committed at its place in the log, once, and answers by what it met there -/
  | committed (before after : List ι) (split : log = before ++ i :: after) (first : i ∉ before)
      (last : i ∉ after) (alone : ((scripts i).alone (replay scripts db before)).1 = b)
  /-- the request has written nothing, and answers by a state of the past -/
  | unwritten (absent : i ∉ log) (before : List ι) (past : before <+: log)
      (alone : (scripts i).alone (replay scripts db before) = (b, replay scripts db before))
  /-- the store refused the request a write -/
  | refused (absent : i ∉ log) (may : refusable i = true) (refuses : (scripts i).Refuses b)

/-- What others commit later does not unsettle an answer. -/
theorem Settled.snoc (settled : Settled scripts db refusable j b log) (other : i ≠ j) :
    Settled scripts db refusable j b (log ++ [i]) := by
  cases settled with
  | committed before after split first last alone =>
    refine .committed before (after ++ [i]) (by simp [split]) first ?_ alone
    simpa using ⟨last, Ne.symm other⟩
  | unwritten absent before past alone =>
    refine .unwritten ?_ before (past.trans (List.prefix_append _ _)) alone
    simpa using ⟨absent, Ne.symm other⟩
  | refused absent may refuses =>
    refine .refused ?_ may refuses
    simpa using ⟨absent, Ne.symm other⟩

/-- From here the request ends as it does alone. -/
structure OnCourse (script : Script σ β false) (place : Place σ β) (db view : σ) : Prop where
  alone : place.2.rest db view = script.alone db
  single : place.2.Single
  refuses : ∀ b, place.2.Refuses b → script.Refuses b

/-- The store has refused the request a write. -/
def Repelled (script : Script σ β false) (refusable : Bool) (place : Place σ β) : Prop :=
  ∃ b, place = ⟨true, rollBack (answer b)⟩ ∧ refusable = true ∧ script.Refuses b

/-- Where a request is, by the log. -/
def Tracks (scripts : ι → Script σ β false) (db : σ) (refusable : ι → Bool) (i : ι)
    (c : Sender σ β) (s : Store ι σ) : Prop :=
  match c.view with
  | .deferred =>
    i ∉ s.log ∧ ((∀ view, OnCourse (scripts i) c.place view view) ∨
        Repelled (scripts i) (refusable i) c.place) ∨
      ∃ b, Answers b c ∧ Settled scripts db refusable i b s.log
  | .reading since read =>
    c.place.1 = true ∧ i ∉ s.log ∧ since ≤ s.log.length ∧
      read = replay scripts db (s.log.take since) ∧
        (OnCourse (scripts i) c.place read read ∨ Repelled (scripts i) (refusable i) c.place)
  | .writing written =>
    c.place.1 = true ∧ i ∉ s.log ∧ s.writer = some i ∧
      OnCourse (scripts i) c.place s.committed written
  | .ended => False

theorem Tracks.resume_self (tracks : Tracks scripts db refusable i c s) : c.resume = c := by
  obtain ⟨place, view⟩ := c
  cases view with
  | ended => exact tracks.elim
  | _ => rfl

theorem OnCourse.begins {script : Script σ β false} {transaction : Script σ β true} {view : σ}
    (course : OnCourse script ⟨false, begin transaction⟩ view view) :
    OnCourse script ⟨true, transaction⟩ view view where
  alone := course.alone
  single := Last.single course.single
  refuses b refuses := course.refuses b refuses

theorem OnCourse.selects {script : Script σ β false} {next : σ → Script σ β true} {db view : σ}
    (course : OnCourse script ⟨true, select next⟩ db view) :
    OnCourse script ⟨true, next view⟩ db view where
  alone := course.alone
  single := Last.single (course.single view)
  refuses b refuses := course.refuses b ⟨view, refuses⟩

theorem OnCourse.writes {script : Script σ β false} {effect : σ → σ} {next : σ → Script σ β true}
    {refused : Script σ β false} {db view : σ}
    (course : OnCourse script ⟨true, write effect next refused⟩ db view) :
    OnCourse script ⟨true, next view⟩ db (effect view) where
  alone := course.alone
  single := Last.single (course.single.1 view)
  refuses b refuses := course.refuses b (.inr (.inr ⟨view, refuses⟩))

theorem OnCourse.repelled {script : Script σ β false} {effect : σ → σ}
    {next : σ → Script σ β true} {refused : Script σ β false} {db view : σ} {refusable : Bool}
    (may : refusable = true)
    (course : OnCourse script ⟨true, write effect next refused⟩ db view) :
    Repelled script refusable ⟨true, rollBack refused⟩ := by
  obtain ⟨b, rfl⟩ := course.single.2.answer
  exact ⟨b, rfl, may, course.refuses b (.inl rfl)⟩

/-- The COMMIT comes before the answer. -/
theorem OnCourse.commits {script next : Script σ β false} {db view : σ}
    (course : OnCourse script ⟨true, commit next⟩ db view) : ∃ b, next = answer b :=
  (show next.Last from course.single).answer

theorem ends_of_program {place after : Place σ β}
    (statement : program place = .commit after ∨ program place = .rollBack after) :
    ∃ next, after = ⟨false, next⟩ ∧
      (place = ⟨true, commit next⟩ ∨ place = ⟨true, rollBack next⟩) := by
  obtain ⟨inside, script⟩ := place
  rcases statement with statement | statement <;> cases script <;> cases statement
  · exact ⟨_, rfl, .inl rfl⟩
  · exact ⟨_, rfl, .inr rfl⟩

/-- A transaction that ends without a write of its own has answered by what it has seen. -/
theorem OnCourse.unwritten {script : Script σ β false} {next : Script σ β false}
    {place : Place σ β} {db view : σ}
    (ends : place = ⟨true, commit next⟩ ∧ view = db ∨ place = ⟨true, rollBack next⟩)
    (course : OnCourse script place db view) :
    ∃ b, next = answer b ∧ script.alone db = (b, db) := by
  rcases ends with ⟨rfl, rfl⟩ | rfl
  · obtain ⟨b, rfl⟩ := course.commits
    exact ⟨b, rfl, course.alone.symm⟩
  · obtain ⟨b, rfl⟩ := (show next.Last from course.single).answer
    exact ⟨b, rfl, course.alone.symm⟩

/-- The request has its answer, and its connection is free. -/
theorem tracks_answered (settled : Settled scripts db refusable i b t.log) :
    Tracks scripts db refusable i ⟨⟨false, answer b⟩, .deferred⟩ t := .inr ⟨b, rfl, settled⟩

/-- A refused transaction is rolled back. -/
theorem Repelled.settled {next : Script σ β false}
    (repelled : Repelled (scripts i) (refusable i) ⟨true, rollBack next⟩) (absent : i ∉ t.log) :
    Tracks scripts db refusable i ⟨⟨false, next⟩, .deferred⟩ t := by
  obtain ⟨b, same, may, refuses⟩ := repelled
  cases same
  exact tracks_answered (.refused absent may refuses)

theorem Repelled.not_commit {script next : Script σ β false} {may : Bool} :
    ¬ Repelled script may ⟨true, commit next⟩ := by
  rintro ⟨b, same, -⟩
  cases same

/-- A statement takes a request along, and the committed state with the log. -/
theorem Tracks.effect (effect : Effect program i c s d t)
    (current : s.committed = replay scripts db s.log)
    (granted : refusable i = true ∨ Granted c d) (tracks : Tracks scripts db refusable i c s) :
    Tracks scripts db refusable i d.resume t ∧ t.committed = replay scripts db t.log := by
  obtain ⟨⟨inside, script⟩, view⟩ := c
  cases effect with
  | stays => exact ⟨tracks.resume_self.symm ▸ tracks, current⟩
  | begins statement live =>
    refine ⟨?_, current⟩
    cases script <;> cases statement
    cases view with
    | deferred =>
      rcases tracks with ⟨absent, course | ⟨b, same, -⟩⟩ | ⟨b, same, -⟩
      · exact .inl ⟨absent, .inl fun view => (course view).begins⟩
      · cases same
      · cases same
    | reading since read => cases tracks.1
    | writing written => cases tracks.1
    | ended => exact tracks.elim
  | selects statement live =>
    refine ⟨?_, current⟩
    cases script <;> cases statement
    cases view with
    | deferred =>
      rcases tracks with ⟨absent, course | ⟨b, same, -⟩⟩ | ⟨b, same, -⟩
      · refine ⟨rfl, absent, Nat.le_refl _, ?_, .inl (course s.committed).selects⟩
        rw [List.take_length, current]
      · cases same
      · cases same
    | reading since read =>
      obtain ⟨-, absent, past, seen, course | ⟨b, same, -⟩⟩ := tracks
      · exact ⟨rfl, absent, past, seen, .inl course.selects⟩
      · cases same
    | writing written =>
      obtain ⟨-, absent, mine, course⟩ := tracks
      exact ⟨rfl, absent, mine, course.selects⟩
    | ended => exact tracks.elim
  | refused statement unlocked =>
    refine ⟨?_, current⟩
    cases script <;> cases statement
    have may : refusable i = true := granted.resolve_right (not_granted unlocked)
    cases view with
    | deferred =>
      rcases tracks with ⟨absent, course | ⟨b, same, -⟩⟩ | ⟨b, same, -⟩
      · exact .inl ⟨absent, .inr ((course s.committed).repelled may)⟩
      · cases same
      · cases same
    | reading since read =>
      obtain ⟨-, absent, past, seen, course | ⟨b, same, -⟩⟩ := tracks
      · exact ⟨rfl, absent, past, seen, .inr (course.repelled may)⟩
      · cases same
    | writing written => exact unlocked.elim
    | ended => exact unlocked.elim
  | locks statement unlocked free fresh =>
    refine ⟨?_, current⟩
    cases script <;> cases statement
    cases view with
    | deferred =>
      rcases tracks with ⟨absent, course | ⟨b, same, -⟩⟩ | ⟨b, same, -⟩
      · exact ⟨rfl, absent, rfl, (course s.committed).writes⟩
      · cases same
      · cases same
    | reading since read =>
      obtain ⟨-, absent, past, seen, course | ⟨b, same, -⟩⟩ := tracks
      · -- nothing was committed since the snapshot
        have now : read = s.committed := by
          rw [seen, show since = s.log.length from fresh, List.take_length, current]
        subst now
        exact ⟨rfl, absent, rfl, course.writes⟩
      · cases same
    | writing written => exact unlocked.elim
    | ended => exact unlocked.elim
  | writes statement writing =>
    refine ⟨?_, current⟩
    cases writing
    cases script <;> cases statement
    obtain ⟨-, absent, mine, course⟩ := tracks
    exact ⟨rfl, absent, rfl, course.writes⟩
  | @commits _ written statement writing =>
    cases writing
    cases script <;> cases statement
    obtain ⟨-, absent, mine, course⟩ := tracks
    obtain ⟨b, rfl⟩ := course.commits
    have alone : (scripts i).alone (replay scripts db s.log) = (b, written) :=
      current ▸ course.alone.symm
    refine ⟨tracks_answered (.committed s.log [] rfl absent (by simp) (by rw [alone])), ?_⟩
    show written = run _ db (s.log ++ [i])
    rw [run_append, run_cons, run_nil]
    exact (congrArg Prod.snd alone).symm
  | leaves statement unlocked =>
    refine ⟨?_, current⟩
    obtain ⟨next, rfl, ends⟩ := ends_of_program statement
    cases view with
    | deferred =>
      rcases tracks with ⟨absent, course | repelled⟩ | ⟨b, same, -⟩
      · obtain ⟨b, rfl, alone⟩ := (course s.committed).unwritten (ends.imp (⟨·, rfl⟩) id)
        rw [current] at alone
        exact tracks_answered (.unwritten absent s.log (List.prefix_refl _) alone)
      · rcases ends with ends | ends <;> cases ends
        · exact absurd repelled Repelled.not_commit
        · exact repelled.settled absent
      · rcases ends with ends | ends <;> cases ends <;> cases same
    | reading since read =>
      obtain ⟨-, absent, past, seen, course | repelled⟩ := tracks
      · obtain ⟨b, rfl, alone⟩ := course.unwritten (ends.imp (⟨·, rfl⟩) id)
        rw [seen] at alone
        exact tracks_answered (.unwritten absent _ (List.take_prefix _ _) alone)
      · rcases ends with ends | ends <;> cases ends
        · exact absurd repelled Repelled.not_commit
        · exact repelled.settled absent
    | writing written => exact unlocked.elim
    | ended => exact unlocked.elim
  | aborts statement writing =>
    refine ⟨?_, current⟩
    cases writing
    cases script <;> cases statement
    obtain ⟨-, absent, mine, course⟩ := tracks
    obtain ⟨b, rfl, alone⟩ := course.unwritten (.inr rfl)
    rw [current] at alone
    exact tracks_answered (.unwritten absent s.log (List.prefix_refl _) alone)

/-- The steps of another request. -/
theorem Tracks.others (effect : Effect program i c s d t) (different : i ≠ j)
    (own : Tracks scripts db refusable i c s) (tracks : Tracks scripts db refusable j q s) :
    Tracks scripts db refusable j q t := by
  have free : ∀ writer : Option ι, (s.writer = none ∨ s.writer = some i) →
      Tracks scripts db refusable j q { s with writer } := by
    intro writer held
    obtain ⟨place, view⟩ := q
    cases view with
    | writing written =>
      rcases held with held | held <;> rw [tracks.2.2.1] at held <;> cases held
      exact absurd rfl different
    | _ => exact tracks
  cases effect with
  | stays | begins | selects | refused | leaves => exact tracks
  | locks statement unlocked unheld fresh => exact free _ (.inl unheld)
  | writes statement writing =>
    obtain ⟨place, view⟩ := c
    cases writing
    exact free _ (.inr own.2.2.1)
  | aborts statement writing =>
    obtain ⟨place, view⟩ := c
    cases writing
    exact free _ (.inr own.2.2.1)
  | commits statement writing =>
    obtain ⟨place, view⟩ := c
    cases writing
    have mine : s.writer = some i := own.2.2.1
    have later : ∀ {log : List ι}, j ∉ log → j ∉ log ++ [i] := by
      intro log absent
      simpa using ⟨absent, Ne.symm different⟩
    obtain ⟨place', view⟩ := q
    cases view with
    | deferred =>
      rcases tracks with ⟨absent, course⟩ | ⟨b, answered, settled⟩
      · exact .inl ⟨later absent, course⟩
      · exact .inr ⟨b, answered, settled.snoc different⟩
    | reading since read =>
      obtain ⟨inside, absent, past, seen, course⟩ := tracks
      refine ⟨inside, later absent, ?_, ?_, course⟩
      · simp only [List.length_append, List.length_singleton]
        omega
      · rw [List.take_append_of_le_length past]
        exact seen
    | writing written =>
      rw [tracks.2.2.1] at mine
      cases mine
      exact absurd rfl different
    | ended => exact tracks

theorem Tracks.settled (tracks : Tracks scripts db refusable i c s) (answered : Answers b c) :
    Settled scripts db refusable i b s.log := by
  obtain ⟨place, view⟩ := c
  cases answered
  cases view with
  | deferred =>
    rcases tracks with ⟨absent, course | ⟨b', same, -⟩⟩ | ⟨b', same, settled⟩
    · exact .unwritten absent s.log (List.prefix_refl _) (course _).alone.symm
    · cases same
    · cases same
      exact settled
  | reading since read => cases tracks.1
  | writing written => cases tracks.1
  | ended => exact tracks.elim

end Places

section Schedules

variable {scripts : ι → Script σ β false} {db : σ} {refusable : ι → Bool}

/-- The requests by the log, and the log of what is committed. -/
structure Linear (scripts : ι → Script σ β false) (db : σ) (refusable : ι → Bool)
    (s : System ι (Sender σ β) (Store ι σ)) : Prop where
  tracks : ∀ i, Tracks scripts db refusable i (s.locals i) s.shared
  aligned : ∀ i, refusable i = false → Aligned (s.locals i)
  replayed : s.shared.committed = replay scripts db s.shared.log

theorem linear_arrived (single : ∀ i, (scripts i).Single)
    (straight : ∀ i, refusable i = false → (scripts i).Straight .fresh) (db : σ) :
    Linear scripts db refusable (arrived scripts db) where
  tracks i := .inl ⟨by simp [arrived, opened], .inl fun view => ⟨rfl, single i, fun b => id⟩⟩
  aligned i never := straight i never
  replayed := rfl

theorem Linear.settled {s : System ι (Sender σ β) (Store ι σ)}
    (linear : Linear scripts db refusable s) {i : ι} {b : β} (answered : Answers b (s.locals i)) :
    Settled scripts db refusable i b s.shared.log := (linear.tracks i).settled answered

/-- A request in the log has its answer. -/
theorem Linear.answered {s : System ι (Sender σ β) (Store ι σ)}
    (linear : Linear scripts db refusable s) {i : ι} (logged : i ∈ s.shared.log) :
    ∃ b, Answers b (s.locals i) := by
  have tracks := linear.tracks i
  unfold Tracks at tracks
  cases view : (s.locals i).view with
  | deferred =>
    rw [view] at tracks
    rcases tracks with ⟨absent, -⟩ | ⟨b, answered, -⟩
    · exact absurd logged absent
    · exact ⟨b, answered⟩
  | reading since read =>
    rw [view] at tracks
    exact absurd logged tracks.2.1
  | writing written =>
    rw [view] at tracks
    exact absurd logged tracks.2.1
  | ended =>
    rw [view] at tracks
    exact tracks.elim

variable [DecidableEq ι]

/-- No request commits twice. -/
theorem Linear.nodup {s : System ι (Sender σ β) (Store ι σ)}
    (linear : Linear scripts db refusable s) : s.shared.log.Nodup := by
  refine List.nodup_iff_count_eq_one.mpr fun i logged => ?_
  obtain ⟨b, answered⟩ := linear.answered logged
  cases linear.settled answered with
  | committed before after split first last alone =>
    rw [split, List.count_append, List.count_cons_self, List.count_eq_zero.mpr first,
      List.count_eq_zero.mpr last]
  | unwritten absent => exact absurd logged absent
  | refused absent => exact absurd logged absent

theorem Linear.turn {s : System ι (Sender σ β) (Store ι σ)} {slot : ι × Bool}
    (patient : refusable slot.1 = false → slot.2 = true) (linear : Linear scripts db refusable s) :
    Linear scripts db refusable (Script.turn slot s) := by
  obtain ⟨d, effect, here⟩ := proceed_effect slot.2 slot.1 (s.locals slot.1) s.shared
  have granted : refusable slot.1 = false → Granted (s.locals slot.1) d := by
    intro never
    rw [patient never] at here
    exact (linear.aligned slot.1 never).granted here
  have may : refusable slot.1 = true ∨ Granted (s.locals slot.1) d := by
    cases never : refusable slot.1 with
    | true => exact .inl rfl
    | false => exact .inr (granted never)
  obtain ⟨own, replayed⟩ := (linear.tracks slot.1).effect effect linear.replayed may
  refine ⟨fun i => ?_, fun i never => ?_, replayed⟩
  · by_cases same : i = slot.1
    · rw [same, turn_self, turn_shared, here]
      exact own
    · rw [turn_other same, turn_shared]
      exact Tracks.others effect (Ne.symm same) (linear.tracks slot.1) (linear.tracks i)
  · by_cases same : i = slot.1
    · subst same
      rw [turn_self, here]
      exact (linear.aligned slot.1 never).effect effect (granted never)
    · rw [turn_other same]
      exact linear.aligned i never

/-- Whatever the interleaving, what is committed is what the requests in the log leave, each
alone, one after the other, and an answer is settled by the log. -/
theorem interleave_linear (single : ∀ i, (scripts i).Single)
    (straight : ∀ i, refusable i = false → (scripts i).Straight .fresh) (db : σ)
    {schedule : List (ι × Bool)}
    (patient : ∀ slot ∈ schedule, refusable slot.1 = false → slot.2 = true) :
    Linear scripts db refusable (interleave scripts db schedule) := by
  suffices all : ∀ s, Linear scripts db refusable s →
      Linear scripts db refusable (run Script.turn s schedule) from
    all _ (linear_arrived single straight db)
  induction schedule with
  | nil => exact fun s linear => linear
  | cons slot schedule ih =>
    intro s linear
    exact ih (fun later member => patient later (by simp [member])) _
      (linear.turn (patient slot (by simp)))

end Schedules

end Saloon.Lib
