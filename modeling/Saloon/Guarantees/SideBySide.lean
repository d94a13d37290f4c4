import Saloon.Guarantees.Serving
import Saloon.Lib.TwoRuns

/-!
# One request on two databases

The session of a request beside the session of the same request on a database
that a relation connects with the first. What the models' statements are blind
to, the transaction around them and the controller around that are blind to.
-/
namespace Saloon.Guarantees

open Lib Source

variable {α β : Type}

/-- Two sessions of one request, on databases that `R` connects. -/
structure SessionsAlike (R : Db → Db → Prop) (s t : Session) : Prop where
  db : R s.db t.db
  saved : Option.Rel R s.saved t.saved
  user : s.user = t.user
  signed : s.signed = t.signed

section Sessions

variable {R : Db → Db → Prop} {s t : Session}

theorem SessionsAlike.close (alike : SessionsAlike R s t) : R s.close t.close := by
  obtain ⟨db, saved, -, -⟩ := alike
  rw [Session.close, Session.close]
  generalize s.saved = left at saved ⊢
  generalize t.saved = right at saved ⊢
  cases saved with
  | none => exact db
  | some kept => exact kept

theorem inStep_exec {Q : α → β → Prop} {x : Sql α} {y : Sql β} (statements : Prog.InStep R Q x y) :
    Prog.InStep (SessionsAlike R) Q (exec x) (exec y) := by
  intro s t start
  obtain ⟨same, next⟩ := statements s.db t.db start.db
  rw [exec_run, exec_run]
  refine ⟨?_, next, start.saved, start.user, start.signed⟩
  generalize (x s.db).1 = left at same ⊢
  generalize (y t.db).1 = right at same ⊢
  cases left <;> cases right
  · exact congrArg Stop.thrown same
  · exact same.elim
  · exact same.elim
  · exact same

theorem blind_begin : Prog.Blind (SessionsAlike R) beginTransaction := by
  rintro ⟨db, saved, user, signed⟩ ⟨db', saved', user', signed'⟩ ⟨same, kept, rfl, rfl⟩
  cases kept with
  | none => exact ⟨rfl, same, .some same, rfl, rfl⟩
  | some kept => exact ⟨rfl, same, .some kept, rfl, rfl⟩

theorem blind_commit : Prog.Blind (SessionsAlike R) commit := by
  rintro ⟨db, saved, user, signed⟩ ⟨db', saved', user', signed'⟩ ⟨same, kept, rfl, rfl⟩
  cases kept with
  | none => exact ⟨rfl, same, .none, rfl, rfl⟩
  | some kept => exact ⟨rfl, same, .none, rfl, rfl⟩

theorem blind_rollBack : Prog.Blind (SessionsAlike R) rollBack := by
  rintro ⟨db, saved, user, signed⟩ ⟨db', saved', user', signed'⟩ ⟨same, kept, rfl, rfl⟩
  cases kept with
  | none => exact ⟨rfl, same, .none, rfl, rfl⟩
  | some kept => exact ⟨rfl, kept, .none, rfl, rfl⟩

theorem blind_catch {x : Php α} {handler : String → Php α}
    (body : Prog.Blind (SessionsAlike R) x)
    (handled : ∀ message, Prog.Blind (SessionsAlike R) (handler message)) :
    Prog.Blind (SessionsAlike R) (catchException x handler) := by
  intro s t start
  obtain ⟨same, next⟩ := body.run start
  rw [catchException, catchException]
  generalize x s = left at same next ⊢
  generalize x t = right at same next ⊢
  obtain ⟨result, s'⟩ := left
  obtain ⟨result', t'⟩ := right
  obtain rfl : result = result' := same
  rcases result with ((message | m) | response) | a
  · exact handled message s' t' next
  · exact ⟨rfl, next⟩
  · exact ⟨rfl, next⟩
  · exact ⟨rfl, next⟩

theorem blind_transaction {body : Sql α} (statements : Prog.Blind R body) :
    Prog.Blind (SessionsAlike R) (transaction body) :=
  Prog.blind_bind blind_begin fun _ =>
    blind_catch
      (Prog.blind_bind (inStep_exec statements) fun _ =>
        Prog.blind_bind blind_commit fun _ => Prog.inStep_pure rfl)
      fun _ => Prog.blind_bind blind_rollBack fun _ => Prog.inStep_stop _

theorem blind_json (data : Val) (status : Nat) :
    Prog.Blind (SessionsAlike R) (json data status : Php α) := Prog.inStep_stop _

theorem blind_attempt {x : Php α} (body : Prog.Blind (SessionsAlike R) x) (answer : α → Val) :
    Prog.Blind (SessionsAlike R) (attempt x answer) :=
  blind_catch (Prog.blind_bind body fun _ => blind_json _ _) fun _ => blind_json _ _

theorem inStep_list {rows rows' : Db → List Val} (same : ∀ s t, R s t → rows s = rows' t) :
    Prog.InStep (SessionsAlike R) Eq (list rows) (list rows') :=
  Prog.inStep_bind (inStep_exec (Prog.inStep_read same)) fun _ _ listed => listed ▸ blind_json _ _

/-- Who passes is a matter of the request alone. -/
theorem inStep_handle {env : Env} {roles : List Role} {k k' : Val → Php α}
    (passed : ∀ payload, AuthMiddleware.check env.php env.clock env.headers roles = .ok payload →
      Prog.InStep (SessionsAlike R) Eq (k payload) (k' payload)) :
    Prog.InStep (SessionsAlike R) Eq (env.handle roles >>= k) (env.handle roles >>= k') := by
  intro s t start
  rw [Prog.bind_run, Prog.bind_run, Env.handle_eq, Env.handle_eq]
  cases outcome : AuthMiddleware.check env.php env.clock env.headers roles with
  | error response => exact ⟨rfl, start⟩
  | ok payload => exact passed payload outcome _ _ ⟨start.db, start.saved, rfl, start.signed⟩

/-- A request in step with itself answers alike, and leaves databases that are alike. -/
theorem serve_alike {php : Platform} {e : Event}
    (blind : Prog.Blind (SessionsAlike R) (index php e)) {db db' : Db} (alike : R db db') :
    (serve php e db).response = (serve php e db').response ∧
      R (serve php e db).db (serve php e db').db := by
  have start : SessionsAlike R (.start db) (.start db') := ⟨alike, .none, rfl, rfl⟩
  obtain ⟨same, next⟩ := blind.run start
  exact ⟨congrArg responseOf same, next.close⟩

end Sessions

end Saloon.Guarantees
