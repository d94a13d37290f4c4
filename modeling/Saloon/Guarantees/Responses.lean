import Saloon.Guarantees.TokenRoundTrip
import Saloon.Lib.Yields

/-!
# What the API answers

A condition on responses, carried through the building blocks of a controller: a
handler meets it when each of its answers does. What the models throw is caught, or
ends the script without an answer.
-/
namespace Saloon.Guarantees

open Lib Source

variable {α β : Type}

/-- The stops of a request that leave it with no answer but one that meets `Q`. -/
def AnswersMeet (Q : Response → Prop) : Stop → Prop
  | .thrown _ => True
  | .exit response => Q response

/-- Whatever `x` answers meets `Q`. -/
def Responds (Q : Response → Prop) (x : Php α) : Prop :=
  Prog.Yields (fun _ => True) (AnswersMeet Q) x

section Blocks

variable {Q : Response → Prop} {x : Php α}

theorem responds_pure (a : α) : Responds Q (pure a : Php α) := Prog.yields_pure trivial

theorem responds_json {data : Val} {status : Nat} (meets : Q ⟨status, some data⟩) :
    Responds Q (json data status : Php α) := Prog.yields_stop meets

theorem responds_ite {c : Prop} [Decidable c] {x y : Php α} (yes : c → Responds Q x)
    (no : ¬ c → Responds Q y) : Responds Q (if c then x else y) := Prog.yields_ite yes no

theorem responds_bind {f : α → Php β} (first : Responds Q x) (rest : ∀ a, Responds Q (f a)) :
    Responds Q (x >>= f) := Prog.yields_bind first fun a _ => rest a

theorem responds_exec (statements : Sql α) : Responds Q (exec statements) :=
  Prog.yields_zoom (Prog.yields_any statements)

theorem responds_query {f : Db → α} {k : α → Php β} (rest : ∀ db, Responds Q (k (f db))) :
    Responds Q (exec (.read f) >>= k) := by
  refine Prog.yields_bind (P := fun a => ∃ db, a = f db)
    (Prog.yields_zoom (Prog.yields_read fun db => ⟨db, rfl⟩)) ?_
  rintro _ ⟨db, rfl⟩
  exact rest db

theorem responds_list {rows : Db → List Val} (meets : ∀ db, Q ⟨200, some (.list (rows db))⟩) :
    Responds Q (list rows) := responds_query fun db => responds_json (meets db)

theorem responds_handle {env : Env} {roles : List Role} {k : Val → Php α}
    (refused : ∀ response,
      AuthMiddleware.check env.php env.clock env.headers roles = .error response → Q response)
    (passed : ∀ payload, Responds Q (k payload)) : Responds Q (env.handle roles >>= k) := by
  refine Prog.yields_bind (P := fun _ => True) ⟨fun _ _ _ => trivial, fun s e stopped => ?_⟩
    fun payload _ => passed payload
  rw [Env.handle_eq] at stopped
  split at stopped
  · cases stopped
    exact refused _ ‹_›
  · cases stopped

theorem responds_begin : Responds Q beginTransaction where
  value _ _ _ := trivial
  stop s e stopped := by
    unfold beginTransaction at stopped
    split at stopped <;> cases stopped
    trivial

theorem responds_commit : Responds Q commit where
  value _ _ _ := trivial
  stop s e stopped := by
    unfold commit at stopped
    split at stopped <;> cases stopped
    trivial

theorem responds_rollBack : Responds Q rollBack where
  value _ _ _ := trivial
  stop s e stopped := by
    unfold rollBack at stopped
    split at stopped <;> cases stopped
    trivial

theorem responds_throwing (message : String) : Responds Q (throwing message : Php α) :=
  Prog.yields_stop trivial

theorem responds_catch {handler : String → Php α} (body : Responds Q x)
    (handled : ∀ message, Responds Q (handler message)) :
    Responds Q (catchException x handler) where
  value _ _ _ := trivial
  stop s e stopped := by
    rw [catchException] at stopped
    rcases outcome : x s with ⟨((m | m) | r) | a, t⟩
    · rw [outcome] at stopped
      exact (handled m).stop t e stopped
    all_goals
      rw [outcome] at stopped
      exact body.stop s e ((congrArg Prod.fst outcome).trans stopped)

theorem responds_transaction (statements : Sql α) : Responds Q (transaction statements) := by
  refine responds_bind responds_begin fun _ => responds_catch ?_ fun message => ?_
  · exact responds_bind (responds_exec statements) fun a =>
      responds_bind responds_commit fun _ => responds_pure a
  · exact responds_bind responds_rollBack fun _ => responds_throwing message

theorem responds_attempt {answer : α → Val} (model : Responds Q x)
    (done : ∀ a, Q ⟨200, some (answer a)⟩)
    (failed : ∀ message, Q ⟨400, some (errorBody message)⟩) : Responds Q (attempt x answer) :=
  responds_catch (responds_bind model fun a => responds_json (done a)) fun message =>
    responds_json (failed message)

/-- A script that ends without an answer is empty, or was broken off by an error. -/
theorem serve_responds {php : Platform} {e : Event} (responds : Responds Q (index php e))
    (empty : Q ⟨200, none⟩) (broken : Q ⟨500, none⟩) (db : Db) : Q (serve php e db).response := by
  rw [serve_response]
  cases outcome : (index php e (.start db)).1 with
  | ok done => exact empty
  | error stop =>
    have meets : AnswersMeet Q stop := responds.stop (.start db) stop outcome
    cases stop with
    | thrown t => exact broken
    | exit response => exact meets

end Blocks

end Saloon.Guarantees
