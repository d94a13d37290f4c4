import Saloon.Lib.Prog
import Saloon.Source.Schema

/-!
# One request's PDO session

Statements run on the database of the session (`core/Database.php:14-21`);
`beginTransaction` keeps a copy that `rollBack` puts back, and so does the end of the
request when it comes inside a transaction. `catch (Exception $e)` sees exceptions
only: a PHP error or the `exit` behind a response (`controllers/Controller.php:5-9`)
ends the request.
-/
namespace Saloon.Source

open Lib

/-- What the client receives: `output` is the echoed JSON. -/
structure Response where
  status : Nat
  output : Option Val

inductive Thrown where
  /-- an Exception, PDOException included -/
  | exception (message : String)
  /-- a TypeError or ValueError, which no handler here catches -/
  | error (message : String)

/-- What ends a request early. -/
inductive Stop where
  | thrown (t : Thrown)
  | exit (response : Response)

structure Session where
  db : Db
  /-- the database at `beginTransaction`, while a transaction is active -/
  saved : Option Db
  /-- Observation: the payload that AuthMiddleware let this request pass with. -/
  user : Option Val
  /-- Observation: the messages whose MAC this request issued in a token. -/
  signed : List Bytes

/-- The request's connection is closed: an active transaction is rolled back. -/
def Session.close (s : Session) : Db := s.saved.getD s.db

/-- Outside a transaction there is nothing to roll back. -/
theorem Session.close_of_idle {s : Session} (idle : s.saved = none) : s.close = s.db := by
  rw [close, idle]
  rfl

abbrev Sql (α : Type) : Type := Prog Db Thrown α

abbrev Php (α : Type) : Type := Prog Session Stop α

variable {α : Type}

def raise (message : String) : Sql α := .stop (.exception message)

def fatal (message : String) : Sql α := .stop (.error message)

def foreignKeyFailed : Thrown :=
  .exception "SQLSTATE[23000]: Integrity constraint violation: 19 FOREIGN KEY constraint failed"

def uniqueFailed (column : String) : Thrown :=
  .exception ("SQLSTATE[23000]: Integrity constraint violation: 19 UNIQUE constraint failed: " ++
    column)

def notNullFailed (column : String) : Thrown :=
  .exception ("SQLSTATE[23000]: Integrity constraint violation: 19 NOT NULL constraint failed: " ++
    column)

/-- Statements sent over the session, in autocommit or inside its transaction. -/
def exec (x : Sql α) : Php α := Prog.zoom Session.db (fun db s => { s with db }) .thrown x

/-- Throw an exception, out of any statement. -/
def throwing (message : String) : Php α := .stop (.thrown (.exception message))

def beginTransaction : Php Unit := fun s =>
  match s.saved with
  | none => (.ok (), { s with saved := some s.db })
  | some _ => throwing "There is already an active transaction" s

def commit : Php Unit := fun s =>
  match s.saved with
  | some _ => (.ok (), { s with saved := none })
  | none => throwing "There is no active transaction" s

def rollBack : Php Unit := fun s =>
  match s.saved with
  | some db => (.ok (), { s with db, saved := none })
  | none => throwing "There is no active transaction" s

/-- `try { x } catch (Exception $e) { handler }`. -/
def catchException (x : Php α) (handler : String → Php α) : Php α := fun s =>
  match x s with
  | (.error (.thrown (.exception message)), t) => handler message t
  | outcome => outcome

/-- The shape the models share: begin; try the statements and commit; on an
exception roll back and throw it again. -/
def transaction (body : Sql α) : Php α := do
  beginTransaction
  catchException
    (do
      let a ← exec body
      commit
      pure a)
    (fun message => do
      rollBack
      throwing message)

@[simp] theorem exec_run (x : Sql α) (s : Session) :
    exec x s = ((x s.db).1.mapError .thrown, { s with db := (x s.db).2 }) := rfl

theorem exec_read_bind_run {β : Type} (f : Db → α) (g : α → Php β) (s : Session) :
    (exec (.read f) >>= g) s = g (f s.db) s := rfl

/-- A transaction outside any other is its body when that returns; an exception
leaves the session as it was, and an error leaves it inside the transaction. -/
theorem transaction_run (body : Sql α) (s : Session) (idle : s.saved = none) :
    transaction body s =
      match body s.db with
      | (.ok a, db) => (.ok a, { s with db })
      | (.error (.exception m), _) => (.error (.thrown (.exception m)), s)
      | (.error (.error m), db) =>
        (.error (.thrown (.error m)), { s with db, saved := some s.db }) := by
  rcases s with ⟨db, saved, user, signed⟩
  cases idle
  simp only [transaction, beginTransaction, Prog.bind_run, catchException, exec_run]
  rcases body db with ⟨(m | m) | a, after⟩ <;> rfl

theorem transaction_eq_ok {body : Sql α} {s t : Session} {a : α} (idle : s.saved = none) :
    transaction body s = (.ok a, t) ↔ ∃ db, body s.db = (.ok a, db) ∧ t = { s with db } := by
  rw [transaction_run body s idle]
  rcases body s.db with ⟨(m | m) | b, after⟩
  · simp
  · simp
  · simp only [Prod.mk.injEq, Except.ok.injEq]
    constructor
    · rintro ⟨rfl, rfl⟩
      exact ⟨after, ⟨rfl, rfl⟩, rfl⟩
    · rintro ⟨db, ⟨rfl, rfl⟩, rfl⟩
      exact ⟨rfl, rfl⟩

/-- A transaction that does not return has thrown, and has changed nothing once
the session is closed. -/
theorem transaction_failed {body : Sql α} {s t : Session} {e : Stop} (idle : s.saved = none)
    (failed : transaction body s = (.error e, t)) : (∃ thrown, e = .thrown thrown) ∧
      t.close = s.db := by
  rw [transaction_run body s idle] at failed
  rcases h : body s.db with ⟨(m | m) | b, after⟩ <;> rw [h] at failed <;> cases failed
  · exact ⟨⟨_, rfl⟩, Session.close_of_idle idle⟩
  · simp [Session.close]

end Saloon.Source
