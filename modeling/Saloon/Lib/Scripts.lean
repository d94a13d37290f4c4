import Saloon.Lib.Prog
import Saloon.Lib.Transactions

/-!
# Scripts of transactions

A `Body` is the list of the statements of one transaction, each with what the
program makes of its result. A `Script` is what a request sends to the store:
transactions one after the other, and an answer at its end. A script cannot
answer inside a transaction. A statement in autocommit is a transaction of its
own.
-/
namespace Saloon.Lib

variable {σ ε α β γ : Type}

/-- The statements of one transaction. -/
inductive Body (σ ε α : Type)
  | returns (a : α)
  | throws (e : ε)
  | select (next : σ → Body σ ε α)
  /-- what the statement does, and how the program goes on by the store it met -/
  | write (effect : σ → σ) (next : σ → Body σ ε α)

namespace Body

def bind (body : Body σ ε α) (f : α → Body σ ε β) : Body σ ε β :=
  match body with
  | returns a => f a
  | throws e => throws e
  | select next => select fun s => (next s).bind f
  | write effect next => write effect fun s => (next s).bind f

instance : Monad (Body σ ε) where
  pure := returns
  bind := bind

def ofExcept : Except ε α → Body σ ε α
  | .ok a => returns a
  | .error e => throws e

/-- One statement that reads. -/
def read (f : σ → α) : Body σ ε α := select fun s => returns (f s)

/-- One statement that writes, or fails. -/
def execute (x : Prog σ ε α) : Body σ ε α := write (fun s => (x s).2) fun s => ofExcept (x s).1

/-- The loop over a list. -/
def forEach (f : β → Body σ ε Unit) : List β → Body σ ε Unit
  | [] => pure ()
  | b :: bs => do
    f b
    forEach f bs

/-- The statements one after the other, with nothing in between. -/
def run : Body σ ε α → Prog σ ε α
  | returns a => fun s => (.ok a, s)
  | throws e => fun s => (.error e, s)
  | select next => fun s => (next s).run s
  | write effect next => fun s => (next s).run (effect s)

@[simp] theorem run_pure (a : α) : (pure a : Body σ ε α).run = pure a := rfl

@[simp] theorem run_returns (a : α) : (returns a : Body σ ε α).run = pure a := rfl

@[simp] theorem run_throws (e : ε) : (throws e : Body σ ε α).run = .stop e := rfl

@[simp] theorem run_read (f : σ → α) : (read f : Body σ ε α).run = .read f := rfl

@[simp] theorem run_execute (x : Prog σ ε α) : (execute x).run = x := by
  funext s
  simp only [execute, run]
  rcases outcome : x s with ⟨e | a, t⟩ <;> rfl

theorem run_bind (body : Body σ ε α) (f : α → Body σ ε β) :
    (body >>= f).run = body.run >>= fun a => (f a).run := by
  funext s
  show (body.bind f).run s = _
  induction body generalizing s with
  | returns a => rfl
  | throws e => rfl
  | select next ih => exact ih s s
  | write effect next ih => exact ih s (effect s)

theorem run_ite (c : Prop) [Decidable c] (x y : Body σ ε α) :
    (if c then x else y).run = if c then x.run else y.run := by
  split <;> rfl

/-- A sequence of statements is the same program when its parts are. -/
theorem run_bind_congr {body : Body σ ε α} {f : α → Body σ ε β} {x : Prog σ ε α}
    {g : α → Prog σ ε β} (first : body.run = x) (rest : ∀ a, (f a).run = g a) :
    (body >>= f).run = x >>= g := by
  rw [run_bind, first]
  exact congrArg (x >>= ·) (funext rest)

theorem run_forEach {f : β → Body σ ε Unit} {g : β → Prog σ ε Unit} (turn : ∀ b, (f b).run = g b)
    (bs : List β) : (forEach f bs).run = Prog.forEach g bs := by
  induction bs with
  | nil => rfl
  | cons b bs ih => exact run_bind_congr (turn b) fun _ => ih

/-- The first statement, if there is one, writes. -/
def WritesFirst : Body σ ε α → Prop
  | select _ => False
  | _ => True

theorem writesFirst_bind {body : Body σ ε α} {f : α → Body σ ε β} (first : body.WritesFirst)
    (rest : ∀ a, (f a).WritesFirst) : (body >>= f).WritesFirst := by
  cases body with
  | returns a => exact rest a
  | throws e => trivial
  | select next => exact first.elim
  | write effect next => trivial

end Body

/-- What a request sends, and its answer. The index tells whether a transaction is open. -/
inductive Script (σ β : Type) : Bool → Type
  | answer (b : β) : Script σ β false
  | begin (transaction : Script σ β true) : Script σ β false
  | select (next : σ → Script σ β true) : Script σ β true
  /-- a write; after a refusal of the store, the transaction is rolled back -/
  | write (effect : σ → σ) (next : σ → Script σ β true) (refused : Script σ β false) :
      Script σ β true
  | commit (next : Script σ β false) : Script σ β true
  | rollBack (next : Script σ β false) : Script σ β true

/-- Where a request is. -/
abbrev Place (σ β : Type) : Type := (inside : Bool) × Script σ β inside

/-- The transaction of a body: COMMIT when it returns, ROLLBACK when it throws; a write that
the store refuses throws `locked`. -/
def Body.seal (locked : ε) (next : Except ε α → Script σ β false) : Body σ ε α → Script σ β true
  | returns a => .commit (next (.ok a))
  | throws e => .rollBack (next (.error e))
  | select rest => .select fun s => (rest s).seal locked next
  | write effect rest =>
    .write effect (fun s => (rest s).seal locked next) (next (.error locked))

namespace Script

/-- The statement that a request sends next. -/
def program : Place σ β → Statement (Place σ β) σ
  | ⟨_, answer _⟩ => .done
  | ⟨_, begin transaction⟩ => .begin ⟨true, transaction⟩
  | ⟨_, select next⟩ => .select fun s => ⟨true, next s⟩
  | ⟨_, write effect next refused⟩ =>
    .write (fun s => (⟨true, next s⟩, effect s)) ⟨true, rollBack refused⟩
  | ⟨_, commit next⟩ => .commit ⟨false, next⟩
  | ⟨_, rollBack next⟩ => .rollBack ⟨false, next⟩

/-- The rest of a script, alone on the store: from what is committed and what the open
transaction sees, to the answer and what is committed then. -/
def rest {inside : Bool} : Script σ β inside → σ → σ → β × σ
  | answer b, db, _ => (b, db)
  | begin transaction, db, _ => transaction.rest db db
  | select next, db, view => (next view).rest db view
  | write effect next _, db, view => (next view).rest db (effect view)
  | commit next, _, view => next.rest view view
  | rollBack next, db, _ => next.rest db db

/-- A script with nothing in between its statements. -/
def alone (script : Script σ β false) (db : σ) : β × σ := script.rest db db

/-- What the open transaction commits from here, with the script that comes after it. -/
def finish {inside : Bool} : Script σ β inside → σ → Option (σ × Script σ β false)
  | answer _, _ => none
  | begin _, _ => none
  | select next, view => (next view).finish view
  | write effect next _, view => (next view).finish (effect view)
  | commit next, view => some (view, next)
  | rollBack _, _ => none

@[simp] theorem alone_answer (b : β) (db : σ) : (answer b : Script σ β false).alone db = (b, db) :=
  rfl

theorem rest_seal (locked : ε) (next : Except ε α → Script σ β false) (body : Body σ ε α)
    (db view : σ) :
    (body.seal locked next).rest db view =
      match body.run view with
      | (.ok a, after) => (next (.ok a)).alone after
      | (.error e, _) => (next (.error e)).alone db := by
  induction body generalizing view with
  | returns a => rfl
  | throws e => rfl
  | select rest ih => exact ih view view
  | write effect rest ih => exact ih view (effect view)

/-- A transaction alone is its body, with nothing left of one that throws. -/
theorem alone_transaction (locked : ε) (next : Except ε α → Script σ β false) (body : Body σ ε α)
    (db : σ) :
    (begin (body.seal locked next)).alone db =
      match body.run db with
      | (.ok a, after) => (next (.ok a)).alone after
      | (.error e, _) => (next (.error e)).alone db := rest_seal locked next body db db

/-- A transaction commits what its body makes of the store when it returns. -/
theorem finish_seal (locked : ε) (next : Except ε α → Script σ β false) (body : Body σ ε α)
    (view : σ) :
    (body.seal locked next).finish view =
      match body.run view with
      | (.ok a, after) => some (after, next (.ok a))
      | (.error _, _) => none := by
  induction body generalizing view with
  | returns a => rfl
  | throws e => rfl
  | select rest ih => exact ih view view
  | write effect rest ih => exact ih view (effect view)

section Rules

/-! What can be said of a script by looking at it alone. -/

/-- Every transaction of the script, as it begins. -/
def Within (T : Script σ β true → Prop) {inside : Bool} : Script σ β inside → Prop
  | answer _ => True
  | begin transaction => T transaction ∧ transaction.Within T
  | select next => ∀ s, (next s).Within T
  | write _ next refused => (∀ s, (next s).Within T) ∧ refused.Within T
  | commit next => next.Within T
  | rollBack next => next.Within T

theorem within_seal {T : Script σ β true → Prop} {locked : ε}
    {next : Except ε α → Script σ β false} (after : ∀ outcome, (next outcome).Within T)
    (body : Body σ ε α) : (body.seal locked next).Within T := by
  induction body with
  | returns a => exact after _
  | throws e => exact after _
  | select rest ih => exact ih
  | write effect rest ih => exact ⟨ih, after _⟩

theorem within_true {inside : Bool} (script : Script σ β inside) : script.Within fun _ => True := by
  induction script with
  | answer b => trivial
  | begin transaction ih => exact ⟨trivial, ih⟩
  | select next ih => exact ih
  | write effect next refused ih again => exact ⟨ih, again⟩
  | commit next ih => exact ih
  | rollBack next ih => exact ih

/-- No transaction begins from here. -/
def Last {inside : Bool} : Script σ β inside → Prop
  | answer _ => True
  | begin _ => False
  | select next => ∀ s, (next s).Last
  | write _ next refused => (∀ s, (next s).Last) ∧ refused.Last
  | commit next => next.Last
  | rollBack next => next.Last

/-- At most one transaction, the open one included. -/
def Single {inside : Bool} : Script σ β inside → Prop
  | begin transaction => transaction.Last
  | script => script.Last

theorem last_seal {locked : ε} {next : Except ε α → Script σ β false}
    (after : ∀ outcome, (next outcome).Last) (body : Body σ ε α) :
    (body.seal locked next).Last := by
  induction body with
  | returns a => exact after _
  | throws e => exact after _
  | select rest ih => exact ih
  | write effect rest ih => exact ⟨ih, after _⟩

theorem Last.single {script : Script σ β true} (last : script.Last) : script.Single := by
  cases script <;> exact last

theorem Last.answer {script : Script σ β false} (last : script.Last) : ∃ b, script = answer b := by
  cases script with
  | answer b => exact ⟨b, rfl⟩
  | begin transaction => exact last.elim

/-- The answer to a write that the store refused. -/
def Refuses (b : β) {inside : Bool} : Script σ β inside → Prop
  | answer _ => False
  | begin transaction => transaction.Refuses b
  | select next => ∃ s, (next s).Refuses b
  | write _ next refused => refused = answer b ∨ refused.Refuses b ∨ ∃ s, (next s).Refuses b
  | commit next => next.Refuses b
  | rollBack next => next.Refuses b

theorem refuses_of_seal {locked : ε} {next : Except ε α → Script σ β false} {body : Body σ ε α}
    {b : β} (refuses : (body.seal locked next).Refuses b) :
    next (.error locked) = answer b ∨ ∃ outcome, (next outcome).Refuses b := by
  induction body with
  | returns a => exact .inr ⟨_, refuses⟩
  | throws e => exact .inr ⟨_, refuses⟩
  | select rest ih =>
    obtain ⟨s, later⟩ := refuses
    exact ih s later
  | write effect rest ih =>
    rcases refuses with refused | again | ⟨s, later⟩
    · exact .inl refused
    · exact .inr ⟨_, again⟩
    · exact ih s later

/-- What a transaction has done so far. -/
inductive Stage
  | fresh
  | read
  | wrote

def Stage.reads : Stage → Stage
  | wrote => wrote
  | _ => read

/-- No transaction reads first and writes later. -/
def Straight {inside : Bool} : Script σ β inside → Stage → Prop
  | answer _, _ => True
  | begin transaction, _ => transaction.Straight .fresh
  | select next, stage => ∀ s, (next s).Straight stage.reads
  | write _ next _, stage => stage ≠ .read ∧ ∀ s, (next s).Straight .wrote
  | commit next, _ => next.Straight .fresh
  | rollBack next, _ => next.Straight .fresh

theorem straight_wrote {locked : ε} {next : Except ε α → Script σ β false}
    (after : ∀ outcome, (next outcome).Straight .fresh) (body : Body σ ε α) :
    (body.seal locked next).Straight .wrote := by
  induction body with
  | returns a => exact after _
  | throws e => exact after _
  | select rest ih => exact ih
  | write effect rest ih => exact ⟨by simp, ih⟩

theorem straight_seal {locked : ε} {next : Except ε α → Script σ β false}
    (after : ∀ outcome, (next outcome).Straight .fresh) {body : Body σ ε α}
    (writes : body.WritesFirst) : (body.seal locked next).Straight .fresh := by
  cases body with
  | returns a => exact after _
  | throws e => exact after _
  | select rest => exact writes.elim
  | write effect rest => exact ⟨by simp, fun s => straight_wrote after (rest s)⟩

end Rules

end Script

end Saloon.Lib
