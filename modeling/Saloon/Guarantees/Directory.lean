import Saloon.Guarantees.Serving
import Saloon.Lib.Slots
import Saloon.Source.Enrolment

/-!
# The client directory

A booking enters a client only when its lookup found no one, but the lookup and
the INSERT are two statements, the form at the desk makes no lookup, and the
table has no constraint. Whether the directory stays free of duplicates is a
question about the moment of each INSERT.
-/
namespace Saloon.Guarantees

open Lib Source

/-- Two clients share an email that is not empty, or a phone that is not empty. -/
def ShareContact (a b : Client) : Prop :=
  (a.email = b.email ∧ b.email ≠ "") ∨ (a.phone = b.phone ∧ b.phone ≠ "")

instance (a b : Client) : Decidable (ShareContact a b) := inferInstanceAs (Decidable (_ ∨ _))

/-- No two clients share a contact. -/
def NoDuplicates (db : Db) : Prop := Exclusive (fun _ => True) ShareContact db.clients

section Contacts

theorem shareContact_symm (a b : Client) (shared : ShareContact a b) : ShareContact b a := by
  rcases shared with ⟨same, some⟩ | ⟨same, some⟩
  · exact .inl ⟨same.symm, same ▸ some⟩
  · exact .inr ⟨same.symm, same ▸ some⟩

/-- The lookup of a booking, between clients. -/
theorem reachedBy_iff {r : Enrolment} {c : Row Client} :
    Client.reachedBy r.email r.phone c = true ↔ ShareContact c.cols r.client := by
  simp [Client.reachedBy, ShareContact, Enrolment.client]

theorem noDuplicates_seed (hash : String → String) (clock : Clock) :
    NoDuplicates (seed hash clock) := by
  intro r rMember s sMember different _ _ shared
  simp only [seed, seedClients, Table.ofList, List.foldl, Table.mem_insert, Table.empty,
    List.not_mem_nil, false_or] at rMember sMember
  rcases rMember with rfl | rfl <;> rcases sMember with rfl | rfl
  · exact different rfl
  · revert shared; simp [ShareContact]
  · revert shared; simp [ShareContact]
  · exact different rfl

/-- In a directory without duplicates a booking that gives contacts of one client, and
of no other, finds that client. -/
theorem found_of_contact {db : Db} (apart : NoDuplicates db) {r : Row Client}
    (member : r ∈ db.clients.rows) {email phone : Val}
    (reached : Client.reachedBy email phone r = true)
    (emails : email.strval = "" ∨ email.strval = r.cols.email)
    (phones : phone.strval = "" ∨ phone.strval = r.cols.phone) :
    db.clients.find? (Client.reachedBy email phone) = some r := by
  refine Table.find?_of_unique member reached fun s sMember sReached => ?_
  by_contra different
  refine apart s sMember r member different trivial trivial ?_
  simp only [Client.reachedBy, Bool.or_eq_true, Bool.and_eq_true, decide_eq_true_eq] at sReached
  rcases sReached with ⟨same, some⟩ | ⟨same, some⟩
  · have own := emails.resolve_left some
    exact .inl ⟨same.trans own, own ▸ some⟩
  · have own := phones.resolve_left some
    exact .inr ⟨same.trans own, own ▸ some⟩

theorem noDuplicates_insert {db after : Db} {c : Client} (apart : NoDuplicates db)
    (inserted : after.clients = db.clients.insert c) :
    NoDuplicates after ↔ ∀ r ∈ db.clients.rows, ¬ ShareContact r.cols c := by
  rw [NoDuplicates, inserted]
  constructor
  · intro still r member shared
    have new : r ≠ ⟨db.clients.nextId, c⟩ := fun same =>
      db.clients.id_ne_nextId member (congrArg Row.id same)
    exact still r (Table.mem_insert.mpr (.inl member)) _ (Table.mem_insert_self _ _) new trivial
      trivial shared
  · intro fresh
    exact Exclusive.insert shareContact_symm
      (fun r member _ shared => fresh r member (shareContact_symm _ _ shared)) apart

end Contacts

section Requests

variable {php : Platform} {e : Event} {db : Db}

/-- A booking that nothing interrupts is its request as the API serves it. -/
theorem serve_booking (asked : AsksBooking e) :
    (serve php e db).db = (Enrolment.booking (e.env php)).alone 3 .begin db := by
  have routed : index php e = (Enrolment.booking (e.env php)).request := index_booking asked
  rw [serve_db, routed]
  exact ((Enrolment.booking (e.env php)).alone_eq (.start db) rfl).symm

theorem serve_addClient (asked : Asks e "clients" ["POST"]) :
    (serve php e db).db = (Enrolment.addClient (e.env php)).alone 3 .begin db := by
  have routed : index php e = (Enrolment.addClient (e.env php)).request :=
    (index_post asked).trans rfl
  rw [serve_db, routed]
  exact ((Enrolment.addClient (e.env php)).alone_eq (.start db) rfl).symm

end Requests

section Interleaved

variable {ι : Type} [DecidableEq ι] {requests : ι → Enrolment} {i : ι}
  {s : System ι Enrolment.Phase Db}

/-- One step of one of the requests. -/
def enrol (requests : ι → Enrolment) (i : ι) (s : System ι Enrolment.Phase Db) :
    System ι Enrolment.Phase Db :=
  System.step (fun i => (requests i).act) i s

/-- A request inserts a client that the lookup of a booking would find now. -/
def EntersKnown (requests : ι → Enrolment) (i : ι) (s : System ι Enrolment.Phase Db) : Prop :=
  Enrolment.Inserts (requests i) (s.locals i) ∧
    ∃ c ∈ s.shared.clients.rows, Client.reachedBy (requests i).email (requests i).phone c = true

/-- A request begins while another one, that has found no one, is about to enter the same
contact; or the form at the desk is sent for a contact that a client has. -/
def BeginsUnaware (requests : ι → Enrolment) (i : ι) (s : System ι Enrolment.Phase Db) : Prop :=
  s.locals i = .begin ∧
    ((∃ j, j ≠ i ∧ s.locals j = .create ∧
        ShareContact (requests j).client (requests i).client) ∨
      EntersKnown requests i s)

theorem enrol_noDuplicates (apart : NoDuplicates s.shared) :
    NoDuplicates (enrol requests i s).shared ↔ ¬ EntersKnown requests i s := by
  rcases (requests i).act_clients (s.locals i) s.shared with
    ⟨inserts, inserted⟩ | ⟨quiet, same⟩
  · have grown : (enrol requests i s).shared.clients =
        s.shared.clients.insert (requests i).client := inserted
    rw [noDuplicates_insert apart grown, EntersKnown]
    simp [inserts, reachedBy_iff]
  · have kept : (enrol requests i s).shared.clients = s.shared.clients := same
    rw [NoDuplicates, kept]
    exact iff_of_true apart fun known => quiet known.1

/-- What requests that have found no one are about to enter is new, and of no two the
same. -/
structure Reserved (requests : ι → Enrolment) (s : System ι Enrolment.Phase Db) : Prop where
  fresh : ∀ j, s.locals j = .create → ∀ c ∈ s.shared.clients.rows,
    Client.reachedBy (requests j).email (requests j).phone c = false
  apart : ∀ j k, j ≠ k → s.locals j = .create → s.locals k = .create →
    ¬ ShareContact (requests j).client (requests k).client

theorem enrol_reserved (reserved : Reserved requests s) (aware : ¬ BeginsUnaware requests i s) :
    ¬ EntersKnown requests i s ∧ Reserved requests (enrol requests i s) := by
  have unknown : ¬ EntersKnown requests i s := by
    rintro ⟨inserts, c, member, reached⟩
    rcases Enrolment.phase_of_inserts inserts with begins | create
    · exact aware ⟨begins, .inr ⟨inserts, c, member, reached⟩⟩
    · rw [reserved.fresh i create c member] at reached
      cases reached
  -- a request that stands before its INSERT was there, or has just looked
  have before : ∀ j, (enrol requests i s).locals j = .create →
      s.locals j = .create ∧ j ≠ i ∨ j = i ∧ s.locals i = .begin := by
    intro j next
    by_cases same : j = i
    · subst same
      rw [enrol, System.step_self] at next
      exact .inr ⟨rfl, (Enrolment.act_eq_create next).1⟩
    · rw [enrol, System.step_other same] at next
      exact .inl ⟨next, same⟩
  refine ⟨unknown, fun j next => ?_, fun j k different jNext kNext shared => ?_⟩
  · rcases before j next with ⟨create, other⟩ | ⟨rfl, -⟩
    · rcases (requests i).act_clients (s.locals i) s.shared with
        ⟨inserts, inserted⟩ | ⟨-, same⟩
      · intro c member
        rw [enrol, System.step_shared, inserted, Table.mem_insert] at member
        rcases member with old | rfl
        · exact reserved.fresh j create c old
        · refine Bool.eq_false_iff.mpr fun reached => ?_
          have shared := reachedBy_iff.mp reached
          rcases Enrolment.phase_of_inserts inserts with begins | creates
          · exact aware ⟨begins, .inl ⟨j, other, create, shareContact_symm _ _ shared⟩⟩
          · exact reserved.apart i j other.symm creates create shared
      · rw [enrol, System.step_shared, same]
        exact reserved.fresh j create
    · rw [enrol, System.step_self] at next
      obtain ⟨-, still, unreached⟩ := Enrolment.act_eq_create next
      rw [enrol, System.step_shared, still]
      exact unreached
  · rcases before j jNext with ⟨jCreate, jOther⟩ | ⟨rfl, begins⟩ <;>
      rcases before k kNext with ⟨kCreate, kOther⟩ | ⟨rfl, begins'⟩
    · exact reserved.apart j k different jCreate kCreate shared
    · exact aware ⟨begins', .inl ⟨j, different, jCreate, shared⟩⟩
    · exact aware ⟨begins, .inl ⟨k, different.symm, kCreate, shareContact_symm _ _ shared⟩⟩
    · exact different rfl

end Interleaved

section Schedules

variable {ι : Type} [DecidableEq ι]

/-- The requests arrive at the seeded database. -/
def opening (hash : String → String) (clock : Clock) : System ι Enrolment.Phase Db where
  shared := seed hash clock
  locals _ := .begin

/-- Under every schedule no two clients share a contact exactly when no request enters a
client that the lookup of a booking would have found at that moment; that is so when no
request begins unaware of another one that is about to enter the same contact, and the
desk sends its form for new contacts only. -/
theorem no_duplicates_iff (requests : ι → Enrolment) (hash : String → String) (clock : Clock)
    (schedule : List ι) :
    ((∀ first, first <+: schedule →
        NoDuplicates (run (enrol requests) (opening hash clock) first).shared) ↔
      Along (enrol requests) (fun i s => ¬ EntersKnown requests i s) (opening hash clock)
        schedule) ∧
    (Along (enrol requests) (fun i s => ¬ BeginsUnaware requests i s) (opening hash clock)
        schedule →
      ∀ first, first <+: schedule →
        NoDuplicates (run (enrol requests) (opening hash clock) first).shared) := by
  have exactly : (∀ first, first <+: schedule →
        NoDuplicates (run (enrol requests) (opening hash clock) first).shared) ↔
      Along (enrol requests) (fun i s => ¬ EntersKnown requests i s) (opening hash clock)
        schedule :=
    always_iff_along (Q := fun s : System ι Enrolment.Phase Db => NoDuplicates s.shared)
      (fun _ apart => apart)
      (fun _ _ unknown apart => (enrol_noDuplicates apart).mpr unknown)
      (fun _ _ known apart still => known ((enrol_noDuplicates apart).mp still))
      (noDuplicates_seed hash clock) schedule
  have start : Reserved requests (opening hash clock) :=
    ⟨fun _ create => absurd create (by simp [opening]),
      fun _ _ _ create => absurd create (by simp [opening])⟩
  refine ⟨exactly, fun aware => exactly.mpr ?_⟩
  exact aware.imp_of_keeps (P := Reserved requests)
    (fun i s begins reserved => enrol_reserved reserved begins) start

end Schedules

/-- The desk enters a second client with the email of the first one. -/
def enterAmanda : Enrolment :=
  .addClient ((adminRequest "clients" "POST"
    [("name", .str "Amanda S."), ("email", .str "amanda.s@example.com")]).env recorded)

/-- A new client books online, twice at once. -/
def bookJane (_ : Bool) : Enrolment :=
  .booking ((adminRequest "book_online" "POST"
    [("client_name", .str "Jane Roe"), ("client_phone", .str "+1 (555) 456-7890"),
      ("staff_id", .int 1), ("service_id", .int 2), ("date", .str "2026-06-11"),
      ("time", .str "11:00")]).env recorded)

/-- The form at the desk duplicates a seeded client, and two bookings that both look
before either inserts duplicate a new one. -/
theorem known_clients_entered :
    (¬ ∀ schedule, NoDuplicates
      (run (enrol fun _ : Unit => enterAmanda) (opening (fun _ => adminHash) morning)
        schedule).shared) ∧
    ¬ ∀ schedule, NoDuplicates
      (run (enrol bookJane) (opening (fun _ => adminHash) morning) schedule).shared := by
  have amandas : ∃ r ∈ (run (enrol fun _ : Unit => enterAmanda)
      (opening (fun _ => adminHash) morning) [()]).shared.clients.rows,
      ∃ s ∈ (run (enrol fun _ : Unit => enterAmanda)
        (opening (fun _ => adminHash) morning) [()]).shared.clients.rows,
      r ≠ s ∧ ShareContact r.cols s.cols := by decide +kernel
  have janes : ∃ r ∈ (run (enrol bookJane) (opening (fun _ => adminHash) morning)
      [false, true, false, true]).shared.clients.rows,
      ∃ s ∈ (run (enrol bookJane) (opening (fun _ => adminHash) morning)
        [false, true, false, true]).shared.clients.rows,
      r ≠ s ∧ ShareContact r.cols s.cols := by decide +kernel
  constructor
  · intro apart
    obtain ⟨r, rMember, s, sMember, different, shared⟩ := amandas
    exact apart [()] r rMember s sMember different trivial trivial shared
  · intro apart
    obtain ⟨r, rMember, s, sMember, different, shared⟩ := janes
    exact apart _ r rMember s sMember different trivial trivial shared

end Saloon.Guarantees
