import Saloon.Lib.Snapshots
import Saloon.Source.PosScreen

/-!
# Each unit of the cart is charged once

The units of a checkout are a snapshot of the cart: the cart stays editable while
the response is awaited, and drawing it again enables the button. A success resets
the cart that there is then. The theorem says at which responses a unit is charged
twice or lost.
-/
namespace Saloon.Guarantees

open Lib Source

def snapshots (s : Screen) : Snapshots Nat where
  live := s.units
  pending := s.inFlight.map Posted.units
  settled := s.charged.map Posted.units

/-- Every unit that was put in the cart, and that the user left there, is still in it and
not charged, or it is in exactly one checkout that is in flight or succeeded. -/
def ChargedOnce (s : Screen) : Prop := ∀ x < s.added, x ∉ s.removed → (snapshots s).Once x

/-- The responses that charge and lose nothing: no unit of a checkout that succeeds is in
another one in flight; the units of one that fails are still in the cart; and the units of
the cart that the page drawn after a success throws away are in one checkout each. -/
def Settles (e : ScreenEvent) (s : Screen) : Prop :=
  match e with
  | .succeeded i => ∀ posted, s.inFlight[i]? = some posted → ∀ x ∈ posted.units, x ∉ s.removed →
    ∀ other ∈ s.inFlight.eraseIdx i, x ∉ other.units
  | .failed i => ∀ posted, s.inFlight[i]? = some posted → ∀ x ∈ posted.units, x ∉ s.removed →
    x ∈ s.units
  | .rendered _ => 0 < s.loading → ∀ x ∈ s.units, x ∉ s.removed → (snapshots s).claims.count x = 1
  | _ => True

/-- What holds of the units on every screen. -/
structure Accounted (s : Screen) : Prop where
  nodup : s.units.Nodup
  added : ∀ x ∈ s.units, x < s.added
  posted : ∀ p ∈ s.inFlight ++ s.charged, p.units.Nodup ∧ ∀ x ∈ p.units, x < s.added
  uncharged : s.page.isSome = true → ∀ x ∈ s.units, ∀ p ∈ s.charged, x ∉ p.units

/-- One checkout at a time: while one is in flight the user sends no other one, and puts
nothing in the cart or out of it. -/
def OneAtATime (e : ScreenEvent) (s : Screen) : Prop :=
  match e with
  | .edit (.stylist _ _) => True
  | .edit _ => s.inFlight = []
  | .checkout => s.inFlight = []
  | _ => True

/-- Behind the spinner all that is left in the cart is charged; on a drawn page at most one
checkout is in flight, and the cart is still what it took. -/
structure Quiet (s : Screen) : Prop where
  away : s.page.isSome = false → s.loading ≤ 1 ∧ s.inFlight = [] ∧
    ∀ x ∈ s.units, x ∉ s.removed → (snapshots s).claims.count x = 1
  drawn : s.page.isSome = true → s.loading = 0 ∧
    (s.inFlight = [] ∨ ∃ p, s.inFlight = [p] ∧ p.units = s.units)

section Steps

variable {s t : Screen}

theorem mem_settled {x : Nat} :
    x ∈ (snapshots s).settled.flatten ↔ ∃ p ∈ s.charged, x ∈ p.units := by
  simp [snapshots, List.mem_flatten]

/-- The units after an edit are old ones or new ones, and no other old one has left the cart. -/
theorem mem_of_change (change : CartChange s t) {x : Nat} :
    (x ∈ t.units → x ∈ s.units ∨ s.added ≤ x ∧ x < t.added) ∧
    (x ∈ s.units → x ∈ t.units ∨ x ∈ t.removed) ∧
    (s.added ≤ x → x < t.added → x ∈ t.units) := by
  obtain ⟨kept, dropped, before, after, removed⟩ := change.parts
  have grown := change.added
  simp only [before.mem_iff, after.mem_iff, removed, List.mem_append, List.mem_range'_1]
  refine ⟨?_, ?_, ?_⟩
  · rintro (old | new)
    · exact .inl (.inl old)
    · exact .inr (by omega)
  · rintro (old | out)
    · exact .inl (.inl old)
    · exact .inr (.inr out)
  · intro fresh below
    exact .inr (by omega)

theorem accounted_change (change : CartChange s t) (drawn : s.page.isSome = true)
    (accounted : Accounted s) : Accounted t := by
  obtain ⟨kept, dropped, before, after, -⟩ := change.parts
  have grown := change.added
  refine ⟨?_, fun x member => ?_, fun p member => ?_, fun _ x member p charged => ?_⟩
  · have stayed : kept.Nodup := (List.nodup_append.mp (before.nodup_iff.mp accounted.nodup)).1
    rw [after.nodup_iff, List.nodup_append]
    refine ⟨stayed, List.nodup_range', fun x old y new => ?_⟩
    have below := accounted.added x (before.mem_iff.mpr (List.mem_append_left _ old))
    have above := (List.mem_range'_1.mp new).1
    omega
  · rcases (mem_of_change change).1 member with old | new
    · exact (accounted.added x old).trans_le grown
    · exact new.2
  · rw [change.inFlight, change.charged] at member
    obtain ⟨nodup, below⟩ := accounted.posted p member
    exact ⟨nodup, fun x unit => (below x unit).trans_le grown⟩
  · rw [change.charged] at charged
    rcases (mem_of_change change).1 member with old | new
    · exact accounted.uncharged drawn x old p charged
    · intro unit
      have := (accounted.posted p (List.mem_append_right _ charged)).2 x unit
      omega

theorem accounted_step (e : ScreenEvent) (accounted : Accounted s) : Accounted (s.step e) := by
  have checkouts : (s.step e).added = s.added → ∀ p ∈ (s.step e).inFlight ++ (s.step e).charged,
      p.units.Nodup ∧ ∀ x ∈ p.units, x < (s.step e).added := by
    intro added p member
    rw [added]
    rcases posted_step e member with old | ⟨button, rfl⟩
    · exact accounted.posted p old
    · exact ⟨accounted.nodup, accounted.added⟩
  cases cart_step e s with
  | edited edit drawn same =>
    rw [same]
    exact accounted_change (change_edit edit s) drawn accounted
  | stood cart added page =>
    have units : (s.step e).units = s.units := by rw [Screen.units, cart, Screen.units]
    refine ⟨units ▸ accounted.nodup, ?_, checkouts added, fun drawn => ?_⟩
    · rw [units, added]
      exact accounted.added
    · obtain ⟨drawnBefore, charged⟩ := page drawn
      rw [units, charged]
      exact accounted.uncharged drawnBefore
  | emptied cart added =>
    have units : (s.step e).units = [] := by rw [Screen.units, cart, List.flatMap_nil]
    refine ⟨units ▸ List.nodup_nil, ?_, checkouts added, fun _ => ?_⟩
    · rw [units]
      exact fun x none => (List.not_mem_nil none).elim
    · rw [units]
      exact fun x none => (List.not_mem_nil none).elim

/-- A step that leaves the units' bookkeeping keeps `ChargedOnce` on one condition for the
units of a list. -/
theorem chargedOnce_iff {units : List Nat} {R : Nat → Prop} (added : t.added = s.added)
    (removed : t.removed = s.removed) (bound : ∀ x ∈ units, x < s.added)
    (each : ∀ x < s.added, x ∉ s.removed → ((snapshots t).Once x ↔ (x ∈ units → R x))) :
    ChargedOnce t ↔ ∀ x ∈ units, x ∉ s.removed → R x := by
  rw [ChargedOnce, added, removed]
  constructor
  · exact fun once x member present => (each x (bound x member) present).mp
      (once x (bound x member) present) member
  · exact fun met x below present => (each x below present).mpr fun member => met x member present

theorem once_change (change : CartChange s t) (drawn : s.page.isSome = true)
    (accounted : Accounted s) (once : ChargedOnce s) : ChargedOnce t := by
  have accountedAfter := accounted_change change drawn accounted
  obtain ⟨kept, dropped, -, -, removed⟩ := change.parts
  have drawnAfter : t.page.isSome = true := change.page.trans drawn
  have inCart : ∀ x ∈ t.units, (snapshots t).Once x := by
    intro x unit
    refine .inl ⟨unit, fun settled => ?_⟩
    obtain ⟨p, charged, taken⟩ := mem_settled.mp settled
    exact accountedAfter.uncharged drawnAfter x unit p charged taken
  intro x below present
  by_cases old : x < s.added
  · have stood : x ∉ s.removed := fun out => present (by simp [removed, out])
    rcases once x old stood with ⟨live, -⟩ | claimed
    · exact inCart x (((mem_of_change change).2.1 live).resolve_right present)
    · refine .inr ?_
      rw [← claimed, Snapshots.claims, snapshots, change.inFlight, change.charged]
      rfl
  · exact inCart x ((mem_of_change change).2.2 (not_lt.mp old) below)

theorem snapshots_checkout {button : Button} (drawn : s.page = some button)
    (enabled : ¬ button.disabled = true) :
    snapshots s.submitPOSCheckout = (snapshots s).submit := by
  simp [Screen.submitPOSCheckout, drawn, enabled, snapshots, Snapshots.submit, Screen.units]

theorem snapshots_succeeded {i : Nat} {posted : Posted} (present : s.inFlight[i]? = some posted) :
    snapshots (s.succeeded i) = (snapshots s).settle i posted.units := by
  simp [Screen.succeeded, present, snapshots, Snapshots.settle, Screen.units, List.eraseIdx_map]

theorem snapshots_failed {i : Nat} {posted : Posted} (present : s.inFlight[i]? = some posted) :
    snapshots (s.failed i) = (snapshots s).drop i := by
  simp [Screen.failed, present, snapshots, Snapshots.drop, Screen.units, List.eraseIdx_map]

theorem snapshots_rendered (staff : List Val) (waiting : ¬ s.loading = 0) :
    snapshots (s.rendered staff) = (snapshots s).clear := by
  simp [Screen.rendered, waiting, snapshots, Snapshots.clear, Screen.updateCartUI, Screen.units]

theorem once_edit (e : CartEdit) (accounted : Accounted s) (once : ChargedOnce s) :
    ChargedOnce (s.step (.edit e)) := by
  rw [Screen.step]
  split
  · exact once_change (change_edit e s) ‹_› accounted once
  · exact once

theorem once_checkout (accounted : Accounted s) (once : ChargedOnce s) :
    ChargedOnce s.submitPOSCheckout := by
  cases drawn : s.page with
  | none => simpa [Screen.submitPOSCheckout, drawn] using once
  | some button =>
    by_cases disabled : button.disabled = true
    · simpa [Screen.submitPOSCheckout, drawn, disabled] using once
    · have same : s.submitPOSCheckout.added = s.added ∧
          s.submitPOSCheckout.removed = s.removed := by
        simp [Screen.submitPOSCheckout, drawn, disabled]
      intro x below present
      rw [same.1] at below
      rw [same.2] at present
      rw [snapshots_checkout drawn disabled]
      refine Snapshots.once_submit (fun live settled => ?_) (once x below present)
      obtain ⟨p, charged, taken⟩ := mem_settled.mp settled
      exact accounted.uncharged (by simp [drawn]) x live p charged taken

theorem once_succeeded (i : Nat) (accounted : Accounted s) (once : ChargedOnce s) :
    ChargedOnce (s.succeeded i) ↔ Settles (.succeeded i) s := by
  cases present : s.inFlight[i]? with
  | none => simpa [Screen.succeeded, present, Settles] using once
  | some posted =>
    obtain ⟨nodup, below⟩ :=
      accounted.posted posted (List.mem_append_left _ (List.mem_of_getElem? present))
    have pending : (snapshots s).pending[i]? = some posted.units := by simp [snapshots, present]
    have frame : (s.succeeded i).added = s.added ∧ (s.succeeded i).removed = s.removed := by
      simp [Screen.succeeded, present]
    rw [chargedOnce_iff frame.1 frame.2 below fun x bound stood => by
      rw [snapshots_succeeded present]
      exact Snapshots.once_settle pending nodup (once x bound stood)]
    simp [Settles, present, snapshots, List.eraseIdx_map]

theorem once_failed (i : Nat) (accounted : Accounted s) (once : ChargedOnce s) :
    ChargedOnce (s.failed i) ↔ Settles (.failed i) s := by
  cases present : s.inFlight[i]? with
  | none => simpa [Screen.failed, present, Settles] using once
  | some posted =>
    obtain ⟨-, below⟩ :=
      accounted.posted posted (List.mem_append_left _ (List.mem_of_getElem? present))
    have pending : (snapshots s).pending[i]? = some posted.units := by simp [snapshots, present]
    have frame : (s.failed i).added = s.added ∧ (s.failed i).removed = s.removed := by
      simp [Screen.failed, present]
    rw [chargedOnce_iff frame.1 frame.2 below fun x bound stood => by
      rw [snapshots_failed present]
      exact Snapshots.once_drop pending (once x bound stood)]
    simp [Settles, present, snapshots]

theorem once_rendered (staff : List Val) (accounted : Accounted s) (once : ChargedOnce s) :
    ChargedOnce (s.rendered staff) ↔ Settles (.rendered staff) s := by
  by_cases waiting : s.loading = 0
  · simpa [Screen.rendered, waiting, Settles] using once
  · have frame : (s.rendered staff).added = s.added ∧ (s.rendered staff).removed = s.removed := by
      simp [Screen.rendered, waiting, Screen.updateCartUI]
    rw [chargedOnce_iff frame.1 frame.2 accounted.added fun x bound stood => by
      rw [snapshots_rendered staff waiting]
      exact Snapshots.once_clear (once x bound stood)]
    simp [Settles, Nat.pos_of_ne_zero waiting]

/-- A step keeps every unit accounted for once exactly when it settles. -/
theorem once_step (e : ScreenEvent) (accounted : Accounted s) (once : ChargedOnce s) :
    ChargedOnce (s.step e) ↔ Settles e s := by
  cases e with
  | edit e => exact iff_of_true (once_edit e accounted once) trivial
  | setPaymentMethod method =>
    refine iff_of_true ?_ trivial
    rw [Screen.step]
    split <;> exact once
  | chooseClient id =>
    refine iff_of_true ?_ trivial
    rw [Screen.step]
    split <;> exact once
  | checkout => exact iff_of_true (once_checkout accounted once) trivial
  | succeeded i => exact once_succeeded i accounted once
  | failed i => exact once_failed i accounted once
  | rendered staff => exact once_rendered staff accounted once
  | loadFailed => exact iff_of_true once trivial

/-- The checkout whose response arrives is the only one, and has the units of the cart. -/
theorem Quiet.answered (quiet : Quiet s) {i : Nat} {posted : Posted}
    (present : s.inFlight[i]? = some posted) :
    s.loading = 0 ∧ s.page.isSome = true ∧ s.inFlight.eraseIdx i = [] ∧ posted.units = s.units := by
  have some : s.inFlight ≠ [] := by
    intro none
    simp [none] at present
  have page : s.page.isSome = true := by
    by_contra away
    exact some (quiet.away (by simpa using away)).2.1
  obtain ⟨loaded, none | ⟨p, only, units⟩⟩ := quiet.drawn page
  · exact absurd none some
  · rw [only] at present
    obtain ⟨first, rfl⟩ : i = 0 ∧ p = posted := by
      cases i with
      | zero => simpa using present
      | succ i => simp at present
    exact ⟨loaded, page, by simp [only, first], units⟩

theorem settles_of_quiet (quiet : Quiet s) (e : ScreenEvent) : Settles e s := by
  cases e with
  | succeeded i =>
    intro posted present x _ _ other member
    rw [(quiet.answered present).2.2.1] at member
    cases member
  | failed i =>
    intro posted present x unit _
    rwa [← (quiet.answered present).2.2.2]
  | rendered staff =>
    intro waiting
    refine (quiet.away ?_).2.2
    by_contra drawn
    have loaded := (quiet.drawn (by simpa only [Bool.not_eq_false] using drawn)).1
    omega
  | _ => trivial

theorem quiet_edit {e : CartEdit} (alone : OneAtATime (.edit e) s) (quiet : Quiet s) :
    Quiet (s.step (.edit e)) := by
  by_cases drawn : s.page.isSome = true
  · rw [Screen.step, if_pos drawn]
    have change := change_edit e s
    obtain ⟨loaded, sent⟩ := quiet.drawn drawn
    refine ⟨fun away => ?_, fun _ => ⟨change.loading.trans loaded, ?_⟩⟩
    · rw [change.page, drawn] at away
      cases away
    · rw [change.inFlight]
      cases e with
      | stylist index option =>
        rcases sent with none | ⟨p, only, units⟩
        · exact .inl none
        · exact .inr ⟨p, only, units.trans (units_chooseStylist index option s).symm⟩
      | _ => exact .inl alone
  · rw [Screen.step, if_neg drawn]
    exact quiet

theorem quiet_checkout (idle : s.inFlight = []) (quiet : Quiet s) :
    Quiet s.submitPOSCheckout := by
  rw [Screen.submitPOSCheckout]
  split
  · exact quiet
  · rename_i button page
    split
    · exact quiet
    · have loaded := (quiet.drawn (by simp [page])).1
      refine ⟨fun away => absurd away (by simp), fun _ => ⟨loaded, .inr ?_⟩⟩
      exact ⟨⟨s.payload, button.number, s.units⟩, by simp [idle], rfl⟩

theorem quiet_succeeded {i : Nat} (quiet : Quiet s) (accounted : Accounted s)
    (onceAfter : ChargedOnce (s.succeeded i)) : Quiet (s.succeeded i) := by
  rw [Screen.succeeded] at onceAfter ⊢
  split
  · exact quiet
  · rename_i posted present
    simp only [present] at onceAfter
    obtain ⟨loaded, -, rest, units⟩ := quiet.answered present
    refine ⟨fun _ => ⟨?_, rest, fun x live stood => ?_⟩, fun drawn => absurd drawn (by simp)⟩
    · simp [loaded]
    · refine (onceAfter x (accounted.added x live) stood).resolve_left fun uncharged => ?_
      refine uncharged.2 (mem_settled.mpr ⟨posted, by simp, ?_⟩)
      rw [units]
      exact live

theorem quiet_failed (i : Nat) (quiet : Quiet s) : Quiet (s.failed i) := by
  rw [Screen.failed]
  split
  · exact quiet
  · rename_i posted present
    obtain ⟨loaded, page, rest, -⟩ := quiet.answered present
    refine ⟨fun away => ?_, fun _ => ⟨loaded, .inl rest⟩⟩
    rw [Option.isSome_map, page] at away
    cases away

theorem quiet_rendered (staff : List Val) (quiet : Quiet s) : Quiet (s.rendered staff) := by
  rw [Screen.rendered]
  split
  · exact quiet
  · rename_i waiting
    have page : s.page.isSome = false := by
      by_contra drawn
      exact waiting (quiet.drawn (by simpa only [Bool.not_eq_false] using drawn)).1
    obtain ⟨one, none, -⟩ := quiet.away page
    refine ⟨fun away => absurd away (by simp [Screen.updateCartUI]), fun _ => ⟨?_, .inl none⟩⟩
    show s.loading - 1 = 0
    omega

theorem quiet_step {e : ScreenEvent} (alone : OneAtATime e s) (quiet : Quiet s)
    (accounted : Accounted s) (onceAfter : ChargedOnce (s.step e)) : Quiet (s.step e) := by
  cases e with
  | edit e => exact quiet_edit alone quiet
  | setPaymentMethod method =>
    rw [Screen.step]
    split
    · exact ⟨quiet.away, quiet.drawn⟩
    · exact quiet
  | chooseClient id =>
    rw [Screen.step]
    split
    · exact ⟨quiet.away, quiet.drawn⟩
    · exact quiet
  | checkout => exact quiet_checkout alone quiet
  | succeeded i => exact quiet_succeeded quiet accounted onceAfter
  | failed i => exact quiet_failed i quiet
  | rendered staff => exact quiet_rendered staff quiet
  | loadFailed =>
    refine ⟨fun page => ?_, fun page => ?_⟩
    · obtain ⟨one, rest⟩ := quiet.away page
      exact ⟨(Nat.sub_le _ _).trans one, rest⟩
    · obtain ⟨loaded, rest⟩ := quiet.drawn page
      exact ⟨by simp [Screen.step, Screen.loadFailed, loaded], rest⟩

end Steps

section Runs

/-- In every run of the screen: every unit is accounted for once in every state exactly when
every response settles; and so it is when the user does one checkout at a time. -/
theorem charged_once_iff (events : List ScreenEvent) :
    ((∀ first, first <+: events → ChargedOnce (run Screen.step Screen.start first)) ↔
        Along Screen.step Settles Screen.start events) ∧
      (Along Screen.step OneAtATime Screen.start events →
        ∀ first, first <+: events → ChargedOnce (run Screen.step Screen.start first)) := by
  have accounted : Accounted Screen.start :=
    ⟨List.nodup_nil, by simp [Screen.start, Screen.units], by simp [Screen.start],
      by simp [Screen.start]⟩
  have once : ChargedOnce Screen.start := fun x none => absurd none (by simp [Screen.start])
  have quiet : Quiet Screen.start :=
    ⟨fun _ => ⟨le_rfl, rfl, by simp [Screen.start, Screen.units]⟩, fun drawn => by cases drawn⟩
  have exactly : (∀ first, first <+: events → ChargedOnce (run Screen.step Screen.start first)) ↔
      Along Screen.step Settles Screen.start events :=
    always_iff_along (Q := fun s => Accounted s ∧ ChargedOnce s) (fun s kept => kept.2)
      (fun e s settles kept => ⟨accounted_step e kept.1, (once_step e kept.1 kept.2).mpr settles⟩)
      (fun e s unsettled kept onceAfter => unsettled ((once_step e kept.1 kept.2).mp onceAfter))
      ⟨accounted, once⟩ events
  refine ⟨exactly, fun alone => exactly.mpr ?_⟩
  refine alone.imp_of_keeps (P := fun s => Accounted s ∧ ChargedOnce s ∧ Quiet s)
    (fun e s one kept => ?_) ⟨accounted, once, quiet⟩
  have settles := settles_of_quiet kept.2.2 e
  have onceAfter := (once_step e kept.1 kept.2.1).mpr settles
  exact ⟨settles, accounted_step e kept.1, onceAfter, quiet_step one kept.2.2 kept.1 onceAfter⟩

/-- A haircut is sent; putting the wax in the cart enables the button, and both are sent. -/
def sentTwice : List ScreenEvent :=
  [.rendered [], .edit (.add "service" 1 "Haircut" 45), .checkout,
    .edit (.add "product" 1 "Premium Hair Wax" 18), .checkout, .succeeded 0]

/-- A haircut is sent, the wax is put in the cart, and the success resets it. -/
def addedLate : List ScreenEvent :=
  [.rendered [], .edit (.add "service" 1 "Haircut" 45), .checkout,
    .edit (.add "product" 1 "Premium Hair Wax" 18), .succeeded 0, .rendered []]

theorem charged_twice_and_lost :
    ¬ ChargedOnce (run Screen.step Screen.start sentTwice) ∧
      ¬ ChargedOnce (run Screen.step Screen.start addedLate) := by
  constructor
  · intro once
    have haircut := once 0 (by decide +kernel) (by decide +kernel)
    revert haircut
    decide +kernel
  · intro once
    have wax := once 1 (by decide +kernel) (by decide +kernel)
    revert wax
    decide +kernel

/-- The quantity of a row counts its units. -/
def Counted (line : Line) : Prop := line.item.quantity = line.units.length

/-- What is posted is a cart whose quantities count the units of the checkout. -/
def PostsUnits (posted : Posted) : Prop :=
  ∃ lines : List Line, posted.body.field "items" = .list (lines.map fun line => line.item.json) ∧
    posted.units = lines.flatMap Line.units ∧ ∀ line ∈ lines, Counted line

theorem counted_lines (stylists : List Val) : LineInvariant stylists Counted where
  new _ _ _ _ _ _ _ := rfl
  draw _ counted := counted
  more unit line counted := by
    have before : line.item.quantity = line.units.length := counted
    simp [Counted, Screen.oneMore, before]
  count qty fresh line positive _ := by
    simp only [Counted, Screen.setQuantity, List.length_append, List.length_take,
      List.length_range']
    omega
  choose _ _ _ _ counted := counted

/-- In every run the units stand for what the requests to the server say. -/
theorem posts_units (events : List ScreenEvent) :
    let s := run Screen.step Screen.start events
    s.Rows Counted ∧ ∀ posted ∈ s.inFlight ++ s.charged, PostsUnits posted := by
  refine run_keeps (P := fun s : Screen =>
    s.Rows Counted ∧ ∀ posted ∈ s.inFlight ++ s.charged, PostsUnits posted)
    (fun e s kept => ⟨?_, fun posted member => ?_⟩)
    ⟨fun _ none => (List.not_mem_nil none).elim, fun _ none => (List.not_mem_nil none).elim⟩ events
  · cases cart_step e s with
    | edited edit drawn same =>
      rw [same]
      exact ((counted_lines s.stylistsList).edit rfl kept.1 edit).2
    | stood cart added page =>
      rw [Screen.Rows, cart]
      exact kept.1
    | emptied cart added =>
      rw [Screen.Rows, cart]
      exact fun _ none => (List.not_mem_nil none).elim
  · rcases posted_step e member with old | ⟨button, rfl⟩
    · exact kept.2 posted old
    · exact ⟨s.posCart, rfl, rfl, kept.1⟩

end Runs

end Saloon.Guarantees
