import BluetoothHci.Dispatcher.Invariant

/-!
# The dispatcher the spec describes

The spec's command dispatcher (§4.3) is a correlator with a single pending slot: idle, or one
call pending, and no other states. A command on the idle correlator becomes the pending call,
a command while one is pending is rejected at once with `Busy`, and the pending call ends with
its completion, its controller error or its timeout, which makes the correlator idle again.
Every call made is then settled but the pending one, whose promise is still open.

What the spec sees of a dispatcher is its slot, the calls made and their promises. While the
host side does not fail (the framer returns a packet and no `send` throws), every move of the
dispatcher is one of the correlator's transitions or leaves what the spec sees as it was, so
every state such a run reaches is one the correlator reaches. A failing framer or `send`
rejects the call but leaves it in the slot, a state the correlator does not have.
-/

set_option autoImplicit false

namespace BluetoothHci

/-- The spec's dispatcher: the pending call with what it captured, if any, the number of calls
made, and the promise of each call. -/
structure Correlator (κ α : Type) where
  pending : Option (Nat × κ)
  calls : Nat
  outcome : Nat → Option (Outcome α)

namespace Correlator

variable {κ α : Type}

def initial : Correlator κ α := ⟨none, 0, fun _ => none⟩

/-- The spec's transitions. -/
inductive Step : Correlator κ α → Correlator κ α → Prop where
  /-- A command on the idle correlator becomes the pending call. -/
  | accept (c : Correlator κ α) (captured : κ) (idle : c.pending = none) :
      Step c ⟨some (c.calls, captured), c.calls + 1, c.outcome⟩
  /-- A command while one is pending is rejected at once with `Busy`. -/
  | busy (c : Correlator κ α) (taken : c.pending.isSome) :
      Step c ⟨c.pending, c.calls + 1, Function.update c.outcome c.calls (some (.rejected (.parser .busy)))⟩
  /-- The pending call ends with `result`, and the correlator is idle again. -/
  | finish (c : Correlator κ α) (call : Nat) (captured : κ) (result : Outcome α)
      (pendingCall : c.pending = some (call, captured)) :
      Step c ⟨none, c.calls, Function.update c.outcome call (some result)⟩

/-- What the single slot guarantees: every call made is settled but the pending one, whose
promise is open, and calls not made yet are unsettled. -/
structure Sound (c : Correlator κ α) : Prop where
  settled : ∀ call < c.calls, (∀ captured, c.pending ≠ some (call, captured)) → (c.outcome call).isSome
  pending : ∀ call captured, c.pending = some (call, captured) → call < c.calls ∧ c.outcome call = none
  fresh : ∀ call, c.calls ≤ call → c.outcome call = none

private theorem sound_initial : (initial : Correlator κ α).Sound where
  settled := fun _ made => absurd made (Nat.not_lt_zero _)
  pending := fun _ _ found => nomatch found
  fresh := fun _ _ => rfl

theorem Step.sound {c c' : Correlator κ α} (step : Step c c') (sound : c.Sound) : c'.Sound := by
  cases step with
  | accept captured idle =>
      refine ⟨fun call made notPending => ?_, fun call captured' found => ?_, fun call after => ?_⟩ <;>
        dsimp only at *
      · have other : call ≠ c.calls := fun same => notPending captured (by rw [same])
        exact sound.settled call (by omega) fun _ found => by simp [idle] at found
      · obtain ⟨rfl, -⟩ := Prod.mk.inj (Option.some.inj found)
        exact ⟨Nat.lt_succ_self _, sound.fresh _ le_rfl⟩
      · exact sound.fresh call (by omega)
  | busy taken =>
      obtain ⟨⟨call, captured⟩, found⟩ := Option.isSome_iff_exists.mp taken
      have made := (sound.pending call captured found).1
      refine ⟨fun other before notPending => ?_, fun other captured' found' => ?_, fun other after => ?_⟩ <;>
        dsimp only at *
      · by_cases same : other = c.calls
        · rw [same, Function.update_same]; rfl
        · rw [Function.update_noteq same]
          exact sound.settled other (by omega) notPending
      · obtain ⟨made', open_⟩ := sound.pending other captured' found'
        exact ⟨by omega, by rw [Function.update_noteq (by omega)]; exact open_⟩
      · rw [Function.update_noteq (by omega)]
        exact sound.fresh other (by omega)
  | finish call captured result pendingCall =>
      have made := (sound.pending call captured pendingCall).1
      refine ⟨fun other before _ => ?_, fun _ _ found => (nomatch found), fun other after => ?_⟩ <;>
        dsimp only at *
      · by_cases same : other = call
        · rw [same, Function.update_same]; rfl
        · rw [Function.update_noteq same]
          exact sound.settled other before fun _ found =>
            same (Prod.mk.inj (Option.some.inj (found.symm.trans pendingCall))).1
      · rw [Function.update_noteq (by omega)]
        exact sound.fresh other after

theorem sound_of_steps {c : Correlator κ α} (steps : Relation.ReflTransGen Step initial c) : c.Sound := by
  induction steps with
  | refl => exact sound_initial
  | tail _ step ih => exact step.sound ih

end Correlator

namespace Dispatcher

variable {κ π α : Type}

/-- What the spec sees of a dispatcher: the slot's call, the calls made and the promises. The
timers, the packets sent and the running sends are the implementation's own. -/
def correlator (d : Dispatcher κ π α) : Correlator κ α :=
  ⟨d.slot.map fun pending => (pending.call, pending.captured), d.calls, d.outcome⟩

/-- A move in which the host side does not fail: a submission whose command was framed, a
delivered result, a timer firing, or a `send` returning. -/
inductive CleanMove : Dispatcher κ π α → Dispatcher κ π α → Prop where
  | submit (d : Dispatcher κ π α) (captured : κ) (packet : π) :
      CleanMove d (d.sendWaitResult captured (.ok packet))
  | deliver (d : Dispatcher κ π α) (respond : Pending κ → Option (Outcome α)) :
      CleanMove d (d.deliver respond)
  | expire (d : Dispatcher κ π α) (call : Nat) : CleanMove d (d.expire call)
  | sendReturns (d : Dispatcher κ π α) : CleanMove d d.sendReturns

theorem CleanMove.move {d d' : Dispatcher κ π α} (move : CleanMove d d') : Move d d' := by
  cases move with
  | submit captured packet => exact .submit d captured _
  | deliver respond => exact .deliver d respond
  | expire call => exact .expire d call
  | sendReturns => exact .sendReturns d

/-- The pending call's promise is open: no host failure rejected it while it held the slot. -/
def PendingOpen (d : Dispatcher κ π α) : Prop :=
  ∀ pending, d.slot = some pending → d.outcome pending.call = none

private theorem settle_outcome_of_open (d : Dispatcher κ π α) {call : Nat} (open_ : d.outcome call = none)
    (result : Outcome α) : (d.settle call result).outcome = Function.update d.outcome call (some result) := by
  funext other
  by_cases same : other = call
  · subst same; simp [settle_outcome, open_]
  · simp [settle_outcome, same]

private theorem correlator_settle (d : Dispatcher κ π α) {call : Nat} (open_ : d.outcome call = none)
    (result : Outcome α) :
    (d.settle call result).correlator =
      ⟨d.correlator.pending, d.calls, Function.update d.outcome call (some result)⟩ := by
  rw [← settle_outcome_of_open d open_]
  rfl

private theorem correlator_complete (d : Dispatcher κ π α) {call : Nat} (open_ : d.outcome call = none)
    (result : Outcome α) :
    (d.complete call result).correlator = ⟨none, d.calls, Function.update d.outcome call (some result)⟩ :=
  correlator_settle { d with timers := d.timers.erase call, slot := none } open_ result

private theorem complete_refines {d : Dispatcher κ π α} (open_ : d.PendingOpen) {pending : Pending κ}
    (pendingSlot : d.slot = some pending) (result : Outcome α) :
    Correlator.Step d.correlator (d.complete pending.call result).correlator ∧
      (d.complete pending.call result).PendingOpen := by
  refine ⟨?_, fun _ found => nomatch found⟩
  rw [correlator_complete d (open_ pending pendingSlot)]
  exact .finish d.correlator pending.call pending.captured result (by simp [correlator, pendingSlot])

/-- One move of the dispatcher without a host failure is a transition of the correlator, or
changes nothing the spec sees, and it keeps the pending promise open. -/
theorem CleanMove.refines {d d' : Dispatcher κ π α} (move : CleanMove d d') (invariant : d.Invariant)
    (open_ : d.PendingOpen) :
    (d'.correlator = d.correlator ∨ Correlator.Step d.correlator d'.correlator) ∧ d'.PendingOpen := by
  cases move with
  | submit captured packet =>
      cases slotted : d.slot with
      | some pending =>
          have made := (invariant.pending slotted).2.1
          rw [sendWaitResult_of_busy slotted,
            correlator_settle { d with calls := d.calls + 1 } (invariant.fresh d.calls le_rfl)]
          refine ⟨.inr (.busy d.correlator (by simp [correlator, slotted])), fun other found => ?_⟩
          obtain rfl : pending = other := Option.some.inj (slotted.symm.trans found)
          rw [settle_outcome_other _ _ (by omega)]
          exact open_ pending slotted
      | none =>
          rw [sendWaitResult_of_ok slotted]
          refine ⟨.inr (Correlator.Step.accept d.correlator captured (by simp [correlator, slotted])),
            fun other found => ?_⟩
          obtain rfl := Option.some.inj found
          exact invariant.fresh d.calls le_rfl
  | deliver respond =>
      unfold Dispatcher.deliver
      split
      · exact ⟨.inl rfl, open_⟩
      · rename_i pending pendingSlot
        split
        · exact ⟨.inl rfl, open_⟩
        · rename_i result _
          exact (complete_refines open_ pendingSlot result).imp_left .inr
  | expire call =>
      unfold Dispatcher.expire
      split
      · rename_i fires
        obtain ⟨pending, pendingSlot, rfl⟩ := invariant.timer_pending fires.1
        exact (complete_refines open_ pendingSlot _).imp_left .inr
      · exact ⟨.inl rfl, open_⟩
  | sendReturns => exact ⟨.inl rfl, open_⟩

/-- Every state a dispatcher reaches without a host failure is one the correlator reaches, and
its pending promise is open. -/
theorem correlator_of_cleanMoves {d : Dispatcher κ π α} (moves : Relation.ReflTransGen CleanMove initial d) :
    Relation.ReflTransGen Correlator.Step Correlator.initial d.correlator ∧ d.Reachable ∧ d.PendingOpen := by
  induction moves with
  | refl => exact ⟨.refl, .refl, fun _ found => nomatch found⟩
  | tail _ move ih =>
      obtain ⟨steps, reachable, open_⟩ := ih
      obtain ⟨stepped, open'⟩ := move.refines reachable.invariant open_
      refine ⟨?_, reachable.tail move.move, open'⟩
      rcases stepped with same | step
      · exact same ▸ steps
      · exact steps.tail step

end Dispatcher

end BluetoothHci
