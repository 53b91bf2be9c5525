import BluetoothHci.Dispatcher
import Mathlib.Logic.Relation

/-!
# The dispatcher invariant

Whatever order submissions, delivered results, timers and the transport's `send` returning
or throwing come in, the slot is either empty with no timer armed, or holds the most recently
accepted call with exactly that call's timer armed. Every other call made is settled, so at
most one call whose packet went to the transport is unsettled, and a call's completion or
timer never settles another call nor clears the slot of a later one.
-/

set_option autoImplicit false

namespace BluetoothHci.Dispatcher

variable {κ π α : Type}

/-- One move of a dispatcher: a submission, a delivered result, a timer firing, or the
innermost `send` returning or throwing. -/
inductive Move : Dispatcher κ π α → Dispatcher κ π α → Prop where
  | submit (d : Dispatcher κ π α) (captured : κ) (packet : Except HostError π) :
      Move d (d.sendWaitResult captured packet)
  | deliver (d : Dispatcher κ π α) (respond : Pending κ → Option (Outcome α)) :
      Move d (d.deliver respond)
  | expire (d : Dispatcher κ π α) (call : Nat) : Move d (d.expire call)
  | sendReturns (d : Dispatcher κ π α) : Move d d.sendReturns
  | sendThrows (d : Dispatcher κ π α) : Move d d.sendThrows

/-- The states a dispatcher reaches from `initial`. -/
def Reachable (d : Dispatcher κ π α) : Prop := Relation.ReflTransGen Move initial d

/-- `call` was made and every call made after it was rejected with `Busy`: it is the most
recently accepted call. -/
def LatestAccepted (d : Dispatcher κ π α) (call : Nat) : Prop :=
  call < d.calls ∧ ∀ later, call < later → later < d.calls →
    d.outcome later = some (.rejected (.parser .busy))

structure Invariant (d : Dispatcher κ π α) : Prop where
  /-- The slot is empty and no timer is armed, or the slot holds the most recently accepted
  call and exactly that call's timer is armed. -/
  slot : (d.slot = none ∧ d.timers = []) ∨
    ∃ pending, d.slot = some pending ∧ d.timers = [pending.call] ∧ d.LatestAccepted pending.call
  /-- Every call made that is not in the slot is settled. -/
  settled : ∀ call < d.calls, (∀ pending, d.slot = some pending → pending.call ≠ call) →
    (d.outcome call).isSome
  /-- Calls not made yet are unsettled. -/
  fresh : ∀ call, d.calls ≤ call → d.outcome call = none
  /-- Packets were sent by calls already made. -/
  sent : ∀ call packet, (call, packet) ∈ d.sent → call < d.calls
  /-- Running sends belong to calls already made. -/
  sending : ∀ call ∈ d.sending, call < d.calls

private theorem invariant_initial : (initial : Dispatcher κ π α).Invariant where
  slot := .inl ⟨rfl, rfl⟩
  settled := fun _ made => absurd made (Nat.not_lt_zero _)
  fresh := fun _ _ => rfl
  sent := fun _ _ member => absurd member (List.not_mem_nil _)
  sending := fun _ member => absurd member (List.not_mem_nil _)

/-! ## Settling a call already made -/

theorem Invariant.settle {d : Dispatcher κ π α} (invariant : d.Invariant) {call : Nat}
    (made : call < d.calls) (result : Outcome α) : (d.settle call result).Invariant where
  slot := by
    rcases invariant.slot with idle | ⟨pending, pendingSlot, timers, made', latest⟩
    · exact .inl idle
    · refine .inr ⟨pending, pendingSlot, timers, made', fun later after before => ?_⟩
      by_cases same : later = call
      · subst same
        simp [settle_outcome, latest later after before]
      · rw [settle_outcome_other d result same]; exact latest later after before
  settled := fun other before notPending => by
    by_cases same : other = call
    · subst same; exact settle_outcome_isSome d other result
    · rw [settle_outcome_other d result same]; exact invariant.settled other before notPending
  fresh := fun other after => by
    rw [settle_outcome_other d result (by simp only [settle_calls] at after; omega)]
    exact invariant.fresh other after
  sent := invariant.sent
  sending := invariant.sending

theorem Invariant.pending {d : Dispatcher κ π α} (invariant : d.Invariant) {pending : Pending κ}
    (pendingSlot : d.slot = some pending) :
    d.timers = [pending.call] ∧ d.LatestAccepted pending.call := by
  rcases invariant.slot with ⟨idle, -⟩ | ⟨current, currentSlot, timers, latest⟩
  · simp [idle] at pendingSlot
  · obtain rfl : current = pending := Option.some.inj (currentSlot.symm.trans pendingSlot)
    exact ⟨timers, latest⟩

theorem Invariant.complete {d : Dispatcher κ π α} (invariant : d.Invariant) {pending : Pending κ}
    (pendingSlot : d.slot = some pending) (result : Outcome α) :
    (d.complete pending.call result).Invariant where
  slot := .inl ⟨rfl, by simp [(invariant.pending pendingSlot).1]⟩
  settled := fun call before _ => by
    rw [complete_outcome]
    by_cases same : call = pending.call
    · subst same; exact settle_outcome_isSome _ _ result
    · rw [settle_outcome_other _ result same]
      exact invariant.settled call before fun other found => by
        rw [pendingSlot] at found; cases found; exact Ne.symm same
  fresh := fun call after => by
    have made := (invariant.pending pendingSlot).2.1
    rw [complete_outcome, settle_outcome_other _ result (by simp at after; omega)]
    exact invariant.fresh call (by simpa using after)
  sent := invariant.sent
  sending := invariant.sending

theorem Invariant.timers_of_idle {d : Dispatcher κ π α} (invariant : d.Invariant)
    (idle : d.slot = none) : d.timers = [] := by
  rcases invariant.slot with ⟨-, timers⟩ | ⟨pending, pendingSlot, -⟩
  · exact timers
  · simp [idle] at pendingSlot

theorem Invariant.settled_of_idle {d : Dispatcher κ π α} (invariant : d.Invariant)
    (idle : d.slot = none) : ∀ call < d.calls, (d.outcome call).isSome :=
  fun call made => invariant.settled call made fun pending found => by simp [idle] at found

theorem Invariant.take {d : Dispatcher κ π α} (invariant : d.Invariant) (idle : d.slot = none)
    (captured : κ) :
    ({ d with calls := d.calls + 1, timers := d.calls :: d.timers,
              slot := some ⟨d.calls, captured⟩ } : Dispatcher κ π α).Invariant where
  slot := .inr ⟨⟨d.calls, captured⟩, rfl, by simp [invariant.timers_of_idle idle], Nat.lt_succ_self _,
    fun later after before => by dsimp only at after before; omega⟩
  settled := fun call before notPending =>
    invariant.settled_of_idle idle call (by have := notPending _ rfl; dsimp only at before this; omega)
  fresh := fun call after => invariant.fresh call (by dsimp only at after; omega)
  sent := fun call packet member => Nat.lt_succ_of_lt (invariant.sent call packet member)
  sending := fun call member => Nat.lt_succ_of_lt (invariant.sending call member)

/-! ## Each move keeps the invariant -/

theorem Invariant.sendWaitResult {d : Dispatcher κ π α} (invariant : d.Invariant) (captured : κ)
    (packet : Except HostError π) : (d.sendWaitResult captured packet).Invariant := by
  cases slotted : d.slot with
  | some pending =>
      rw [sendWaitResult_of_busy slotted]
      obtain ⟨timers, made, latest⟩ := invariant.pending slotted
      refine ⟨.inr ⟨pending, slotted, timers, by simp; omega, fun later after before => ?_⟩,
        fun call before notPending => ?_, fun call after => ?_,
        fun call packet member => by simp; exact Nat.lt_succ_of_lt (invariant.sent call packet member),
        fun call member => by simp; exact Nat.lt_succ_of_lt (invariant.sending call member)⟩
      · by_cases same : later = d.calls
        · subst same; simp [settle_outcome, invariant.fresh d.calls le_rfl]
        · rw [settle_outcome_other _ _ same]
          exact latest later after (by simp at before; omega)
      · by_cases same : call = d.calls
        · subst same; exact settle_outcome_isSome _ _ _
        · rw [settle_outcome_other _ _ same]
          exact invariant.settled call (by simp at before; omega) notPending
      · simp only [settle_calls] at after
        rw [settle_outcome_other _ _ (by omega)]
        exact invariant.fresh call (by omega)
  | none =>
      have taken := invariant.take slotted captured
      cases packet with
      | error error =>
          rw [sendWaitResult_of_error slotted]
          exact taken.settle (Nat.lt_succ_self _) _
      | ok packet =>
          rw [sendWaitResult_of_ok slotted]
          refine { taken with sent := fun call packet member => ?_, sending := fun call member => ?_ }
          · rcases List.mem_append.mp member with old | new
            · exact taken.sent call packet old
            · simp only [List.mem_singleton, Prod.mk.injEq] at new
              exact new.1 ▸ Nat.lt_succ_self _
          · rcases List.mem_cons.mp member with rfl | old
            · exact Nat.lt_succ_self _
            · exact taken.sending call old

theorem Invariant.deliver {d : Dispatcher κ π α} (invariant : d.Invariant)
    (respond : Pending κ → Option (Outcome α)) : (d.deliver respond).Invariant := by
  unfold Dispatcher.deliver
  split
  · exact invariant
  · rename_i pending pendingSlot
    split
    · exact invariant
    · exact invariant.complete pendingSlot _

theorem Invariant.timer_pending {d : Dispatcher κ π α} (invariant : d.Invariant) {call : Nat}
    (armed : call ∈ d.timers) : ∃ pending, d.slot = some pending ∧ pending.call = call := by
  rcases invariant.slot with ⟨-, idle⟩ | ⟨pending, pendingSlot, timers, -⟩
  · simp [idle] at armed
  · exact ⟨pending, pendingSlot, by simp only [timers, List.mem_singleton] at armed; exact armed.symm⟩

theorem Invariant.expire {d : Dispatcher κ π α} (invariant : d.Invariant) (call : Nat) :
    (d.expire call).Invariant := by
  unfold Dispatcher.expire
  split
  · rename_i fires
    obtain ⟨pending, pendingSlot, rfl⟩ := invariant.timer_pending fires.1
    exact invariant.complete pendingSlot _
  · exact invariant

theorem Invariant.sendReturns {d : Dispatcher κ π α} (invariant : d.Invariant) :
    d.sendReturns.Invariant :=
  { invariant with sending := fun call member => invariant.sending call (List.mem_of_mem_tail member) }

theorem Invariant.sendThrows {d : Dispatcher κ π α} (invariant : d.Invariant) :
    d.sendThrows.Invariant := by
  unfold Dispatcher.sendThrows
  split
  · exact invariant
  · rename_i call rest running
    have popped : ({ d with sending := rest } : Dispatcher κ π α).Invariant :=
      { invariant with sending := fun other member =>
          invariant.sending other (by rw [running]; exact List.mem_cons_of_mem _ member) }
    exact popped.settle (invariant.sending call (by simp [running])) _

theorem Move.invariant {d d' : Dispatcher κ π α} (move : Move d d') (invariant : d.Invariant) :
    d'.Invariant := by
  cases move with
  | submit captured packet => exact invariant.sendWaitResult captured packet
  | deliver respond => exact invariant.deliver respond
  | expire call => exact invariant.expire call
  | sendReturns => exact invariant.sendReturns
  | sendThrows => exact invariant.sendThrows

theorem Reachable.invariant {d : Dispatcher κ π α} (reachable : d.Reachable) : d.Invariant := by
  induction reachable with
  | refl => exact invariant_initial
  | tail _ move ih => exact move.invariant ih

/-! ## What the invariant gives -/

/-- A call whose packet went to the transport and whose promise is unsettled. -/
def Unsettled (d : Dispatcher κ π α) (call : Nat) : Prop :=
  (∃ packet, (call, packet) ∈ d.sent) ∧ d.outcome call = none

private theorem Invariant.unsettled_pending {d : Dispatcher κ π α} (invariant : d.Invariant) {call : Nat}
    (unsettled : d.Unsettled call) : ∃ pending, d.slot = some pending ∧ pending.call = call := by
  obtain ⟨⟨packet, member⟩, open_⟩ := unsettled
  by_contra notPending
  have settled := invariant.settled call (invariant.sent call packet member)
    fun pending found same => notPending ⟨pending, found, same⟩
  simp [open_] at settled

private theorem Invariant.unsettled_unique {d : Dispatcher κ π α} (invariant : d.Invariant) {first second : Nat}
    (firstUnsettled : d.Unsettled first) (secondUnsettled : d.Unsettled second) : first = second := by
  obtain ⟨pending, found, rfl⟩ := invariant.unsettled_pending firstUnsettled
  obtain ⟨other, found', rfl⟩ := invariant.unsettled_pending secondUnsettled
  rw [found] at found'
  cases found'
  rfl

theorem Invariant.expire_pending {d : Dispatcher κ π α} (invariant : d.Invariant) {pending : Pending κ}
    (pendingSlot : d.slot = some pending) (returned : d.sending = []) :
    (d.expire pending.call).slot = none ∧ (d.expire pending.call).timers = [] ∧
      (d.expire pending.call).outcome pending.call =
        (d.outcome pending.call).or (some (.rejected (.parser .timeout))) := by
  have timers := (invariant.pending pendingSlot).1
  rw [Dispatcher.expire, if_pos ⟨by simp [timers], returned⟩]
  exact ⟨rfl, by simp [timers], by simp [complete_outcome, settle_outcome]⟩

theorem Invariant.busy {d : Dispatcher κ π α} (invariant : d.Invariant) {pending : Pending κ}
    (pendingSlot : d.slot = some pending) (captured : κ) (packet : Except HostError π) :
    (d.sendWaitResult captured packet).slot = d.slot ∧
      (d.sendWaitResult captured packet).timers = d.timers ∧
      (d.sendWaitResult captured packet).sent = d.sent ∧
      (d.sendWaitResult captured packet).outcome d.calls = some (.rejected (.parser .busy)) ∧
      ∀ call, call ≠ d.calls → (d.sendWaitResult captured packet).outcome call = d.outcome call := by
  rw [sendWaitResult_of_busy pendingSlot]
  refine ⟨rfl, rfl, rfl, by simp [settle_outcome, invariant.fresh d.calls le_rfl],
    fun call distinct => settle_outcome_other _ _ distinct⟩

private theorem settle_changed {d : Dispatcher κ π α} {call other : Nat} {result : Outcome α}
    (changed : (d.settle call result).outcome other ≠ d.outcome other) : other = call := by
  by_contra distinct
  exact changed (settle_outcome_other d result distinct)

private theorem Move.settles_own {d d' : Dispatcher κ π α} (move : Move d d') (invariant : d.Invariant)
    {call : Nat} (changed : d'.outcome call ≠ d.outcome call) :
    call = d.calls ∨ ∃ pending, d.slot = some pending ∧ pending.call = call := by
  cases move with
  | submit captured packet =>
      cases slotted : d.slot with
      | some pending =>
          rw [sendWaitResult_of_busy slotted] at changed
          exact .inl (settle_changed changed)
      | none =>
          cases packet with
          | error error =>
              rw [sendWaitResult_of_error slotted] at changed
              exact .inl (settle_changed changed)
          | ok packet =>
              rw [sendWaitResult_of_ok slotted] at changed
              exact absurd rfl changed
  | deliver respond =>
      unfold Dispatcher.deliver at changed
      split at changed
      · exact absurd rfl changed
      · rename_i pending pendingSlot
        split at changed
        · exact absurd rfl changed
        · rw [complete_outcome] at changed
          exact .inr ⟨pending, pendingSlot, (settle_changed changed).symm⟩
  | expire timer =>
      unfold Dispatcher.expire at changed
      split at changed
      · rename_i fires
        obtain ⟨pending, pendingSlot, rfl⟩ := invariant.timer_pending fires.1
        rw [complete_outcome] at changed
        exact .inr ⟨pending, pendingSlot, (settle_changed changed).symm⟩
      · exact absurd rfl changed
  | sendReturns => exact absurd rfl changed
  | sendThrows =>
      unfold Dispatcher.sendThrows at changed
      split at changed
      · exact absurd rfl changed
      · rename_i top rest running
        obtain rfl := settle_changed changed
        by_contra notPending
        have settled := invariant.settled call (invariant.sending call (by simp [running]))
          fun pending found same => notPending (.inr ⟨pending, found, same⟩)
        exact changed (congrFun (settle_of_settled ({ d with sending := rest } : Dispatcher κ π α) _
          settled) call)

private theorem Move.leaves_settled {d d' : Dispatcher κ π α} (move : Move d d') (invariant : d.Invariant)
    {pending : Pending κ} (pendingSlot : d.slot = some pending) (left : d'.slot ≠ some pending) :
    d'.slot = none ∧ (d'.outcome pending.call).isSome := by
  cases move with
  | submit captured packet =>
      rw [sendWaitResult_of_busy pendingSlot] at left
      exact absurd pendingSlot left
  | deliver respond =>
      unfold Dispatcher.deliver at left ⊢
      simp only [pendingSlot] at left ⊢
      cases responded : respond pending with
      | none => simp only [responded] at left; exact absurd pendingSlot left
      | some result => simp only [responded]; exact ⟨rfl, settle_outcome_isSome _ _ _⟩
  | expire timer =>
      unfold Dispatcher.expire at left ⊢
      split at left
      · rename_i fires
        obtain ⟨current, currentSlot, rfl⟩ := invariant.timer_pending fires.1
        rw [pendingSlot] at currentSlot
        cases currentSlot
        rw [if_pos fires]
        exact ⟨rfl, settle_outcome_isSome _ _ _⟩
      · exact absurd pendingSlot left
  | sendReturns => exact absurd pendingSlot left
  | sendThrows =>
      unfold Dispatcher.sendThrows at left
      split at left <;> exact absurd pendingSlot left

/-! ## Every reachable state -/

/-- What holds of a dispatcher state and of every move from it: the invariant; at most one
call that sent its packet is unsettled; a submission while the slot is taken is only rejected
with `Busy`; a move settles only the new call or the pending one; and the pending call leaves
the slot only by settling, leaving it empty. -/
structure SingleOutstanding (d : Dispatcher κ π α) : Prop where
  invariant : d.Invariant
  unsettled_unique : ∀ first second, d.Unsettled first → d.Unsettled second → first = second
  busy : ∀ pending, d.slot = some pending → ∀ captured packet,
    (d.sendWaitResult captured packet).slot = d.slot ∧
      (d.sendWaitResult captured packet).timers = d.timers ∧
      (d.sendWaitResult captured packet).sent = d.sent ∧
      (d.sendWaitResult captured packet).outcome d.calls = some (.rejected (.parser .busy)) ∧
      ∀ call, call ≠ d.calls → (d.sendWaitResult captured packet).outcome call = d.outcome call
  settles_own : ∀ d', Move d d' → ∀ call, d'.outcome call ≠ d.outcome call →
    call = d.calls ∨ ∃ pending, d.slot = some pending ∧ pending.call = call
  leaves_settled : ∀ d', Move d d' → ∀ pending, d.slot = some pending → d'.slot ≠ some pending →
    d'.slot = none ∧ (d'.outcome pending.call).isSome

theorem Invariant.singleOutstanding {d : Dispatcher κ π α} (invariant : d.Invariant) :
    d.SingleOutstanding where
  invariant := invariant
  unsettled_unique := fun _ _ => invariant.unsettled_unique
  busy := fun _ pendingSlot => invariant.busy pendingSlot
  settles_own := fun _ move _ changed => move.settles_own invariant changed
  leaves_settled := fun _ move _ pendingSlot left => move.leaves_settled invariant pendingSlot left

theorem Reachable.singleOutstanding {d : Dispatcher κ π α} (reachable : d.Reachable) :
    d.SingleOutstanding :=
  reachable.invariant.singleOutstanding

/-! ## Failures after the slot is taken -/

/-- A call taken into the empty slot whose packet cannot be framed is rejected with the
framer's error, but keeps the slot and its timer: the next call is rejected with `Busy`. -/
theorem Reachable.frame_error_keeps_slot {d : Dispatcher κ π α} (reachable : d.Reachable)
    (idle : d.slot = none) (captured : κ) (error : HostError) :
    (d.sendWaitResult captured (.error error)).outcome d.calls = some (.rejected (.thrown error)) ∧
      (d.sendWaitResult captured (.error error)).sent = d.sent ∧
      (d.sendWaitResult captured (.error error)).slot = some ⟨d.calls, captured⟩ ∧
      (d.sendWaitResult captured (.error error)).timers = [d.calls] ∧
      ∀ next packet, ((d.sendWaitResult captured (.error error)).sendWaitResult next packet).outcome
        (d.calls + 1) = some (.rejected (.parser .busy)) := by
  have invariant := reachable.invariant
  have after := (Move.submit d captured (.error error)).invariant invariant
  rw [sendWaitResult_of_error idle] at after ⊢
  exact ⟨by simp [settle_outcome, invariant.fresh d.calls le_rfl], rfl, rfl,
    by simp [invariant.timers_of_idle idle], fun next packet => (after.busy rfl next packet).2.2.2.1⟩

/-- A call taken into the empty slot whose `send` throws is rejected, but keeps the slot and
its timer: the next call is rejected with `Busy`. -/
theorem Reachable.send_error_keeps_slot {d : Dispatcher κ π α} (reachable : d.Reachable)
    (idle : d.slot = none) (captured : κ) (packet : π) :
    (d.sendWaitResult captured (.ok packet)).sendThrows.outcome d.calls = some (.rejected .transport) ∧
      (d.sendWaitResult captured (.ok packet)).sendThrows.slot = some ⟨d.calls, captured⟩ ∧
      (d.sendWaitResult captured (.ok packet)).sendThrows.timers = [d.calls] ∧
      ∀ next packet', ((d.sendWaitResult captured (.ok packet)).sendThrows.sendWaitResult next
        packet').outcome (d.calls + 1) = some (.rejected (.parser .busy)) := by
  have invariant := reachable.invariant
  have after := (Move.sendThrows _).invariant ((Move.submit d captured (.ok packet)).invariant invariant)
  rw [sendWaitResult_of_ok idle, sendThrows_of_sending rfl] at after ⊢
  exact ⟨by simp [settle_outcome, invariant.fresh d.calls le_rfl], rfl,
    by simp [invariant.timers_of_idle idle], fun next packet' => (after.busy rfl next packet').2.2.2.1⟩

end BluetoothHci.Dispatcher
