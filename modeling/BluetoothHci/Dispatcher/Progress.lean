import BluetoothHci.Dispatcher.Invariant

/-!
# Progress of a dispatcher

A promise keeps the first settlement it gets: `settle` only fills an empty one, so no later
move changes the outcome of a call. And a dispatcher never waits on the controller for good:
once the running sends have returned, the only armed timer is the pending call's, and its
firing empties the slot and the timers, which leaves every call made settled.
-/

set_option autoImplicit false

namespace BluetoothHci.Dispatcher

variable {κ π α : Type}

/-! ## Settled promises stay settled -/

private theorem settle_outcome_stable (d : Dispatcher κ π α) (call : Nat) (result : Outcome α) {other : Nat}
    (settled : (d.outcome other).isSome) : (d.settle call result).outcome other = d.outcome other := by
  by_cases same : other = call
  · subst same; exact congrFun (settle_of_settled d result settled) other
  · exact settle_outcome_other d result same

private theorem Move.outcome_stable {d d' : Dispatcher κ π α} (move : Move d d') {call : Nat}
    (settled : (d.outcome call).isSome) : d'.outcome call = d.outcome call := by
  cases move with
  | submit captured packet =>
      cases slotted : d.slot with
      | some pending => rw [sendWaitResult_of_busy slotted]; exact settle_outcome_stable _ _ _ settled
      | none =>
          cases packet with
          | error error => rw [sendWaitResult_of_error slotted]; exact settle_outcome_stable _ _ _ settled
          | ok packet => rw [sendWaitResult_of_ok slotted]
  | deliver respond =>
      unfold Dispatcher.deliver
      split
      · rfl
      · split
        · rfl
        · rw [complete_outcome]; exact settle_outcome_stable _ _ _ settled
  | expire timer =>
      unfold Dispatcher.expire
      split
      · rw [complete_outcome]; exact settle_outcome_stable _ _ _ settled
      · rfl
  | sendReturns => rfl
  | sendThrows =>
      unfold Dispatcher.sendThrows
      split
      · rfl
      · exact settle_outcome_stable _ _ _ settled

/-! ## The transport sees one command after another -/

private theorem Move.sent_cases {d d' : Dispatcher κ π α} (move : Move d d') :
    d'.sent = d.sent ∨ d.slot = none ∧ ∃ packet, d'.sent = d.sent ++ [(d.calls, packet)] := by
  cases move with
  | submit captured packet =>
      cases slotted : d.slot with
      | some pending => rw [sendWaitResult_of_busy slotted]; exact .inl rfl
      | none =>
          cases packet with
          | error error => rw [sendWaitResult_of_error slotted]; exact .inl rfl
          | ok packet => rw [sendWaitResult_of_ok slotted]; exact .inr ⟨rfl, packet, rfl⟩
  | deliver respond =>
      unfold Dispatcher.deliver
      split
      · exact .inl rfl
      · split <;> exact .inl rfl
  | expire call => unfold Dispatcher.expire; split <;> exact .inl rfl
  | sendReturns => exact .inl rfl
  | sendThrows => unfold Dispatcher.sendThrows; split <;> exact .inl rfl

/-- The packets handed to the transport are in the order of their calls, and every packet that
another follows belongs to a call already settled (completed, failed or timed out). -/
def SentInOrder (d : Dispatcher κ π α) : Prop :=
  d.sent.Pairwise fun earlier later => earlier.1 < later.1 ∧ (d.outcome earlier.1).isSome

theorem Move.sentInOrder {d d' : Dispatcher κ π α} (move : Move d d') (invariant : d.Invariant)
    (ordered : d.SentInOrder) : d'.SentInOrder := by
  have kept : d.sent.Pairwise fun earlier later => earlier.1 < later.1 ∧ (d'.outcome earlier.1).isSome :=
    ordered.imp fun ⟨before, settled⟩ => ⟨before, by rwa [move.outcome_stable settled]⟩
  unfold SentInOrder
  rcases move.sent_cases with same | ⟨idle, packet, appended⟩
  · rwa [same]
  · rw [appended, List.pairwise_append]
    refine ⟨kept, List.pairwise_singleton _ _, fun earlier member later latest => ?_⟩
    rw [List.mem_singleton.mp latest]
    have made := invariant.sent earlier.1 earlier.2 member
    have settled := invariant.settled_of_idle idle _ made
    exact ⟨made, by rw [move.outcome_stable settled]; exact settled⟩

theorem Reachable.sentInOrder {d : Dispatcher κ π α} (reachable : d.Reachable) : d.SentInOrder := by
  induction reachable with
  | refl => exact List.Pairwise.nil
  | tail reached move ih => exact move.sentInOrder (Reachable.invariant reached) ih

/-! ## Back to idle without the controller -/

theorem Invariant.sendsReturned {d : Dispatcher κ π α} (invariant : d.Invariant) :
    ({ d with sending := [] } : Dispatcher κ π α).Invariant :=
  { invariant with sending := fun _ member => absurd member (List.not_mem_nil _) }

end BluetoothHci.Dispatcher
