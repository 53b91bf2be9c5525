import BluetoothHci.Packet

/-!
# Dispatchers

`HciCmd.sendWaitResult` and the older `Hci.send` run one command at a time the same way. A
call's promise executor rejects with `Busy` while the pending slot is taken. Otherwise it arms
the call's timer, fills the slot with a continuation over the call's `complete`, frames the
command and hands the packet to the transport. `complete` clears the call's timer, empties
the slot and settles the call's promise, and a promise keeps the first settlement it gets.

This module models that shared machinery over the continuation's captured data `κ`, the
packets `π` and the resolved values `α`; the two dispatchers differ only in what their
continuation does with a delivered result.
-/

set_option autoImplicit false

namespace BluetoothHci

/-- How a call's promise settled. -/
inductive Outcome (α : Type) where
  | resolved (value : α)
  | rejected (error : CallError)
  deriving DecidableEq, Repr

/-- The pending continuation: the call whose `complete` it closes over, and what else it
captured. -/
structure Pending (κ : Type) where
  call : Nat
  captured : κ
  deriving DecidableEq, Repr

/-- A dispatcher's state: the pending slot, the armed timers (each named by its call), the
promises of the calls made so far, the packets handed to the transport with the call that
sent each, the number of calls made, and the calls whose `send` is on the stack, innermost
first. -/
structure Dispatcher (κ π α : Type) where
  slot : Option (Pending κ)
  timers : List Nat
  outcome : Nat → Option (Outcome α)
  sent : List (Nat × π)
  calls : Nat
  sending : List Nat

namespace Dispatcher

variable {κ π α : Type}

def initial : Dispatcher κ π α := ⟨none, [], fun _ => none, [], 0, []⟩

/-- `resolve` or `reject` on a call's promise: a promise already settled stays as it is. -/
def settle (d : Dispatcher κ π α) (call : Nat) (result : Outcome α) : Dispatcher κ π α :=
  { d with outcome := fun other => if other = call then (d.outcome call).or (some result)
                                   else d.outcome other }

/-- The `complete` closure of `call`: `clearTimeout`, `onResult = null`, then settle. -/
def complete (d : Dispatcher κ π α) (call : Nat) (result : Outcome α) : Dispatcher κ π α :=
  { d with timers := d.timers.erase call, slot := none }.settle call result

/-- The promise executor of a new call. `packet` is the framer's result: the framer reads
nothing of the dispatcher, so taking it as an argument computes what the executor computes
when it frames the command after filling the slot. -/
def sendWaitResult (d : Dispatcher κ π α) (captured : κ) (packet : Except HostError π) :
    Dispatcher κ π α :=
  let call := d.calls
  let d := { d with calls := call + 1 }
  match d.slot with
  | some _ => d.settle call (.rejected (.parser .busy))
  | none =>
    let d := { d with timers := call :: d.timers, slot := some ⟨call, captured⟩ }
    match packet with
    | .error error => d.settle call (.rejected (.thrown error))
    | .ok packet => { d with sent := d.sent ++ [(call, packet)], sending := call :: d.sending }

/-- A result delivered to the dispatcher: the pending continuation, if any, runs on it and
either returns or completes its call with `respond`'s outcome. -/
def deliver (d : Dispatcher κ π α) (respond : Pending κ → Option (Outcome α)) :
    Dispatcher κ π α :=
  match d.slot with
  | none => d
  | some pending =>
    match respond pending with
    | none => d
    | some result => d.complete pending.call result

/-- The timer of `call` fires. Only an armed timer fires, and only from the event loop, when
no `send` is running. -/
def expire (d : Dispatcher κ π α) (call : Nat) : Dispatcher κ π α :=
  if call ∈ d.timers ∧ d.sending = [] then d.complete call (.rejected (.parser .timeout)) else d

/-- The innermost `send` returns. -/
def sendReturns (d : Dispatcher κ π α) : Dispatcher κ π α := { d with sending := d.sending.tail }

/-- The innermost `send` throws: the executor throws, which rejects its call's promise. -/
def sendThrows (d : Dispatcher κ π α) : Dispatcher κ π α :=
  match d.sending with
  | [] => d
  | call :: rest => { d with sending := rest }.settle call (.rejected .transport)

/-! ## Projections -/

@[simp] theorem settle_slot (d : Dispatcher κ π α) (call : Nat) (result : Outcome α) :
    (d.settle call result).slot = d.slot := rfl

@[simp] theorem settle_timers (d : Dispatcher κ π α) (call : Nat) (result : Outcome α) :
    (d.settle call result).timers = d.timers := rfl

@[simp] theorem settle_sent (d : Dispatcher κ π α) (call : Nat) (result : Outcome α) :
    (d.settle call result).sent = d.sent := rfl

@[simp] theorem settle_calls (d : Dispatcher κ π α) (call : Nat) (result : Outcome α) :
    (d.settle call result).calls = d.calls := rfl

@[simp] theorem settle_sending (d : Dispatcher κ π α) (call : Nat) (result : Outcome α) :
    (d.settle call result).sending = d.sending := rfl

theorem settle_outcome (d : Dispatcher κ π α) (call other : Nat) (result : Outcome α) :
    (d.settle call result).outcome other =
      if other = call then (d.outcome call).or (some result) else d.outcome other := rfl

theorem settle_outcome_isSome (d : Dispatcher κ π α) (call : Nat) (result : Outcome α) :
    ((d.settle call result).outcome call).isSome := by
  simp only [settle_outcome, if_pos rfl]
  cases d.outcome call <;> rfl

theorem settle_outcome_other (d : Dispatcher κ π α) {call other : Nat} (result : Outcome α)
    (distinct : other ≠ call) : (d.settle call result).outcome other = d.outcome other := by
  simp only [settle_outcome, if_neg distinct]

@[simp] theorem complete_slot (d : Dispatcher κ π α) (call : Nat) (result : Outcome α) :
    (d.complete call result).slot = none := rfl

@[simp] theorem complete_timers (d : Dispatcher κ π α) (call : Nat) (result : Outcome α) :
    (d.complete call result).timers = d.timers.erase call := rfl

@[simp] theorem complete_sent (d : Dispatcher κ π α) (call : Nat) (result : Outcome α) :
    (d.complete call result).sent = d.sent := rfl

@[simp] theorem complete_calls (d : Dispatcher κ π α) (call : Nat) (result : Outcome α) :
    (d.complete call result).calls = d.calls := rfl

@[simp] theorem complete_sending (d : Dispatcher κ π α) (call : Nat) (result : Outcome α) :
    (d.complete call result).sending = d.sending := rfl

theorem complete_outcome (d : Dispatcher κ π α) (call : Nat) (result : Outcome α) :
    (d.complete call result).outcome = (d.settle call result).outcome := rfl

theorem sendWaitResult_of_busy {d : Dispatcher κ π α} {pending : Pending κ}
    (pendingSlot : d.slot = some pending) (captured : κ) (packet : Except HostError π) :
    d.sendWaitResult captured packet =
      { d with calls := d.calls + 1 }.settle d.calls (.rejected (.parser .busy)) := by
  simp only [sendWaitResult, pendingSlot]

theorem sendWaitResult_of_error {d : Dispatcher κ π α} (idle : d.slot = none) (captured : κ)
    (error : HostError) :
    d.sendWaitResult captured (.error error) =
      { d with calls := d.calls + 1, timers := d.calls :: d.timers,
               slot := some ⟨d.calls, captured⟩ }.settle d.calls (.rejected (.thrown error)) := by
  simp only [sendWaitResult, idle]

theorem sendWaitResult_of_ok {d : Dispatcher κ π α} (idle : d.slot = none) (captured : κ)
    (packet : π) :
    d.sendWaitResult captured (.ok packet) =
      { d with calls := d.calls + 1, timers := d.calls :: d.timers,
               slot := some ⟨d.calls, captured⟩, sent := d.sent ++ [(d.calls, packet)],
               sending := d.calls :: d.sending } := by
  simp only [sendWaitResult, idle]

theorem sendWaitResult_slot_of_idle {d : Dispatcher κ π α} (idle : d.slot = none) (captured : κ)
    (packet : Except HostError π) : (d.sendWaitResult captured packet).slot = some ⟨d.calls, captured⟩ := by
  cases packet <;> simp only [sendWaitResult, idle, settle_slot]

theorem deliver_slot (d : Dispatcher κ π α) (respond : Pending κ → Option (Outcome α)) :
    (d.deliver respond).slot = d.slot ∨ (d.deliver respond).slot = none := by
  unfold deliver
  split
  · exact .inl rfl
  · split
    · exact .inl rfl
    · exact .inr rfl

theorem expire_slot (d : Dispatcher κ π α) (call : Nat) :
    (d.expire call).slot = d.slot ∨ (d.expire call).slot = none := by
  unfold expire
  split
  · exact .inr rfl
  · exact .inl rfl

@[simp] theorem expire_sending (d : Dispatcher κ π α) (call : Nat) : (d.expire call).sending = d.sending := by
  unfold expire; split <;> rfl

@[simp] theorem expire_calls (d : Dispatcher κ π α) (call : Nat) : (d.expire call).calls = d.calls := by
  unfold expire; split <;> rfl

@[simp] theorem sendReturns_slot (d : Dispatcher κ π α) : d.sendReturns.slot = d.slot := rfl

@[simp] theorem sendThrows_slot (d : Dispatcher κ π α) : d.sendThrows.slot = d.slot := by
  unfold sendThrows; split <;> rfl

theorem sendThrows_of_sending {d : Dispatcher κ π α} {call : Nat} {rest : List Nat}
    (running : d.sending = call :: rest) :
    d.sendThrows = { d with sending := rest }.settle call (.rejected .transport) := by
  simp only [sendThrows, running]

theorem settle_of_settled (d : Dispatcher κ π α) {call : Nat} (result : Outcome α)
    (settled : (d.outcome call).isSome) : (d.settle call result).outcome = d.outcome := by
  funext other
  by_cases same : other = call
  · subst same
    obtain ⟨value, found⟩ := Option.isSome_iff_exists.mp settled
    simp [settle_outcome, found]
  · exact settle_outcome_other d result same

end Dispatcher

end BluetoothHci
