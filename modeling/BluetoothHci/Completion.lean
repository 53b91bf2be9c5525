import BluetoothHci.EventPackets
import BluetoothHci.Dispatcher.Progress
import BluetoothHci.ReturnParameters

/-!
# How a call ends

The newer stack end to end: a command taken into the empty slot goes to the transport as the
framed command packet, and the event packet whose result the call accepts, routed by
`Hci.onData`, settles it and frees the slot for the next command. When the controller sends
nothing, the event loop alone (the running sends return, the pending call's timer fires)
brings the dispatcher back to idle with every call settled. For the older `Hci`, a command method that
decodes its answer settles with the fields it reads, `InvalidPayloadSize` on a short answer, or
the controller's status.
-/

set_option autoImplicit false

namespace BluetoothHci

namespace HciCmd

private theorem run_append (s : HciCmd) (first second : List Input) :
    run s (first ++ second) = run (run s first) second :=
  List.foldl_append _ _ _ _

private theorem run_sendReturns (s : HciCmd) (n : Nat) :
    run s (List.replicate n .sendReturns) = { s with sending := s.sending.drop n } := by
  induction n generalizing s with
  | zero => rfl
  | succ n ih =>
      show run (Dispatcher.sendReturns s) _ = _
      rw [ih]
      simp only [Dispatcher.sendReturns, List.drop_tail]

/-- The inputs of the event loop when the controller sends nothing: every running `send`
returns, then the pending call's timer fires. -/
def quiet (s : HciCmd) : List Input :=
  List.replicate s.sending.length .sendReturns ++ s.slot.toList.map fun pending => .expire pending.call

private theorem run_expire_pending {r : HciCmd} (invariant : r.Invariant) (returned : r.sending = []) :
    let r' := run r (r.slot.toList.map fun pending => .expire pending.call)
    r'.slot = none ∧ r'.timers = [] ∧ r'.sending = [] ∧ (∀ call < r.calls, (r'.outcome call).isSome) ∧
      ∀ pending, r.slot = some pending → r.outcome pending.call = none →
        r'.outcome pending.call = some (.rejected (.parser .timeout)) := by
  cases slotted : r.slot with
  | none =>
      exact ⟨slotted, invariant.timers_of_idle slotted, returned, invariant.settled_of_idle slotted,
        fun _ found => nomatch found⟩
  | some pending =>
      obtain ⟨idle, timers, timeout⟩ := invariant.expire_pending slotted returned
      have expired := (Dispatcher.Move.expire r pending.call).invariant invariant
      refine ⟨idle, timers, by simp only [run, List.foldl, step, Dispatcher.expire_sending, returned],
        fun call made => expired.settled_of_idle idle call (by rwa [Dispatcher.expire_calls]),
        fun _ found unsettled => ?_⟩
      cases found
      exact timeout.trans (by rw [unsettled]; rfl)

/-- From every reachable state, the quiet event loop leaves no send running, no timer armed
and the slot empty, with every call made settled; the pending call, if nothing settled it, is
rejected with `Timeout`. -/
theorem run_quiet {s : HciCmd} (reachable : s.Reachable) :
    (run s s.quiet).slot = none ∧ (run s s.quiet).timers = [] ∧ (run s s.quiet).sending = [] ∧
      (∀ call < s.calls, ((run s s.quiet).outcome call).isSome) ∧
      ∀ pending, s.slot = some pending → s.outcome pending.call = none →
        (run s s.quiet).outcome pending.call = some (.rejected (.parser .timeout)) := by
  rw [quiet, run_append, run_sendReturns, List.drop_length]
  exact @run_expire_pending { s with sending := [] } reachable.invariant.sendsReturned rfl

end HciCmd

/-! ## A command and its completion -/

/-- The older `Hci` end to end: a command sent while no call is pending is framed and handed
to `sendRaw`, and the controller's `CommandComplete` for its opcode settles the call, resolved
with the event on `Success` and rejected with the controller's status otherwise, and frees the
slot. -/
theorem legacy_command_round_trip {h : LegacyHci} (reachable : h.core.Reachable) (idle : h.core.slot = none)
    {opcode : Nat} {params : Option Buffer} (fits : opcode < 2 ^ 16) (lengthFits : payloadLength params < 2 ^ 8)
    {numPackets status : Nat} {returnParameters : List UInt8} (numPacketsSmall : numPackets < 2 ^ 8)
    (statusSmall : status < 2 ^ 8) (short : returnParameters.length < 2 ^ 8 - 4) :
    (∃ packet, (h.send ⟨opcode, params⟩).core.sent = h.core.sent ++ [(h.core.calls, packet)] ∧
      packet.cells = (leBytes 2 opcode ++ leBytes 1 (payloadLength params)).map some ++
        (params.map Buffer.cells).getD []) ∧
    (LegacyHci.receive (h.send ⟨opcode, params⟩)
        (ControllerEvent.commandComplete numPackets opcode status returnParameters)).core.outcome h.core.calls =
      some (if status = 0 then .resolved ⟨numPackets, opcode, status, returnParameters⟩
        else .rejected (.controller status)) ∧
    (LegacyHci.receive (h.send ⟨opcode, params⟩)
        (ControllerEvent.commandComplete numPackets opcode status returnParameters)).core.slot = none ∧
    (LegacyHci.receive (h.send ⟨opcode, params⟩)
        (ControllerEvent.commandComplete numPackets opcode status returnParameters)).core.timers = [] := by
  obtain ⟨packet, built⟩ := @HciCmd.buildCommand_isOk ⟨opcode, none, params⟩ (by positivity)
    (by simp only; omega) lengthFits
  have framed : LegacyHci.buildBuffer ⟨opcode, params⟩ = .ok packet := by
    rw [LegacyHci.buildBuffer_eq_buildCommand _ none]; exact built
  have cells := (HciCmd.buildCommand_eq_ok built).2.1
  simp only [Int.toNat_natCast] at cells
  rw [LegacyHci.receive_commandComplete _ numPacketsSmall fits statusSmall short, LegacyHci.send_of_idle idle framed,
    LegacyHci.onCmdComplete_of_recorded rfl rfl]
  refine ⟨⟨packet, rfl, cells⟩, ?_, rfl, by simp [reachable.invariant.timers_of_idle idle]⟩
  simp [Dispatcher.complete_outcome, Dispatcher.settle_outcome, reachable.invariant.fresh h.core.calls le_rfl,
    HciErrorCode.success]

/-- A Reset on the older idle `Hci` is resolved by the controller's `0E 04 01 03 0C 00`. -/
theorem legacy_command_round_trip_reset :
    (LegacyHci.receive (LegacyHci.initial.send ⟨0x0C03, none⟩)
        (ControllerEvent.commandComplete 1 0x0C03 0 [])).core.outcome 0 =
      some (.resolved ⟨1, 0x0C03, 0, []⟩) :=
  (@legacy_command_round_trip LegacyHci.initial .refl rfl 0x0C03 none (by decide) (by decide) 1 0 []
    (by decide) (by decide) (by decide)).2.1

/-- A command method of the older `Hci` that decodes its answer, called while no call is
pending, settles with what the controller's `CommandComplete` for its opcode carries: the
controller's status when it is not `Success`, `InvalidPayloadSize` when the return parameters
are shorter than the decoder checks, and otherwise every field the decoder reads, whole. -/
theorem legacy_method_answers {h : LegacyHci} (reachable : h.core.Reachable) (idle : h.core.slot = none)
    (decoder : ReturnDecoder) {opcode : Nat} {params : Option Buffer} (fits : opcode < 2 ^ 16)
    (lengthFits : payloadLength params < 2 ^ 8) {numPackets status : Nat} {returnParameters : List UInt8}
    (numPacketsSmall : numPackets < 2 ^ 8) (statusSmall : status < 2 ^ 8)
    (short : returnParameters.length < 2 ^ 8 - 4) :
    ((LegacyHci.receive (h.send ⟨opcode, params⟩)
        (ControllerEvent.commandComplete numPackets opcode status returnParameters)).core.outcome
          h.core.calls).map decoder.answer =
      some (if status ≠ 0 then .error (.controller status)
        else if returnParameters.length < decoder.minLength then .error (.parser .invalidPayloadSize)
        else .ok (decoder.fields.map fun field => field.value returnParameters)) := by
  obtain ⟨packet, built⟩ := @HciCmd.buildCommand_isOk ⟨opcode, none, params⟩ (by positivity)
    (by simp only; omega) lengthFits
  have framed : LegacyHci.buildBuffer ⟨opcode, params⟩ = .ok packet := by
    rw [LegacyHci.buildBuffer_eq_buildCommand _ none]; exact built
  rw [LegacyHci.receive_commandComplete _ numPacketsSmall fits statusSmall short, LegacyHci.send_of_idle idle framed,
    LegacyHci.onCmdComplete_of_recorded rfl rfl]
  simp only [Dispatcher.complete_outcome, Dispatcher.settle_outcome, reachable.invariant.fresh h.core.calls le_rfl,
    if_true, Option.none_or, Option.map_some', HciErrorCode.success, Nat.cast_eq_zero]
  by_cases success : status = 0
  · by_cases tooShort : returnParameters.length < decoder.minLength
    · simp [success, tooShort, ReturnDecoder.answer, ReturnDecoder.run_of_short tooShort]
    · simp [success, tooShort, ReturnDecoder.answer, ReturnDecoder.run_of_long (Nat.le_of_not_lt tooShort)]
  · simp [success, ReturnDecoder.answer]

/-- Read BD_ADDR on the older idle `Hci`, answered with the address `11:22:33:44:55:66`, reads
it as one number. -/
theorem legacy_method_answers_readBdAddr :
    ((LegacyHci.receive (LegacyHci.initial.send ⟨0x1009, none⟩)
        (ControllerEvent.commandComplete 1 0x1009 0 [0x66, 0x55, 0x44, 0x33, 0x22, 0x11])).core.outcome 0).map
        ReturnDecoder.readBdAddr.answer = some (.ok [0x112233445566]) :=
  (@legacy_method_answers LegacyHci.initial .refl rfl .readBdAddr 0x1009 none (by decide) (by decide) 1 0
    [0x66, 0x55, 0x44, 0x33, 0x22, 0x11] (by decide) (by decide) (by decide)).trans rfl

/-! ## Event streams -/

/-- However a run went, the event loop alone, with no packet from the controller, brings the
newer dispatcher back to idle: the running sends return and the pending call's timer fires;
then no send runs, no timer is armed, every call made is settled (the pending one with
`Timeout` if nothing settled it before), and the next command is taken into the slot. -/
theorem quiet_loop_recovers :
    ∀ inputs : List HciCmd.Input,
      let s := HciCmd.run Dispatcher.initial inputs
      let s' := HciCmd.run s s.quiet
      s'.slot = none ∧ s'.timers = [] ∧ s'.sending = [] ∧ (∀ call < s.calls, (s'.outcome call).isSome) ∧
        (∀ pending, s.slot = some pending → s.outcome pending.call = none →
          s'.outcome pending.call = some (.rejected (.parser .timeout))) ∧
        ∀ cmd, (s'.sendWaitResult cmd).slot = some ⟨s'.calls, cmd⟩ := fun inputs =>
  have ⟨idle, timers, returned, settled, timeout⟩ := HciCmd.run_quiet (HciCmd.run_reachable .refl inputs)
  ⟨idle, timers, returned, settled, timeout, fun cmd => Dispatcher.sendWaitResult_slot_of_idle idle cmd _⟩

/-! ## The transport -/

/-- Over every run of either dispatcher the transport receives the commands one after another:
the packets are handed over in the order of their calls, and in every state each packet that
another follows belongs to a settled call (completed, rejected or timed out), so a packet is
handed over only once every call that sent one before it has settled. -/
theorem transport_sees_commands_in_order :
    (∀ inputs : List HciCmd.Input,
      let s := HciCmd.run Dispatcher.initial inputs
      s.sent.Pairwise fun earlier later => earlier.1 < later.1 ∧ (s.outcome earlier.1).isSome) ∧
    (∀ inputs : List LegacyHci.Input,
      let h := LegacyHci.run LegacyHci.initial inputs
      h.core.sent.Pairwise fun earlier later => earlier.1 < later.1 ∧ (h.core.outcome earlier.1).isSome) :=
  ⟨fun inputs => (HciCmd.run_reachable .refl inputs).sentInOrder,
    fun inputs => (@LegacyHci.run_reachable LegacyHci.initial .refl inputs).sentInOrder⟩

end BluetoothHci
