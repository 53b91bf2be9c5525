import BluetoothHci.EventRouter
import BluetoothHci.Dispatcher.Refinement

/-!
# Safety of the dispatchers

Every run of either dispatcher from its idle state keeps the dispatcher invariant, so at most
one call is outstanding, a command sent while one is pending is rejected with `Busy`, and no
call's completion or timer settles another call or frees the slot of a later one. In the
older `Hci` the recorded `cmdOpcode` always belongs to the pending call.

Both executors take the slot and arm the call's timer before they frame the command and hand
it to the transport. When the framer or the transport throws, the call is rejected but the slot
stays taken until the timer fires, and every command sent in the meantime is rejected with
`Busy`. Without such a failure, every run of either dispatcher is a run of the spec's
single-slot correlator.
-/

set_option autoImplicit false

namespace BluetoothHci

/-- Every run of either dispatcher keeps at most one call outstanding: the invariant and its
consequences hold in every state it reaches, and the older `Hci`'s continuation acts as if it
had captured the pending call's opcode. -/
theorem dispatchers_single_outstanding :
    (∀ inputs : List HciCmd.Input, (HciCmd.run Dispatcher.initial inputs).SingleOutstanding) ∧
    (∀ inputs : List LegacyHci.Input,
      let h := LegacyHci.run LegacyHci.initial inputs
      h.core.SingleOutstanding ∧ h.OpcodeRecorded ∧
        (∀ evt, (h.onCmdComplete evt).core =
          h.core.deliver fun pending => LegacyHci.onCmdCompleteOf pending.captured evt) ∧
        ∀ pending, h.core.slot = some pending → ∀ cmd, (h.send cmd).cmdOpcode = h.cmdOpcode) :=
  ⟨fun inputs => (HciCmd.run_reachable .refl inputs).singleOutstanding,
    fun inputs =>
      have recorded := LegacyHci.opcodeRecorded_run inputs
      ⟨(@LegacyHci.run_reachable LegacyHci.initial .refl inputs).singleOutstanding, recorded,
        fun evt => LegacyHci.onCmdComplete_core recorded evt,
        fun _ pendingSlot cmd => LegacyHci.send_cmdOpcode_of_busy pendingSlot cmd⟩⟩

/-! ## Host-side failures -/

/-- Parameters longer than the length byte allows make the framer throw at the length byte. -/
theorem HciCmd.buildCommand_of_long {cmd : Command} (nonneg : 0 ≤ cmd.opcode)
    (fits : cmd.opcode < 2 ^ 16) (long : 255 < payloadLength cmd.payload) :
    HciCmd.buildCommand cmd = .error (.rangeError (.outOfRange (payloadLength cmd.payload) 0 255)) := by
  obtain ⟨written, first⟩ := @Buffer.writeIntegerLE_isOk 0 (2 ^ (8 * 2) - 1) cmd.opcode
    (Buffer.allocUnsafe (3 + payloadLength cmd.payload)) 0 2 (by decide) (by decide) nonneg (by omega) (by simp; omega)
  obtain ⟨buffer, offset⟩ := written
  obtain ⟨-, rfl, -⟩ := Buffer.writeIntegerLE_eq_ok.mp first
  simp only [HciCmd.buildCommand, Buffer.writeUIntLE, first, bind, Except.bind]
  rw [Buffer.writeIntegerLE, if_neg (by decide), if_pos (Or.inr (by norm_num; omega))]
  rfl

/-- The older `leSetExtendedAdvertisingData` accepts 252 to 255 bytes of data, which make a
payload the framer cannot take. -/
theorem extendedData_reaches_framer {data : Buffer} (low : 252 ≤ data.length) (high : data.length ≤ 255) :
    ∃ payload, LegacyHci.leSetExtendedAdvertisingData ⟨0, 3, false, data⟩ = .ok payload ∧
      payload.length = 4 + data.length := by
  have inRange : ∀ write ∈ [Write.uintLE 0 1, .uintLE 3 1, .uintLE 1 1, .uintLE data.length 1,
      .copy data .running], write.InRange := by
    simp [Write.InRange]; omega
  obtain ⟨payload, encoded⟩ := @encode_isOk (4 + data.length) _ (by
    simp [layout, Write.range, Write.next, Place.offset, Place.next, ByteRange.chainEnd]) inRange
  refine ⟨payload, encoded, ?_⟩
  simp only [encode, except_bind_eq_ok, Prod.exists, pure, Except.pure, Except.ok.injEq] at encoded
  obtain ⟨written, stop, ran, rfl⟩ := encoded
  simpa using (runWrites_eq_ok ran).1

/-- A call whose parameters are longer than the length byte allows, or whose transport
throws, is rejected after it took the slot and armed its timer, in both dispatchers: its
packet never reaches the transport, and the next command is rejected with `Busy`. The older
`leSetExtendedAdvertisingData` hands the framer such parameters for 252 to 255 bytes of data. -/
theorem host_failure_keeps_slot :
    (∀ (s : HciCmd) (cmd : Command), s.Reachable → s.slot = none → 0 ≤ cmd.opcode →
      cmd.opcode < 2 ^ 16 → 255 < payloadLength cmd.payload →
      (HciCmd.sendWaitResult s cmd).outcome s.calls =
          some (.rejected (.thrown (.rangeError (.outOfRange (payloadLength cmd.payload) 0 255)))) ∧
        (HciCmd.sendWaitResult s cmd).sent = s.sent ∧
        (HciCmd.sendWaitResult s cmd).slot = some ⟨s.calls, cmd⟩ ∧
        (HciCmd.sendWaitResult s cmd).timers = [s.calls] ∧
        ∀ next, (HciCmd.sendWaitResult (HciCmd.sendWaitResult s cmd) next).outcome (s.calls + 1) =
          some (.rejected (.parser .busy))) ∧
    (∀ (h : LegacyHci) (cmd : HciCommand), h.core.Reachable → h.core.slot = none →
      0 ≤ cmd.opcode → cmd.opcode < 2 ^ 16 → 255 < payloadLength cmd.params →
      (h.send cmd).core.outcome h.core.calls =
          some (.rejected (.thrown (.rangeError (.outOfRange (payloadLength cmd.params) 0 255)))) ∧
        (h.send cmd).core.sent = h.core.sent ∧
        (h.send cmd).core.slot = some ⟨h.core.calls, cmd.opcode⟩ ∧
        (h.send cmd).core.timers = [h.core.calls] ∧ (h.send cmd).cmdOpcode = cmd.opcode ∧
        ∀ next, ((h.send cmd).send next).core.outcome (h.core.calls + 1) =
          some (.rejected (.parser .busy))) ∧
    (∀ data : Buffer, 252 ≤ data.length → data.length ≤ 255 →
      ∃ payload, LegacyHci.leSetExtendedAdvertisingData ⟨0, 3, false, data⟩ = .ok payload ∧
        255 < payloadLength (some payload)) ∧
    (∀ (s : HciCmd) (cmd : Command) (packet : Buffer), s.Reachable → s.slot = none →
      HciCmd.buildCommand cmd = .ok packet →
      (HciCmd.sendWaitResult s cmd).sendThrows.outcome s.calls = some (.rejected .transport) ∧
        (HciCmd.sendWaitResult s cmd).sendThrows.slot = some ⟨s.calls, cmd⟩ ∧
        (HciCmd.sendWaitResult s cmd).sendThrows.timers = [s.calls] ∧
        ∀ next, (HciCmd.sendWaitResult (HciCmd.sendWaitResult s cmd).sendThrows next).outcome
          (s.calls + 1) = some (.rejected (.parser .busy))) := by
  refine ⟨fun s cmd reachable idle nonneg fits long => ?_, fun h cmd reachable idle nonneg fits long => ?_,
    fun data low high => ?_, fun s cmd packet reachable idle framed => ?_⟩
  · obtain ⟨thrown, sent, slot, timers, busy⟩ := reachable.frame_error_keeps_slot idle cmd _
    simp only [HciCmd.sendWaitResult, HciCmd.buildCommand_of_long nonneg fits long, Except.map] at *
    exact ⟨thrown, sent, slot, timers, fun next => busy _ _⟩
  · obtain ⟨thrown, sent, slot, timers, busy⟩ := reachable.frame_error_keeps_slot idle cmd.opcode _
    have failed : LegacyHci.buildBuffer cmd = .error (.rangeError (.outOfRange (payloadLength cmd.params) 0 255)) := by
      rw [LegacyHci.buildBuffer_eq_buildCommand _ none]
      exact HciCmd.buildCommand_of_long nonneg fits long
    simp only [LegacyHci.send_core, failed]
    exact ⟨thrown, sent, slot, timers, by simp [LegacyHci.send, idle], fun next => busy _ _⟩
  · obtain ⟨payload, encoded, length⟩ := extendedData_reaches_framer low high
    exact ⟨payload, encoded, by simp [payloadLength, length]; omega⟩
  · obtain ⟨thrown, slot, timers, busy⟩ := reachable.send_error_keeps_slot idle cmd (.hciCommand, packet)
    simp only [HciCmd.sendWaitResult, framed, Except.map] at *
    exact ⟨thrown, slot, timers, fun next => busy _ _⟩

/-! ## Runs without host failures -/

/-- An input on which the host side does not fail: a command the framer accepts, a delivered
result, a timer firing, or a `send` returning. -/
def HciCmd.Input.Clean : HciCmd.Input → Prop
  | .submit cmd => ∃ packet, HciCmd.buildCommand cmd = .ok packet
  | .sendThrows => False
  | .result _ | .expire _ | .sendReturns => True

@[inherit_doc HciCmd.Input.Clean]
def LegacyHci.Input.Clean : LegacyHci.Input → Prop
  | .submit cmd => ∃ packet, LegacyHci.buildBuffer cmd = .ok packet
  | .sendThrows => False
  | .cmdComplete _ | .expire _ | .sendReturns => True

private theorem HciCmd.run_cleanMoves (s : HciCmd) {inputs : List HciCmd.Input} (clean : ∀ input ∈ inputs, input.Clean) :
    Relation.ReflTransGen Dispatcher.CleanMove s (HciCmd.run s inputs) := by
  induction inputs generalizing s with
  | nil => exact .refl
  | cons input rest ih =>
      refine .head ?_ (ih _ fun other member => clean other (List.mem_cons_of_mem _ member))
      have cleanInput := clean input (List.mem_cons_self _ _)
      cases input with
      | submit cmd =>
          obtain ⟨packet, built⟩ := cleanInput
          show Dispatcher.CleanMove s (Dispatcher.sendWaitResult s cmd _)
          rw [built]
          exact .submit s cmd _
      | result evt => exact .deliver _ _
      | expire call => exact .expire _ call
      | sendReturns => exact .sendReturns _
      | sendThrows => exact cleanInput.elim

private theorem LegacyHci.run_cleanMoves (h : LegacyHci) {inputs : List LegacyHci.Input}
    (clean : ∀ input ∈ inputs, input.Clean) :
    Relation.ReflTransGen Dispatcher.CleanMove h.core (LegacyHci.run h inputs).core := by
  induction inputs generalizing h with
  | nil => exact .refl
  | cons input rest ih =>
      refine .head ?_ (ih _ fun other member => clean other (List.mem_cons_of_mem _ member))
      have cleanInput := clean input (List.mem_cons_self _ _)
      cases input with
      | submit cmd =>
          obtain ⟨packet, framed⟩ := cleanInput
          rw [LegacyHci.step, LegacyHci.send_core, framed]
          exact .submit _ _ _
      | cmdComplete evt => exact .deliver _ _
      | expire call => exact .expire _ call
      | sendReturns => exact .sendReturns _
      | sendThrows => exact cleanInput.elim

/-- While the host side does not fail (every command submitted is framed and no `send`
throws), either dispatcher is the spec's single-slot correlator: every state a run reaches is
one the correlator reaches by taking a command into the idle slot, rejecting one with `Busy`,
or finishing the pending call, so every call made is settled but the pending one, whose promise
is still open. -/
theorem clean_runs_refine_correlator :
    (∀ inputs : List HciCmd.Input, (∀ input ∈ inputs, input.Clean) →
      Relation.ReflTransGen Correlator.Step Correlator.initial
          (HciCmd.run Dispatcher.initial inputs).correlator ∧
        (HciCmd.run Dispatcher.initial inputs).correlator.Sound) ∧
    (∀ inputs : List LegacyHci.Input, (∀ input ∈ inputs, input.Clean) →
      Relation.ReflTransGen Correlator.Step Correlator.initial
          (LegacyHci.run LegacyHci.initial inputs).core.correlator ∧
        (LegacyHci.run LegacyHci.initial inputs).core.correlator.Sound) :=
  ⟨fun _ clean =>
    have steps := (Dispatcher.correlator_of_cleanMoves (HciCmd.run_cleanMoves _ clean)).1
    ⟨steps, Correlator.sound_of_steps steps⟩,
   fun _ clean =>
    have steps := (Dispatcher.correlator_of_cleanMoves (LegacyHci.run_cleanMoves LegacyHci.initial clean)).1
    ⟨steps, Correlator.sound_of_steps steps⟩⟩

/-- A Reset sent, its `send` returning and its `CommandComplete` delivered, then Read BD_ADDR
sent: each run is one of the correlator's. -/
theorem clean_runs_refine_correlator_reset :
    (∀ input ∈ [HciCmd.Input.submit ⟨0x0C03, none, none⟩, .sendReturns, .result ⟨1, 0x0C03, 0, some []⟩,
      .submit ⟨0x1009, none, none⟩], input.Clean) ∧
    Relation.ReflTransGen Correlator.Step Correlator.initial
      (HciCmd.run Dispatcher.initial [.submit ⟨0x0C03, none, none⟩, .sendReturns, .result ⟨1, 0x0C03, 0, some []⟩,
        .submit ⟨0x1009, none, none⟩]).correlator :=
  have clean : ∀ input ∈ [HciCmd.Input.submit ⟨0x0C03, none, none⟩, .sendReturns, .result ⟨1, 0x0C03, 0, some []⟩,
      .submit ⟨0x1009, none, none⟩], input.Clean := by
    simp only [List.mem_cons, List.mem_singleton, List.not_mem_nil, or_false, forall_eq_or_imp, forall_eq]
    exact ⟨⟨_, rfl⟩, trivial, trivial, ⟨_, rfl⟩⟩
  ⟨clean, (clean_runs_refine_correlator.1 _ clean).1⟩

end BluetoothHci
