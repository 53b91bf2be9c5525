import BluetoothHci.Dispatcher.Invariant
import BluetoothHci.Encoders

/-!
# The older `Hci` dispatcher

The older `Hci.send` runs on the same machinery as `HciCmd.sendWaitResult`, but its
continuation captures nothing of the call: past the `Busy` check, `send` records the call's
opcode in the field `cmdOpcode`, and the continuation compares a delivered `CommandComplete`
with that field when it runs. Only an accepted call writes the field, so while a call is
pending the field holds its opcode, and the continuation behaves as if it had captured it.
-/

set_option autoImplicit false

namespace BluetoothHci

/-- `HciEvtCmdComplete` of the older `Hci`. -/
structure HciEvtCmdComplete where
  numHciPackets : Int
  opcode : Int
  status : Int
  returnParameters : List UInt8
  deriving DecidableEq, Repr

/-- The older `Hci`'s command state: the dispatcher, which hands the framed buffer to
`sendRaw`, and the field `cmdOpcode`. The slot records the opcode its call wrote to
`cmdOpcode`; the continuation itself never reads it. -/
structure LegacyHci where
  core : Dispatcher Int Buffer HciEvtCmdComplete
  cmdOpcode : Int

namespace LegacyHci

def initial : LegacyHci := ⟨Dispatcher.initial, 0⟩

/-- The continuation `send` puts in the slot, run on a delivered `evt` with the value the
field `cmdOpcode` has at that time. -/
def onCmdCompleteOf (cmdOpcode : Int) (evt : HciEvtCmdComplete) :
    Option (Outcome HciEvtCmdComplete) :=
  if cmdOpcode ≠ evt.opcode then none
  else if evt.status = HciErrorCode.success then some (.resolved evt)
  else some (.rejected (.controller evt.status))

/-- `send(cmd)`. `this.cmdOpcode = cmd.opcode` runs only once the slot is taken by this call,
and `buildBuffer` reads nothing of the dispatcher, so its result is computed up front. -/
def send (h : LegacyHci) (cmd : HciCommand) : LegacyHci :=
  match h.core.slot with
  | some _ => { h with core := h.core.sendWaitResult cmd.opcode (buildBuffer cmd) }
  | none => ⟨h.core.sendWaitResult cmd.opcode (buildBuffer cmd), cmd.opcode⟩

/-- `this.onCmdComplete(evt)`, as `onData` calls it when the slot is taken. -/
def onCmdComplete (h : LegacyHci) (evt : HciEvtCmdComplete) : LegacyHci :=
  { h with core := h.core.deliver fun _ => onCmdCompleteOf h.cmdOpcode evt }

/-- `sendLeCommand(ocf, payload)`: `send` with the opcode of the LE controller group. -/
def sendLeCommand (h : LegacyHci) (ocf : Int) (payload : Option Buffer) : LegacyHci :=
  h.send ⟨HciOpcode.build ⟨HciOgf.leControllerCommands.toInt, ocf⟩, payload⟩

/-- An LE command method with parameters: its encoder runs first, and when the encoder throws,
the method's promise rejects before `sendLeCommand` runs. -/
def leCommand (h : LegacyHci) (ocf : Int) (encoded : Except HostError Buffer) :
    Except HostError LegacyHci :=
  encoded.map fun payload => h.sendLeCommand ocf (some payload)

/-- What can happen to the older `Hci`: a command sent (by any of its command methods), a
`CommandComplete` delivered by `onData`, a timer firing, or `sendRaw` returning or throwing. -/
inductive Input where
  | submit (cmd : HciCommand)
  | cmdComplete (evt : HciEvtCmdComplete)
  | expire (call : Nat)
  | sendReturns
  | sendThrows
  deriving DecidableEq, Repr

def step (h : LegacyHci) : Input → LegacyHci
  | .submit cmd => h.send cmd
  | .cmdComplete evt => h.onCmdComplete evt
  | .expire call => { h with core := h.core.expire call }
  | .sendReturns => { h with core := h.core.sendReturns }
  | .sendThrows => { h with core := h.core.sendThrows }

def run (h : LegacyHci) (inputs : List Input) : LegacyHci := inputs.foldl step h

@[simp] theorem send_core (h : LegacyHci) (cmd : HciCommand) :
    (h.send cmd).core = h.core.sendWaitResult cmd.opcode (buildBuffer cmd) := by
  unfold send; split <;> rfl

theorem send_of_idle {h : LegacyHci} (idle : h.core.slot = none) {cmd : HciCommand} {packet : Buffer}
    (framed : buildBuffer cmd = .ok packet) :
    h.send cmd =
      ⟨{ h.core with calls := h.core.calls + 1, timers := h.core.calls :: h.core.timers,
                     slot := some ⟨h.core.calls, cmd.opcode⟩, sent := h.core.sent ++ [(h.core.calls, packet)],
                     sending := h.core.calls :: h.core.sending }, cmd.opcode⟩ := by
  simp only [send, idle, framed, Dispatcher.sendWaitResult_of_ok idle]

theorem onCmdComplete_of_recorded {h : LegacyHci} {pending : Pending Int} (pendingSlot : h.core.slot = some pending)
    {evt : HciEvtCmdComplete} (recorded : h.cmdOpcode = evt.opcode) :
    h.onCmdComplete evt =
      { h with core := h.core.complete pending.call
                 (if evt.status = HciErrorCode.success then .resolved evt else .rejected (.controller evt.status)) } := by
  by_cases success : evt.status = HciErrorCode.success <;>
    simp [onCmdComplete, onCmdCompleteOf, Dispatcher.deliver, pendingSlot, recorded, success]

theorem send_cmdOpcode_of_busy {h : LegacyHci} {pending : Pending Int} (pendingSlot : h.core.slot = some pending)
    (cmd : HciCommand) : (h.send cmd).cmdOpcode = h.cmdOpcode := by
  simp only [send, pendingSlot]

theorem step_move (h : LegacyHci) (input : Input) : Dispatcher.Move h.core (h.step input).core := by
  cases input with
  | submit cmd => rw [step, send_core]; exact .submit _ _ _
  | cmdComplete evt => exact .deliver _ _
  | expire call => exact .expire _ call
  | sendReturns => exact .sendReturns _
  | sendThrows => exact .sendThrows _

theorem run_moves (h : LegacyHci) (inputs : List Input) :
    Relation.ReflTransGen Dispatcher.Move h.core (run h inputs).core := by
  induction inputs generalizing h with
  | nil => exact .refl
  | cons input rest ih => exact .head (step_move h input) (ih _)

theorem run_reachable {h : LegacyHci} (reachable : h.core.Reachable) (inputs : List Input) :
    (run h inputs).core.Reachable :=
  reachable.trans (run_moves h inputs)

/-! ## The recorded opcode -/

/-- While a call is pending, `cmdOpcode` holds the opcode it recorded. -/
def OpcodeRecorded (h : LegacyHci) : Prop :=
  ∀ pending, h.core.slot = some pending → h.cmdOpcode = pending.captured

private theorem opcodeRecorded_of_slot {h h' : LegacyHci} (recorded : h.OpcodeRecorded)
    (sameOpcode : h'.cmdOpcode = h.cmdOpcode) (slot : h'.core.slot = h.core.slot ∨ h'.core.slot = none) :
    h'.OpcodeRecorded := fun pending pendingSlot => by
  rcases slot with same | emptied
  · rw [sameOpcode]; exact recorded pending (same ▸ pendingSlot)
  · simp [emptied] at pendingSlot

theorem OpcodeRecorded.step {h : LegacyHci} (recorded : h.OpcodeRecorded) (input : Input) :
    (h.step input).OpcodeRecorded := by
  cases input with
  | submit cmd =>
      unfold LegacyHci.step send
      cases slotted : h.core.slot with
      | some pending =>
          exact opcodeRecorded_of_slot recorded rfl (.inl (by simp [Dispatcher.sendWaitResult_of_busy slotted]))
      | none =>
          intro pending pendingSlot
          simp only [Dispatcher.sendWaitResult_slot_of_idle slotted, Option.some.injEq] at pendingSlot
          exact congrArg Pending.captured pendingSlot
  | cmdComplete evt => exact opcodeRecorded_of_slot recorded rfl (Dispatcher.deliver_slot _ _)
  | expire call => exact opcodeRecorded_of_slot recorded rfl (Dispatcher.expire_slot _ _)
  | sendReturns => exact opcodeRecorded_of_slot recorded rfl (.inl rfl)
  | sendThrows => exact opcodeRecorded_of_slot recorded rfl (.inl (Dispatcher.sendThrows_slot _))

theorem opcodeRecorded_run (inputs : List Input) : (run initial inputs).OpcodeRecorded := by
  suffices general : ∀ h : LegacyHci, h.OpcodeRecorded → (run h inputs).OpcodeRecorded from
    general initial fun pending found => by simp [initial, Dispatcher.initial] at found
  induction inputs with
  | nil => exact fun h recorded => recorded
  | cons input rest ih => exact fun h recorded => ih _ (recorded.step input)

/-- With the opcode recorded, the continuation behaves as one that captured its call's
opcode. -/
theorem onCmdComplete_core {h : LegacyHci} (recorded : h.OpcodeRecorded) (evt : HciEvtCmdComplete) :
    (h.onCmdComplete evt).core = h.core.deliver fun pending => onCmdCompleteOf pending.captured evt := by
  unfold onCmdComplete Dispatcher.deliver
  cases slotted : h.core.slot with
  | none => rfl
  | some pending => simp only [recorded pending slotted]

end LegacyHci

end BluetoothHci
