import BluetoothHci.Dispatcher.Invariant

/-!
# `HciCmd`

The newer dispatcher. Its continuation closes over the call's command: a result for another
opcode is ignored, and so is one for a call registered with a connection handle unless its
return parameters start with that handle. A result it keeps resolves the call when the
status is `Success` and rejects it with the controller error otherwise.
-/

set_option autoImplicit false

namespace BluetoothHci

/-- `HciCmdResult`: a `CommandComplete` or `CommandStatus` as `Hci` forwards it; a
`CommandStatus` carries no return parameters. -/
structure HciCmdResult where
  numHciPackets : Int
  opcode : Int
  status : Int
  returnParameters : Option (List UInt8)
  deriving DecidableEq, Repr

/-- The `HciCmd` dispatcher: its continuation captures the call's command, it hands
`(HciPacketType.HciCommand, packet)` to `send`, and it resolves with the completion. -/
abbrev HciCmd := Dispatcher Command (HciPacketType × Buffer) HciCmdResult

/-- `complete(makeHciError(evt.status))` unless the status is `Success`, then
`complete(undefined, evt)`. -/
def statusOutcome (evt : HciCmdResult) : Outcome HciCmdResult :=
  if evt.status ≠ HciErrorCode.success then .rejected (.controller evt.status) else .resolved evt

/-- The continuation `sendWaitResult` puts in the slot for `cmd`, run on a delivered `evt`:
`none` where it returns, the outcome it completes the call with otherwise. -/
def onResultOf (cmd : Command) (evt : HciCmdResult) : Option (Outcome HciCmdResult) :=
  if cmd.opcode ≠ evt.opcode then none
  else
    match cmd.connHandle with
    | none => some (statusOutcome evt)
    | some connHandle =>
      match evt.returnParameters with
      | none => none
      | some returnParameters =>
        if returnParameters.length < 2 then none
        else if connHandle ≠ readUInt16LE returnParameters 0 then none
        else some (statusOutcome evt)

namespace HciCmd

/-- `sendWaitResult(cmd)`. -/
def sendWaitResult (s : HciCmd) (cmd : Command) : HciCmd :=
  Dispatcher.sendWaitResult s cmd ((buildCommand cmd).map fun packet => (.hciCommand, packet))

/-- `onCmdResult(result)`: the pending continuation, if any, runs on the result. -/
def onCmdResult (s : HciCmd) (result : HciCmdResult) : HciCmd :=
  Dispatcher.deliver s fun pending => onResultOf pending.captured result

/-- A command of one group: `controlAndBaseband`, `informationParameters`,
`statusParameters` and `lowEnergy` differ only in the group. -/
def sendGroupCommand (ogf : HciOgf) (s : HciCmd) (ocf : Int) (connHandle : Option Int)
    (payload : Option Buffer) : HciCmd :=
  s.sendWaitResult ⟨HciOpcode.build ⟨ogf.toInt, ocf⟩, connHandle, payload⟩

def controlAndBaseband : HciCmd → Int → Option Int → Option Buffer → HciCmd :=
  sendGroupCommand .controlAndBasebandCommands

def informationParameters : HciCmd → Int → Option Int → Option Buffer → HciCmd :=
  sendGroupCommand .informationParameters

def statusParameters : HciCmd → Int → Option Int → Option Buffer → HciCmd :=
  sendGroupCommand .statusParameters

def lowEnergy : HciCmd → Int → Option Int → Option Buffer → HciCmd :=
  sendGroupCommand .leControllerCommands

/-- What can happen to an `HciCmd`: a command submitted (through any of the four group
methods), a result delivered to `onCmdResult` (also from inside `send`), a timer firing, or
the innermost `send` returning or throwing. -/
inductive Input where
  | submit (cmd : Command)
  | result (evt : HciCmdResult)
  | expire (call : Nat)
  | sendReturns
  | sendThrows
  deriving DecidableEq, Repr

def step (s : HciCmd) : Input → HciCmd
  | .submit cmd => s.sendWaitResult cmd
  | .result evt => s.onCmdResult evt
  | .expire call => Dispatcher.expire s call
  | .sendReturns => Dispatcher.sendReturns s
  | .sendThrows => Dispatcher.sendThrows s

def run (s : HciCmd) (inputs : List Input) : HciCmd := inputs.foldl step s

theorem step_move (s : HciCmd) (input : Input) : Dispatcher.Move s (s.step input) := by
  cases input with
  | submit cmd => exact .submit s cmd _
  | result evt => exact .deliver s _
  | expire call => exact .expire s call
  | sendReturns => exact .sendReturns s
  | sendThrows => exact .sendThrows s

theorem run_moves (s : HciCmd) (inputs : List Input) : Relation.ReflTransGen Dispatcher.Move s (run s inputs) := by
  induction inputs generalizing s with
  | nil => exact .refl
  | cons input rest ih => exact .head (step_move s input) (ih _)

theorem run_reachable {s : HciCmd} (reachable : s.Reachable) (inputs : List Input) :
    (run s inputs).Reachable :=
  reachable.trans (run_moves s inputs)

/-! ## Which results complete a call -/

/-- The results a call for `cmd` waits for (§4.3 of the spec): its opcode, and when it is
registered with a connection handle, return parameters that start with that handle. -/
def accepts (cmd : Command) (evt : HciCmdResult) : Bool :=
  evt.opcode == cmd.opcode &&
    match cmd.connHandle, evt.returnParameters with
    | none, _ => true
    | some connHandle, some returnParameters =>
        2 ≤ returnParameters.length && readUInt16LE returnParameters 0 == connHandle
    | some _, none => false

private theorem onResultOf_eq (cmd : Command) (evt : HciCmdResult) :
    onResultOf cmd evt = if accepts cmd evt then some (statusOutcome evt) else none := by
  unfold onResultOf accepts
  by_cases sameOpcode : cmd.opcode = evt.opcode
  · rcases registered : cmd.connHandle with _ | handle
    · simp [sameOpcode, registered]
    · rcases parameters : evt.returnParameters with _ | returnParameters
      · simp [sameOpcode, registered, parameters]
      · by_cases short : returnParameters.length < 2
        · simp [sameOpcode, registered, parameters, short, show ¬ 2 ≤ returnParameters.length by omega]
        · by_cases sameHandle : handle = readUInt16LE returnParameters 0
          · simp [sameOpcode, registered, parameters, short, sameHandle]; omega
          · simp [sameOpcode, registered, parameters, short, sameHandle, Ne.symm sameHandle]
  · simp [sameOpcode, Ne.symm sameOpcode]

theorem onCmdResult_of_accepts {s : HciCmd} {pending : Pending Command}
    (pendingSlot : s.slot = some pending) {evt : HciCmdResult}
    (accepted : accepts pending.captured evt) :
    s.onCmdResult evt = Dispatcher.complete s pending.call (statusOutcome evt) := by
  simp [onCmdResult, Dispatcher.deliver, pendingSlot, onResultOf_eq, accepted]

private theorem onCmdResult_of_not_accepts {s : HciCmd} {pending : Pending Command}
    (pendingSlot : s.slot = some pending) {evt : HciCmdResult}
    (ignored : accepts pending.captured evt = false) : s.onCmdResult evt = s := by
  simp [onCmdResult, Dispatcher.deliver, pendingSlot, onResultOf_eq, ignored]

private theorem foldl_onCmdResult_idle {s : HciCmd} (idle : s.slot = none) (results : List HciCmdResult) :
    results.foldl onCmdResult s = s := by
  induction results with
  | nil => rfl
  | cons evt rest ih =>
      rw [List.foldl_cons, show s.onCmdResult evt = s by simp [onCmdResult, Dispatcher.deliver, idle], ih]

private theorem statusOutcome_eq (evt : HciCmdResult) :
    statusOutcome evt = if evt.status = 0 then .resolved evt else .rejected (.controller evt.status) := by
  by_cases success : evt.status = 0 <;> simp [statusOutcome, HciErrorCode.success, success]

/-- The pending call is completed by the first result it accepts. -/
theorem foldl_onCmdResult_find {s : HciCmd} {pending : Pending Command} (pendingSlot : s.slot = some pending)
    (results : List HciCmdResult) :
    results.foldl onCmdResult s =
      match results.find? (accepts pending.captured) with
      | none => s
      | some evt => Dispatcher.complete s pending.call (statusOutcome evt) := by
  induction results with
  | nil => rfl
  | cons evt rest ih =>
      rw [List.foldl_cons, List.find?_cons]
      cases accepted : accepts pending.captured evt with
      | false => rw [onCmdResult_of_not_accepts pendingSlot accepted, ih]
      | true => rw [onCmdResult_of_accepts pendingSlot accepted, foldl_onCmdResult_idle rfl]

/-- Over any sequence of results, the pending call is completed by the first result it
accepts, with the outcome its status gives, and every other result leaves the dispatcher
as it is. -/
theorem settles_on_first_accepted {s : HciCmd} {pending : Pending Command}
    (pendingSlot : s.slot = some pending) (results : List HciCmdResult) :
    results.foldl onCmdResult s =
      match results.find? (accepts pending.captured) with
      | none => s
      | some evt => Dispatcher.complete s pending.call
          (if evt.status = 0 then .resolved evt else .rejected (.controller evt.status)) := by
  simp only [foldl_onCmdResult_find pendingSlot, statusOutcome_eq]

/-- A Reset pending on an otherwise idle dispatcher is completed by its `CommandComplete`. -/
theorem settles_on_first_accepted_reset :
    let s := HciCmd.run Dispatcher.initial [.submit ⟨0x0C03, none, none⟩]
    s.slot = some ⟨0, ⟨0x0C03, none, none⟩⟩ ∧
      [⟨1, 0x0C03, 0, some []⟩].foldl onCmdResult s =
        Dispatcher.complete s 0 (.resolved ⟨1, 0x0C03, 0, some []⟩) :=
  ⟨rfl, settles_on_first_accepted rfl _⟩

/-- A result for the pending opcode completes a call without a connection handle, or one whose
handle the return parameters start with. For a call registered with a handle, a result with
fewer than two bytes of return parameters (every `CommandStatus`) is dropped and the call stays
pending: in a reachable state with no `send` running, after it and any results the call does
not accept, the call's timer fires and rejects it with `Timeout`. -/
theorem onCmdResult_same_opcode {s : HciCmd} {pending : Pending Command}
    (pendingSlot : s.slot = some pending) {evt : HciCmdResult}
    (sameOpcode : evt.opcode = pending.captured.opcode) :
    ((pending.captured.connHandle = none ∨ ∃ connHandle returnParameters,
        pending.captured.connHandle = some connHandle ∧ evt.returnParameters = some returnParameters ∧
        2 ≤ returnParameters.length ∧ readUInt16LE returnParameters 0 = connHandle) →
      s.onCmdResult evt = Dispatcher.complete s pending.call
        (if evt.status = 0 then .resolved evt else .rejected (.controller evt.status))) ∧
    (∀ connHandle, pending.captured.connHandle = some connHandle →
      (∀ returnParameters, evt.returnParameters = some returnParameters → returnParameters.length < 2) →
      s.onCmdResult evt = s ∧
        (s.Reachable → s.sending = [] → s.outcome pending.call = none →
          ∀ later : List HciCmdResult, (∀ result ∈ later, accepts pending.captured result = false) →
            (Dispatcher.expire ((evt :: later).foldl onCmdResult s) pending.call).outcome pending.call =
              some (.rejected (.parser .timeout)))) := by
  refine ⟨fun matching => ?_, fun connHandle registered short => ?_⟩
  · rw [onCmdResult_of_accepts pendingSlot, statusOutcome_eq]
    rcases matching with unregistered | ⟨connHandle, returnParameters, registered, parameters, long, same⟩
    · simp [accepts, sameOpcode, unregistered]
    · simp [accepts, sameOpcode, registered, parameters, long, same]
  · have dropped : s.onCmdResult evt = s := by
      refine onCmdResult_of_not_accepts pendingSlot ?_
      cases parameters : evt.returnParameters with
      | none => simp [accepts, registered, parameters]
      | some returnParameters =>
          have := short returnParameters parameters
          simp [accepts, registered, parameters]; omega
    refine ⟨dropped, fun reachable returned unsettled later ignored => ?_⟩
    have unchanged : (evt :: later).foldl onCmdResult s = s := by
      rw [List.foldl_cons, dropped, foldl_onCmdResult_find pendingSlot,
        List.find?_eq_none.mpr fun result member => by simp [ignored result member]]
    rw [unchanged, (reachable.invariant.expire_pending pendingSlot returned).2.2, unsettled]
    rfl

/-- A Reset is resolved by its successful `CommandComplete`; LE Enable Encryption on handle
`0x0040` ignores its `CommandStatus` and a `CommandComplete` for Reset, and times out. -/
theorem onCmdResult_same_opcode_reset :
    (HciCmd.run Dispatcher.initial [.submit ⟨0x0C03, none, none⟩]).onCmdResult ⟨1, 0x0C03, 0, some []⟩ =
        Dispatcher.complete (HciCmd.run Dispatcher.initial [.submit ⟨0x0C03, none, none⟩]) 0
          (.resolved ⟨1, 0x0C03, 0, some []⟩) ∧
      (Dispatcher.expire ([⟨1, 0x2019, 0x0C, none⟩, ⟨1, 0x0C03, 0, some []⟩].foldl onCmdResult
          (HciCmd.run Dispatcher.initial [.submit ⟨0x2019, some 0x0040, none⟩, .sendReturns])) 0).outcome 0 =
        some (.rejected (.parser .timeout)) :=
  ⟨(@onCmdResult_same_opcode (HciCmd.run Dispatcher.initial [.submit ⟨0x0C03, none, none⟩])
      ⟨0, ⟨0x0C03, none, none⟩⟩ rfl ⟨1, 0x0C03, 0, some []⟩ rfl).1 (.inl rfl),
    ((@onCmdResult_same_opcode (HciCmd.run Dispatcher.initial [.submit ⟨0x2019, some 0x0040, none⟩, .sendReturns])
      ⟨0, ⟨0x2019, some 0x0040, none⟩⟩ rfl ⟨1, 0x2019, 0x0C, none⟩ rfl).2 0x0040 rfl nofun).2
      (run_reachable .refl _) rfl rfl [⟨1, 0x0C03, 0, some []⟩] (by decide)⟩

/-- A call registered with a connection handle, here LE Enable Encryption on handle `0x0040`,
stays pending when its `CommandStatus` arrives with an error, and ends in `Timeout`. -/
theorem commandStatus_dropped_for_handle :
    let s := HciCmd.run Dispatcher.initial [.submit ⟨0x2019, some 0x0040, none⟩, .sendReturns]
    s.onCmdResult ⟨1, 0x2019, 0x0C, none⟩ = s ∧
      (Dispatcher.expire (s.onCmdResult ⟨1, 0x2019, 0x0C, none⟩) 0).outcome 0 =
        some (.rejected (.parser .timeout)) :=
  have dropped := @onCmdResult_of_not_accepts
    (HciCmd.run Dispatcher.initial [.submit ⟨0x2019, some 0x0040, none⟩, .sendReturns])
    ⟨0, ⟨0x2019, some 0x0040, none⟩⟩ rfl ⟨1, 0x2019, 0x0C, none⟩ (by decide)
  ⟨dropped, by rw [dropped]; rfl⟩

end HciCmd

end BluetoothHci
