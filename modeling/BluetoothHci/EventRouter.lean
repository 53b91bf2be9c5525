import BluetoothHci.HciCmd
import BluetoothHci.LegacyHci

/-!
# Event packets

Both `Hci` classes parse an HCI event packet the same way: an event code, a length byte that
must match the rest of the packet, and the payload. The newer class dispatches on the event
code; a `CommandComplete` or `CommandStatus` with at least four bytes of payload becomes one
result for `HciCmd.onCmdResult`, whatever else is in flight. The older class knows only
`CommandComplete`, hands it to the pending continuation, and reports every malformed packet
as a `parser-error`.
-/

set_option autoImplicit false

namespace BluetoothHci

/-- Modelled from the spec: the `HciEvent` codes of `HciEvent.ts` that `onHciEvent` dispatches
on (§4.4: `DisconnectionComplete` `0x05`, `EncryptionChange` `0x08`, `CommandComplete` `0x0E`,
`CommandStatus` `0x0F`, `NumberOfCompletedPackets` `0x13`, `LeMeta` `0x3E`). -/
def HciEvent.disconnectionComplete : Nat := 0x05

@[inherit_doc HciEvent.disconnectionComplete]
def HciEvent.encryptionChange : Nat := 0x08

@[inherit_doc HciEvent.disconnectionComplete]
def HciEvent.commandComplete : Nat := 0x0E

@[inherit_doc HciEvent.disconnectionComplete]
def HciEvent.commandStatus : Nat := 0x0F

@[inherit_doc HciEvent.disconnectionComplete]
def HciEvent.numberOfCompletedPackets : Nat := 0x13

@[inherit_doc HciEvent.disconnectionComplete]
def HciEvent.leMeta : Nat := 0x3E

/-- Modelled from the spec: the `HciLeEvent` sub-event codes of `HciEvent.ts` that `onLeEvent`
dispatches on (§4.4: `ConnectionComplete` `0x01`, `AdvertisingReport` `0x02`,
`ConnectionUpdateComplete` `0x03`, `ReadRemoteFeaturesComplete` `0x04`,
`EnhancedConnectionComplete` `0x0A`, `ExtendedAdvertisingReport` `0x0D`,
`ChannelSelectionAlgorithm` `0x14`). -/
def HciLeEvent.connectionComplete : Nat := 0x01

@[inherit_doc HciLeEvent.connectionComplete]
def HciLeEvent.advertisingReport : Nat := 0x02

@[inherit_doc HciLeEvent.connectionComplete]
def HciLeEvent.connectionUpdateComplete : Nat := 0x03

@[inherit_doc HciLeEvent.connectionComplete]
def HciLeEvent.readRemoteFeaturesComplete : Nat := 0x04

@[inherit_doc HciLeEvent.connectionComplete]
def HciLeEvent.enhancedConnectionComplete : Nat := 0x0A

@[inherit_doc HciLeEvent.connectionComplete]
def HciLeEvent.extendedAdvertisingReport : Nat := 0x0D

@[inherit_doc HciLeEvent.connectionComplete]
def HciLeEvent.channelSelectionAlgorithm : Nat := 0x14

/-- The sub-events whose payload `onLeEvent` hands to a parser of `HciLeController.ts`, which
is not among the sources. -/
def HciLeEvent.parsed : List Nat :=
  [connectionComplete, advertisingReport, connectionUpdateComplete, readRemoteFeaturesComplete,
    enhancedConnectionComplete, extendedAdvertisingReport]

/-- `payload[index]` of a payload whose length the caller has checked. -/
def byteAt (payload : List UInt8) (index : Nat) : Int := (payload.getD index 0).toNat

namespace Hci

/-- What handling an event does outside the parser: a result handed to
`HciCmd.onCmdResult`, an event emitted to subscribers, or an LE sub-event's payload handed to
its parser. -/
inductive Effect where
  | cmdResult (result : HciCmdResult)
  | disconnectionComplete (status connectionHandle reasonCode : Int)
  | encryptionChange (status connectionHandle encEnabled : Int)
  | leSubevent (eventType : Nat) (payload : List UInt8)
  | leChannelSelectionAlgorithm (connectionHandle algorithm : Int)
  deriving DecidableEq, Repr

/-- The result an effect hands to `HciCmd.onCmdResult`, if it is one. -/
def Effect.cmdResult? : Effect → Option HciCmdResult
  | .cmdResult result => some result
  | .disconnectionComplete .. | .encryptionChange .. | .leSubevent .. | .leChannelSelectionAlgorithm .. => none

/-- A read past the end of the payload throws, and `onData` catches it: no event. -/
def onDisconnectionComplete (payload : List UInt8) : List Effect :=
  if payload.length < 4 then []
  else [.disconnectionComplete (byteAt payload 0) (readUInt16LE payload 1) (byteAt payload 3)]

def onEncryptionChange (payload : List UInt8) : List Effect :=
  if payload.length < 4 then []
  else [.encryptionChange (byteAt payload 0) (readUInt16LE payload 1) (byteAt payload 3)]

def onCommandComplete (payload : List UInt8) : List Effect :=
  if payload.length < 4 then []
  else [.cmdResult ⟨byteAt payload 0, readUInt16LE payload 1, byteAt payload 3, some (payload.drop 4)⟩]

def onCommandStatus (payload : List UInt8) : List Effect :=
  if payload.length < 4 then []
  else [.cmdResult ⟨byteAt payload 1, readUInt16LE payload 2, byteAt payload 0, none⟩]

def onLeChannelSelectionAlgorithm (data : List UInt8) : List Effect :=
  if data.length < 3 then [] else [.leChannelSelectionAlgorithm (readUInt16LE data 0) (byteAt data 2)]

/-- `onLeEvent(data)`: the sub-event code, then its handler on the rest; an empty packet or an
unknown code is only logged. -/
def onLeEvent : List UInt8 → List Effect
  | eventType :: payload =>
    if eventType.toNat ∈ HciLeEvent.parsed then [.leSubevent eventType.toNat payload]
    else if eventType.toNat = HciLeEvent.channelSelectionAlgorithm then onLeChannelSelectionAlgorithm payload
    else []
  | [] => []

/-- `onHciEvent(data)`; `onNumberOfCompletedPackets` only logs. -/
def onHciEvent : List UInt8 → List Effect
  | eventCode :: payloadLength :: payload =>
    if payloadLength.toNat ≠ payload.length then []
    else if eventCode.toNat = HciEvent.disconnectionComplete then onDisconnectionComplete payload
    else if eventCode.toNat = HciEvent.encryptionChange then onEncryptionChange payload
    else if eventCode.toNat = HciEvent.commandComplete then onCommandComplete payload
    else if eventCode.toNat = HciEvent.commandStatus then onCommandStatus payload
    else if eventCode.toNat = HciEvent.numberOfCompletedPackets then []
    else if eventCode.toNat = HciEvent.leMeta then onLeEvent payload
    else []
  | _ => []

/-- `onData(packetType, data)`: only event packets are handled. -/
def onData (packetType : HciPacketType) (data : List UInt8) : List Effect :=
  match packetType with
  | .hciEvent => onHciEvent data
  | _ => []

/-- The command dispatcher after the packet: each result handed to `onCmdResult` in turn. -/
def receive (s : HciCmd) (packetType : HciPacketType) (data : List UInt8) : HciCmd :=
  ((onData packetType data).filterMap Effect.cmdResult?).foldl HciCmd.onCmdResult s

end Hci

namespace LegacyHci

/-- What the older `onData` does: emit a `parser-error` with its text, or hand a
`CommandComplete` to the pending continuation. -/
inductive DataEffect where
  | parserError (message : String)
  | cmdComplete (evt : HciEvtCmdComplete)
  deriving DecidableEq, Repr

/-- `onData(data)` of the older `Hci`. -/
def onData : List UInt8 → List DataEffect
  | eventCode :: payloadLength :: payload =>
    if payloadLength.toNat ≠ payload.length then
      [.parserError ("(evt) invalid payload size: " ++ toString payloadLength.toNat ++ "/" ++
        toString payload.length)]
    else if eventCode.toNat = HciEvent.commandComplete then
      if payload.length < 4 then
        [.parserError ("(evt-cmd_complete) invalid payload size: " ++ toString payload.length)]
      else [.cmdComplete ⟨byteAt payload 0, readUInt16LE payload 1, byteAt payload 3, payload.drop 4⟩]
    else []
  | _ => []

/-- The `CommandComplete` an effect hands on, if it is one. -/
def DataEffect.cmdComplete? : DataEffect → Option HciEvtCmdComplete
  | .cmdComplete evt => some evt
  | .parserError _ => none

/-- The older `Hci` after the packet: `if (this.onCmdComplete) this.onCmdComplete(evt)`. -/
def receive (h : LegacyHci) (data : List UInt8) : LegacyHci :=
  ((onData data).filterMap DataEffect.cmdComplete?).foldl onCmdComplete h

end LegacyHci

/-- The record both classes build from a `CommandComplete`, as the newer class types it. -/
def HciEvtCmdComplete.toResult (evt : HciEvtCmdComplete) : HciCmdResult :=
  ⟨evt.numHciPackets, evt.opcode, evt.status, some evt.returnParameters⟩

/-- An event packet with code `code` that a dispatcher takes a command result from, in the
words of the spec: at least two bytes, `data[1]` equal to `data.length - 2`, and at least four
bytes of payload. -/
def IsCommandEvent (code : Nat) (data : List UInt8) : Prop :=
  2 ≤ data.length ∧ data[1]?.map UInt8.toNat = some (data.length - 2) ∧
    data[0]?.map UInt8.toNat = some code ∧ 4 ≤ data.length - 2

instance (code : Nat) (data : List UInt8) : Decidable (IsCommandEvent code data) :=
  inferInstanceAs (Decidable (_ ∧ _))

/-! ## Which packets carry a command result -/

@[simp] theorem isCommandEvent_cons_cons (code : Nat) (eventCode payloadLength : UInt8)
    (payload : List UInt8) :
    IsCommandEvent code (eventCode :: payloadLength :: payload) ↔
      payloadLength.toNat = payload.length ∧ eventCode.toNat = code ∧ 4 ≤ payload.length := by
  simp only [IsCommandEvent, List.length_cons, List.getElem?_cons_succ, List.getElem?_cons_zero,
    Option.map_some', Option.some.injEq, Nat.add_sub_cancel]
  omega

private theorem isCommandEvent_short (code : Nat) {data : List UInt8} (short : data.length < 2) :
    ¬ IsCommandEvent code data := fun event => by have := event.1; omega

/-- An LE meta event carries no command result. -/
@[simp] theorem Hci.cmdResults_onLeEvent (data : List UInt8) :
    (Hci.onLeEvent data).filterMap Hci.Effect.cmdResult? = [] := by
  unfold Hci.onLeEvent Hci.onLeChannelSelectionAlgorithm
  split
  · split_ifs <;> rfl
  · rfl

/-- The newer `Hci` hands `onCmdResult` one result for a `CommandComplete` or `CommandStatus`
packet and none for any other packet. -/
theorem Hci.cmdResults_onData (data : List UInt8) :
    (Hci.onData .hciEvent data).filterMap Hci.Effect.cmdResult? =
      if IsCommandEvent HciEvent.commandComplete data then
        [⟨byteAt (data.drop 2) 0, readUInt16LE (data.drop 2) 1, byteAt (data.drop 2) 3,
          some ((data.drop 2).drop 4)⟩]
      else if IsCommandEvent HciEvent.commandStatus data then
        [⟨byteAt (data.drop 2) 1, readUInt16LE (data.drop 2) 2, byteAt (data.drop 2) 0, none⟩]
      else [] := by
  match data with
  | [] | [_] => simp [isCommandEvent_short, Hci.onData, Hci.onHciEvent]
  | eventCode :: payloadLength :: payload =>
      simp only [Hci.onData, Hci.onHciEvent, isCommandEvent_cons_cons, List.drop_succ_cons,
        List.drop_zero]
      by_cases framed : payloadLength.toNat = payload.length
      · by_cases short : payload.length < 4 <;>
          simp only [framed, short, show (4 ≤ payload.length) = ¬ payload.length < 4 from
            propext Nat.not_lt.symm, ne_eq, not_true_eq_false, not_false_eq_true, if_false, true_and,
            and_true, and_false, HciEvent.disconnectionComplete, HciEvent.encryptionChange,
            HciEvent.commandComplete, HciEvent.commandStatus, HciEvent.numberOfCompletedPackets,
            HciEvent.leMeta, Hci.onDisconnectionComplete, Hci.onEncryptionChange,
            Hci.onCommandComplete, Hci.onCommandStatus] <;>
          split_ifs <;> simp_all [Hci.Effect.cmdResult?]
      · simp [framed]

private theorem LegacyHci.cmdCompletes_onData (data : List UInt8) :
    (LegacyHci.onData data).filterMap LegacyHci.DataEffect.cmdComplete? =
      if IsCommandEvent HciEvent.commandComplete data then
        [⟨byteAt (data.drop 2) 0, readUInt16LE (data.drop 2) 1, byteAt (data.drop 2) 3,
          (data.drop 2).drop 4⟩]
      else [] := by
  match data with
  | [] | [_] => simp [isCommandEvent_short, LegacyHci.onData]
  | eventCode :: payloadLength :: payload =>
      simp only [LegacyHci.onData, isCommandEvent_cons_cons, List.drop_succ_cons, List.drop_zero]
      by_cases framed : payloadLength.toNat = payload.length
      · by_cases short : payload.length < 4 <;>
          simp only [framed, short, show (4 ≤ payload.length) = ¬ payload.length < 4 from
            propext Nat.not_lt.symm, ne_eq, not_true_eq_false, not_false_eq_true, if_false, true_and,
            and_true, and_false, HciEvent.commandComplete] <;>
          split_ifs <;> simp_all [LegacyHci.DataEffect.cmdComplete?]
      · simp [framed, LegacyHci.DataEffect.cmdComplete?]

private theorem not_isCommandEvent_both {data : List UInt8} (status : IsCommandEvent HciEvent.commandStatus data) :
    ¬ IsCommandEvent HciEvent.commandComplete data := fun complete => by
  have := complete.2.2.1.symm.trans status.2.2.1
  simp [HciEvent.commandComplete, HciEvent.commandStatus] at this

/-- For every event packet the newer `Hci` calls `onCmdResult` at most once: exactly for a
`CommandComplete` or `CommandStatus` whose length byte matches and whose payload has four bytes,
with the record read from the payload. For such a `CommandComplete` the older `Hci` hands its
continuation the same record, and for any other packet none. -/
theorem onData_forwards_command_results :
    (∀ data, ((Hci.onData .hciEvent data).filterMap Hci.Effect.cmdResult?).length ≤ 1) ∧
    (∀ data, (Hci.onData .hciEvent data).filterMap Hci.Effect.cmdResult? ≠ [] ↔
      IsCommandEvent HciEvent.commandComplete data ∨ IsCommandEvent HciEvent.commandStatus data) ∧
    (∀ data, IsCommandEvent HciEvent.commandComplete data →
      (Hci.onData .hciEvent data).filterMap Hci.Effect.cmdResult? =
        [⟨byteAt (data.drop 2) 0, readUInt16LE (data.drop 2) 1, byteAt (data.drop 2) 3,
          some ((data.drop 2).drop 4)⟩]) ∧
    (∀ data, IsCommandEvent HciEvent.commandStatus data →
      (Hci.onData .hciEvent data).filterMap Hci.Effect.cmdResult? =
        [⟨byteAt (data.drop 2) 1, readUInt16LE (data.drop 2) 2, byteAt (data.drop 2) 0, none⟩]) ∧
    (∀ data, IsCommandEvent HciEvent.commandComplete data →
      ((LegacyHci.onData data).filterMap LegacyHci.DataEffect.cmdComplete?).map
        HciEvtCmdComplete.toResult = (Hci.onData .hciEvent data).filterMap Hci.Effect.cmdResult?) ∧
    (∀ data, ¬ IsCommandEvent HciEvent.commandComplete data →
      (LegacyHci.onData data).filterMap LegacyHci.DataEffect.cmdComplete? = []) := by
  refine ⟨fun data => ?_, fun data => ?_, fun data complete => ?_, fun data status => ?_,
    fun data complete => ?_, fun data other => ?_⟩
  · rw [Hci.cmdResults_onData]; split_ifs <;> simp
  · rw [Hci.cmdResults_onData]
    split_ifs <;> simp [*]
  · rw [Hci.cmdResults_onData, if_pos complete]
  · rw [Hci.cmdResults_onData, if_neg (not_isCommandEvent_both status), if_pos status]
  · rw [Hci.cmdResults_onData, LegacyHci.cmdCompletes_onData, if_pos complete, if_pos complete]; rfl
  · rw [LegacyHci.cmdCompletes_onData, if_neg other]

end BluetoothHci
