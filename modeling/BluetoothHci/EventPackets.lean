import BluetoothHci.EventRouter

/-!
# Event packets from the controller

The spec lays out the events the router parses (§4.4, §6): the event code, the length byte,
then the payload, whose multi-byte fields are little-endian. Here a controller's packets are
built from their field values in that layout, and both `Hci` classes are shown to read every
field back from where the spec puts it: parsing undoes the controller's encoding.
-/

set_option autoImplicit false

namespace BluetoothHci

/-- An event packet as the controller sends it (§6 of the spec): the event code, the payload
length, then the payload. -/
def eventPacket (code : Nat) (payload : List UInt8) : List UInt8 :=
  UInt8.ofNat code :: UInt8.ofNat payload.length :: payload

namespace ControllerEvent

/-- `DisconnectionComplete` (§4.4): `[status_u8, handle_u16, reason_u8]`. -/
def disconnectionComplete (status connectionHandle reason : Nat) : List UInt8 :=
  eventPacket HciEvent.disconnectionComplete (leBytes 1 status ++ leBytes 2 connectionHandle ++ leBytes 1 reason)

/-- `EncryptionChange` (§4.4): `[status, handle_u16, enabled_u8]`. -/
def encryptionChange (status connectionHandle enabled : Nat) : List UInt8 :=
  eventPacket HciEvent.encryptionChange (leBytes 1 status ++ leBytes 2 connectionHandle ++ leBytes 1 enabled)

/-- `CommandComplete` (§4.4): `[num_packets_u8, opcode_u16, status_u8, return_parameters…]`. -/
def commandComplete (numPackets opcode status : Nat) (returnParameters : List UInt8) : List UInt8 :=
  eventPacket HciEvent.commandComplete
    (leBytes 1 numPackets ++ leBytes 2 opcode ++ leBytes 1 status ++ returnParameters)

/-- `CommandStatus` (§4.4): `[status_u8, num_packets_u8, opcode_u16]`. -/
def commandStatus (status numPackets opcode : Nat) : List UInt8 :=
  eventPacket HciEvent.commandStatus (leBytes 1 status ++ leBytes 1 numPackets ++ leBytes 2 opcode)

/-- `LeMeta` (§4.4): the sub-event code, then its parameters. -/
def leMeta (subevent : Nat) (parameters : List UInt8) : List UInt8 :=
  eventPacket HciEvent.leMeta (leBytes 1 subevent ++ parameters)

end ControllerEvent

/-! ## Reading the fields back -/

private theorem eventPacket_eq {code : Nat} {payload : List UInt8} (codeSmall : code < 2 ^ 8)
    (short : payload.length < 2 ^ 8) :
    ∃ eventCode payloadLength, eventPacket code payload = eventCode :: payloadLength :: payload ∧
      eventCode.toNat = code ∧ payloadLength.toNat = payload.length :=
  ⟨_, _, rfl, by simp only [toNat_uint8_ofNat]; omega, by simp only [toNat_uint8_ofNat]; omega⟩

private theorem fields_u8_u16_u8 {first second third : Nat} (rest : List UInt8) (firstSmall : first < 2 ^ 8)
    (secondSmall : second < 2 ^ 16) (thirdSmall : third < 2 ^ 8) :
    let payload := leBytes 1 first ++ leBytes 2 second ++ leBytes 1 third ++ rest
    byteAt payload 0 = first ∧ readUInt16LE payload 1 = second ∧ byteAt payload 3 = third ∧
      payload.drop 4 = rest ∧ payload.length = 4 + rest.length := by
  simp only [leBytes, byteAt, readUInt16LE, readLE, List.cons_append, List.nil_append, List.getD_cons_zero,
    List.getD_cons_succ, List.drop_succ_cons, List.drop_zero, List.take_succ_cons, List.take_zero,
    List.length_cons, toNat_uint8_ofNat, Nat.cast_inj, true_and]
  omega

private theorem fields_u8_u8_u16 {first second third : Nat} (firstSmall : first < 2 ^ 8)
    (secondSmall : second < 2 ^ 8) (thirdSmall : third < 2 ^ 16) :
    let payload := leBytes 1 first ++ leBytes 1 second ++ leBytes 2 third
    byteAt payload 0 = first ∧ byteAt payload 1 = second ∧ readUInt16LE payload 2 = third ∧
      payload.length = 4 := by
  simp only [leBytes, byteAt, readUInt16LE, readLE, List.cons_append, List.nil_append, List.getD_cons_zero,
    List.getD_cons_succ, List.drop_succ_cons, List.drop_zero, List.take_succ_cons, List.take_zero,
    List.length_cons, List.length_nil, toNat_uint8_ofNat, Nat.cast_inj, and_true]
  omega

private theorem fields_u16_u8 {first second : Nat} (firstSmall : first < 2 ^ 16) (secondSmall : second < 2 ^ 8) :
    let payload := leBytes 2 first ++ leBytes 1 second
    readUInt16LE payload 0 = first ∧ byteAt payload 2 = second ∧ payload.length = 3 := by
  simp only [leBytes, byteAt, readUInt16LE, readLE, List.cons_append, List.nil_append, List.getD_cons_zero,
    List.getD_cons_succ, List.drop_zero, List.take_succ_cons, List.take_zero, List.length_cons,
    List.length_nil, toNat_uint8_ofNat, Nat.cast_inj, and_true]
  omega

/-! ## Each event -/

open ControllerEvent

private theorem onData_disconnectionComplete {status connectionHandle reason : Nat} (statusSmall : status < 2 ^ 8)
    (handleSmall : connectionHandle < 2 ^ 16) (reasonSmall : reason < 2 ^ 8) :
    Hci.onData .hciEvent (disconnectionComplete status connectionHandle reason) =
      [.disconnectionComplete status connectionHandle reason] := by
  obtain ⟨first, second, third, -, length⟩ := fields_u8_u16_u8 [] statusSmall handleSmall reasonSmall
  simp only [List.append_nil, List.length_nil] at first second third length
  obtain ⟨eventCode, payloadLength, packet, code, lengthByte⟩ := @eventPacket_eq HciEvent.disconnectionComplete
    (leBytes 1 status ++ leBytes 2 connectionHandle ++ leBytes 1 reason) (by decide) (by omega)
  rw [disconnectionComplete, packet]
  simp only [Hci.onData, Hci.onHciEvent, code, lengthByte, Hci.onDisconnectionComplete, length, first, second,
    third]
  simp

private theorem onData_encryptionChange {status connectionHandle enabled : Nat} (statusSmall : status < 2 ^ 8)
    (handleSmall : connectionHandle < 2 ^ 16) (enabledSmall : enabled < 2 ^ 8) :
    Hci.onData .hciEvent (encryptionChange status connectionHandle enabled) =
      [.encryptionChange status connectionHandle enabled] := by
  obtain ⟨first, second, third, -, length⟩ := fields_u8_u16_u8 [] statusSmall handleSmall enabledSmall
  simp only [List.append_nil, List.length_nil] at first second third length
  obtain ⟨eventCode, payloadLength, packet, code, lengthByte⟩ := @eventPacket_eq HciEvent.encryptionChange
    (leBytes 1 status ++ leBytes 2 connectionHandle ++ leBytes 1 enabled) (by decide) (by omega)
  rw [encryptionChange, packet]
  simp only [Hci.onData, Hci.onHciEvent, code, lengthByte, Hci.onEncryptionChange, length, first, second, third]
  simp [HciEvent.encryptionChange, HciEvent.disconnectionComplete]

private theorem onData_commandComplete {numPackets opcode status : Nat} {returnParameters : List UInt8}
    (numPacketsSmall : numPackets < 2 ^ 8) (opcodeSmall : opcode < 2 ^ 16) (statusSmall : status < 2 ^ 8)
    (short : returnParameters.length < 2 ^ 8 - 4) :
    Hci.onData .hciEvent (commandComplete numPackets opcode status returnParameters) =
        [.cmdResult ⟨numPackets, opcode, status, some returnParameters⟩] ∧
      LegacyHci.onData (commandComplete numPackets opcode status returnParameters) =
        [.cmdComplete ⟨numPackets, opcode, status, returnParameters⟩] := by
  obtain ⟨first, second, third, rest, length⟩ :=
    fields_u8_u16_u8 returnParameters numPacketsSmall opcodeSmall statusSmall
  obtain ⟨eventCode, payloadLength, packet, code, lengthByte⟩ := @eventPacket_eq HciEvent.commandComplete
    (leBytes 1 numPackets ++ leBytes 2 opcode ++ leBytes 1 status ++ returnParameters) (by decide) (by omega)
  rw [commandComplete, packet]
  simp only [Hci.onData, Hci.onHciEvent, LegacyHci.onData, code, lengthByte, Hci.onCommandComplete, length,
    first, second, third, rest]
  simp [HciEvent.commandComplete, HciEvent.encryptionChange, HciEvent.disconnectionComplete]

theorem LegacyHci.receive_commandComplete (h : LegacyHci) {numPackets opcode status : Nat}
    {returnParameters : List UInt8} (numPacketsSmall : numPackets < 2 ^ 8) (opcodeSmall : opcode < 2 ^ 16)
    (statusSmall : status < 2 ^ 8) (short : returnParameters.length < 2 ^ 8 - 4) :
    LegacyHci.receive h (commandComplete numPackets opcode status returnParameters) =
      h.onCmdComplete ⟨numPackets, opcode, status, returnParameters⟩ := by
  rw [LegacyHci.receive, (onData_commandComplete numPacketsSmall opcodeSmall statusSmall short).2]
  rfl

private theorem onData_commandStatus {status numPackets opcode : Nat} (statusSmall : status < 2 ^ 8)
    (numPacketsSmall : numPackets < 2 ^ 8) (opcodeSmall : opcode < 2 ^ 16) :
    Hci.onData .hciEvent (commandStatus status numPackets opcode) =
      [.cmdResult ⟨numPackets, opcode, status, none⟩] := by
  obtain ⟨first, second, third, length⟩ := fields_u8_u8_u16 statusSmall numPacketsSmall opcodeSmall
  obtain ⟨eventCode, payloadLength, packet, code, lengthByte⟩ := @eventPacket_eq HciEvent.commandStatus
    (leBytes 1 status ++ leBytes 1 numPackets ++ leBytes 2 opcode) (by decide) (by omega)
  rw [commandStatus, packet]
  simp only [Hci.onData, Hci.onHciEvent, code, lengthByte, Hci.onCommandStatus, length, first, second, third]
  simp [HciEvent.commandStatus, HciEvent.commandComplete, HciEvent.encryptionChange,
    HciEvent.disconnectionComplete]

private theorem onData_leMeta {subevent : Nat} (parsed : subevent ∈ HciLeEvent.parsed) {parameters : List UInt8}
    (short : parameters.length < 2 ^ 8 - 1) :
    Hci.onData .hciEvent (leMeta subevent parameters) = [.leSubevent subevent parameters] := by
  have small : subevent < 256 := by
    simp only [HciLeEvent.parsed, List.mem_cons, List.mem_singleton, List.not_mem_nil, or_false] at parsed
    rcases parsed with rfl | rfl | rfl | rfl | rfl | rfl <;> decide
  obtain ⟨eventCode, payloadLength, packet, code, lengthByte⟩ :=
    @eventPacket_eq HciEvent.leMeta (leBytes 1 subevent ++ parameters) (by decide) (by simp; omega)
  rw [leMeta, packet]
  simp only [Hci.onData, Hci.onHciEvent, code, lengthByte, Hci.onLeEvent, leBytes, List.cons_append,
    List.nil_append, toNat_uint8_ofNat, Nat.mod_eq_of_lt small, parsed, ↓reduceIte]
  simp [HciEvent.leMeta, HciEvent.numberOfCompletedPackets, HciEvent.commandStatus, HciEvent.commandComplete,
    HciEvent.encryptionChange, HciEvent.disconnectionComplete]

private theorem onData_leChannelSelectionAlgorithm {connectionHandle algorithm : Nat}
    (handleSmall : connectionHandle < 2 ^ 16) (algorithmSmall : algorithm < 2 ^ 8) :
    Hci.onData .hciEvent (leMeta HciLeEvent.channelSelectionAlgorithm
        (leBytes 2 connectionHandle ++ leBytes 1 algorithm)) =
      [.leChannelSelectionAlgorithm connectionHandle algorithm] := by
  obtain ⟨first, second, length⟩ := fields_u16_u8 handleSmall algorithmSmall
  obtain ⟨eventCode, payloadLength, packet, code, lengthByte⟩ := @eventPacket_eq HciEvent.leMeta
    (leBytes 1 HciLeEvent.channelSelectionAlgorithm ++ (leBytes 2 connectionHandle ++ leBytes 1 algorithm))
    (by decide) (by simp only [List.length_append, length_leBytes, length]; decide)
  have subeventCode : (UInt8.ofNat HciLeEvent.channelSelectionAlgorithm).toNat =
      HciLeEvent.channelSelectionAlgorithm := rfl
  have unparsed : HciLeEvent.channelSelectionAlgorithm ∉ HciLeEvent.parsed := by decide
  rw [leMeta, packet]
  simp only [Hci.onData, Hci.onHciEvent, code, lengthByte, Hci.onLeEvent, Hci.onLeChannelSelectionAlgorithm,
    show leBytes 1 HciLeEvent.channelSelectionAlgorithm = [UInt8.ofNat HciLeEvent.channelSelectionAlgorithm]
      from rfl, List.cons_append, List.nil_append, subeventCode, unparsed, ↓reduceIte, length, first, second]
  simp [HciEvent.leMeta, HciEvent.numberOfCompletedPackets, HciEvent.commandStatus, HciEvent.commandComplete,
    HciEvent.encryptionChange, HciEvent.disconnectionComplete]

/-! ## Events by their fields -/

/-- An event the controller sends, by its fields (§4.4 of the spec). -/
inductive ControllerEvent.Fields where
  | disconnectionComplete (status connectionHandle reason : Nat)
  | encryptionChange (status connectionHandle enabled : Nat)
  | commandComplete (numPackets opcode status : Nat) (returnParameters : List UInt8)
  | commandStatus (status numPackets opcode : Nat)
  | leMeta (subevent : Nat) (parameters : List UInt8)
  deriving DecidableEq, Repr

namespace ControllerEvent.Fields

/-- The packet the controller sends for the event. -/
def packet : Fields → List UInt8
  | .disconnectionComplete status connectionHandle reason =>
      ControllerEvent.disconnectionComplete status connectionHandle reason
  | .encryptionChange status connectionHandle enabled => ControllerEvent.encryptionChange status connectionHandle enabled
  | .commandComplete numPackets opcode status returnParameters =>
      ControllerEvent.commandComplete numPackets opcode status returnParameters
  | .commandStatus status numPackets opcode => ControllerEvent.commandStatus status numPackets opcode
  | .leMeta subevent parameters => ControllerEvent.leMeta subevent parameters

/-- Every field fits its width and the payload its length byte; an LE meta event is of a
sub-event the router hands to a parser. -/
def Fits : Fields → Prop
  | .disconnectionComplete status connectionHandle reason =>
      status < 2 ^ 8 ∧ connectionHandle < 2 ^ 16 ∧ reason < 2 ^ 8
  | .encryptionChange status connectionHandle enabled => status < 2 ^ 8 ∧ connectionHandle < 2 ^ 16 ∧ enabled < 2 ^ 8
  | .commandComplete numPackets opcode status returnParameters =>
      numPackets < 2 ^ 8 ∧ opcode < 2 ^ 16 ∧ status < 2 ^ 8 ∧ returnParameters.length < 2 ^ 8 - 4
  | .commandStatus status numPackets opcode => status < 2 ^ 8 ∧ numPackets < 2 ^ 8 ∧ opcode < 2 ^ 16
  | .leMeta subevent parameters => subevent ∈ HciLeEvent.parsed ∧ parameters.length < 2 ^ 8 - 1

/-- Modelled from the spec: the command result an event carries to the dispatcher (§4.4).
`CommandComplete` and `CommandStatus` are forwarded with their packet count, opcode and status,
`CommandStatus` with no return parameters; no other event carries one. -/
def cmdResult? : Fields → Option HciCmdResult
  | .commandComplete numPackets opcode status returnParameters =>
      some ⟨numPackets, opcode, status, some returnParameters⟩
  | .commandStatus status numPackets opcode => some ⟨numPackets, opcode, status, none⟩
  | .disconnectionComplete .. | .encryptionChange .. | .leMeta .. => none

end ControllerEvent.Fields

/-- Both `Hci` classes read every field of an event packet from where the spec puts it: for
field values within their widths, parsing the controller's packet gives the values back. An LE
meta event of a sub-event with a parser is handed to it with its parameters, and a
`ChannelSelectionAlgorithm` is read as its handle and algorithm. -/
theorem event_packets_round_trip :
    (∀ status connectionHandle reason : Nat, status < 2 ^ 8 → connectionHandle < 2 ^ 16 → reason < 2 ^ 8 →
      Hci.onData .hciEvent (disconnectionComplete status connectionHandle reason) =
        [.disconnectionComplete status connectionHandle reason]) ∧
    (∀ status connectionHandle enabled : Nat, status < 2 ^ 8 → connectionHandle < 2 ^ 16 → enabled < 2 ^ 8 →
      Hci.onData .hciEvent (encryptionChange status connectionHandle enabled) =
        [.encryptionChange status connectionHandle enabled]) ∧
    (∀ (numPackets opcode status : Nat) (returnParameters : List UInt8), numPackets < 2 ^ 8 →
      opcode < 2 ^ 16 → status < 2 ^ 8 → returnParameters.length < 2 ^ 8 - 4 →
      Hci.onData .hciEvent (commandComplete numPackets opcode status returnParameters) =
          [.cmdResult ⟨numPackets, opcode, status, some returnParameters⟩] ∧
        LegacyHci.onData (commandComplete numPackets opcode status returnParameters) =
          [.cmdComplete ⟨numPackets, opcode, status, returnParameters⟩]) ∧
    (∀ status numPackets opcode : Nat, status < 2 ^ 8 → numPackets < 2 ^ 8 → opcode < 2 ^ 16 →
      Hci.onData .hciEvent (commandStatus status numPackets opcode) =
        [.cmdResult ⟨numPackets, opcode, status, none⟩]) ∧
    (∀ (subevent : Nat) (parameters : List UInt8), subevent ∈ HciLeEvent.parsed → parameters.length < 2 ^ 8 - 1 →
      Hci.onData .hciEvent (leMeta subevent parameters) = [.leSubevent subevent parameters]) ∧
    (∀ connectionHandle algorithm : Nat, connectionHandle < 2 ^ 16 → algorithm < 2 ^ 8 →
      Hci.onData .hciEvent (leMeta HciLeEvent.channelSelectionAlgorithm
          (leBytes 2 connectionHandle ++ leBytes 1 algorithm)) =
        [.leChannelSelectionAlgorithm connectionHandle algorithm]) :=
  ⟨fun _ _ _ => onData_disconnectionComplete, fun _ _ _ => onData_encryptionChange,
    fun _ _ _ _ => onData_commandComplete, fun _ _ _ => onData_commandStatus,
    fun _ _ parsed short => onData_leMeta parsed short,
    fun _ _ => onData_leChannelSelectionAlgorithm⟩

end BluetoothHci
