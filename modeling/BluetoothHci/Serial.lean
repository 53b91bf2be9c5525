import Mathlib.Data.Rat.Floor

/-!
# The serial transport

`SerialHciDevice` is the transport an `Hci` writes its packets to when the controller sits on a
serial port: a SEGGER J-Link, or a board running Zephyr's HCI UART sample. Its constructor
fills in the options the caller left out and creates the port closed; `findSerial` picks the
HCI ports among those `SerialPort.list()` reports; `createHciSerial` looks the port up when the
caller names none, gives the baud rate a default, and builds the device.

The constructor's defaults use `??`, which replaces only a missing value, while
`createHciSerial` tests `!serial.path` and `!serial.baudRate`, which take an empty path and a
zero baud rate as missing too. So every device `createHciSerial` builds has a port path that is
not empty, a baud rate that is not zero, every line setting given, and a port that does not open
by itself, and the path is the caller's or that of an HCI port. It fails only with
`Cannot find appropriate port`, exactly when the caller named no path and there is no HCI port
with a path at the index asked for.

What the port does once created (`open`, `close`, `write`, `on`) is the `serialport` library's.
-/

set_option autoImplicit false

namespace BluetoothHci

/-- The options of `SerialPortOpenOptions` the code reads or sets, each missing (`undefined`)
or given; the others pass through unchanged. `stopBits` is one of `1`, `1.5` and `2`. -/
structure SerialOptions where
  path : Option String
  baudRate : Option Int
  autoOpen : Option Bool
  parity : Option String
  rtscts : Option Bool
  dataBits : Option Int
  stopBits : Option ℚ
  deriving DecidableEq, Repr

/-- The fields of `PortInfo` that `findSerial` and `createHciSerial` read. -/
structure PortInfo where
  path : String
  manufacturer : Option String
  vendorId : Option String
  productId : Option String
  deriving DecidableEq, Repr

/-- A `SerialHciDevice`: the options its port was created with. -/
structure SerialHciDevice where
  portOptions : SerialOptions
  deriving DecidableEq, Repr

namespace SerialHciDevice

/-- The constructor: the port is created with `autoOpen` off, and `??` fills what the caller
left out: no parity, RTS/CTS flow control, 1 000 000 baud, 8 data bits and 1 stop bit. -/
def constructor (options : SerialOptions) : SerialHciDevice :=
  ⟨{ options with
      autoOpen := some false
      parity := some (options.parity.getD "none")
      rtscts := some (options.rtscts.getD true)
      baudRate := some (options.baudRate.getD 1000000)
      dataBits := some (options.dataBits.getD 8)
      stopBits := some (options.stopBits.getD 1) }⟩

/-- The filter of `findSerial`: a port made by SEGGER, or Zephyr's HCI UART (USB `2fe3:0100`). -/
def isHciPort (port : PortInfo) : Bool :=
  port.manufacturer == some "SEGGER" || (port.vendorId == some "2fe3" && port.productId == some "0100")

/-- The message of the `Error` that `findSerial` and `createHciSerial` throw. -/
def cannotFindPort : String := "Cannot find appropriate port"

/-- `findSerial(deviceId)`, with `ports` what `SerialPort.list()` resolves to: the `deviceId`-th
HCI port, `null` when there is none at that index (`hciPortInfos[deviceId] ?? null`), and an
`Error` when the list has no HCI port at all. -/
def findSerial (ports : List PortInfo) (deviceId : Int) : Except String (Option PortInfo) :=
  let hciPortInfos := ports.filter isHciPort
  if hciPortInfos.length = 0 then .error cannotFindPort
  else .ok (if 0 ≤ deviceId then hciPortInfos[deviceId.toNat]? else none)

end SerialHciDevice

open SerialHciDevice in
/-- `createHciSerial(deviceId, serial)`, with `ports` what `SerialPort.list()` resolves to: the
caller's `serial` as the function leaves it (it writes the path and the baud rate it chose into
it) and the device built. `!value` takes `undefined`, `''` and `0` as missing. -/
def createHciSerial (ports : List PortInfo) (deviceId : Int) (serial : SerialOptions) :
    Except String (SerialOptions × SerialHciDevice) := do
  let serial ← if serial.path.getD "" = "" then do
      let path := (← findSerial ports deviceId).map PortInfo.path
      if path.getD "" = "" then throw cannotFindPort
      pure { serial with path := path }
    else pure serial
  let serial := if serial.baudRate.getD 0 = 0 then { serial with baudRate := some 1000000 } else serial
  pure (serial, SerialHciDevice.constructor { serial with path := serial.path, baudRate := serial.baudRate })

/-- A port configuration a device can open: a path that is not empty, a baud rate that is not
zero, every line setting given, and no opening by itself. -/
structure SerialOptions.Usable (options : SerialOptions) : Prop where
  path : ∃ path, options.path = some path ∧ path ≠ ""
  baudRate : ∃ rate, options.baudRate = some rate ∧ rate ≠ 0
  lineSettings : options.parity.isSome ∧ options.rtscts.isSome ∧ options.dataBits.isSome ∧ options.stopBits.isSome
  closed : options.autoOpen = some false

namespace SerialHciDevice

/-- A device whose options name a path that is not empty, and no baud rate of zero, can open its
port. -/
theorem constructor_usable {options : SerialOptions} {path : String} (named : options.path = some path)
    (nonempty : path ≠ "") (nonzero : options.baudRate ≠ some 0) : (constructor options).portOptions.Usable where
  path := ⟨path, named, nonempty⟩
  baudRate := ⟨options.baudRate.getD 1000000, rfl, by cases given : options.baudRate <;> simp_all⟩
  lineSettings := by simp [constructor]
  closed := rfl

private theorem findSerial_spec (ports : List PortInfo) (deviceId : Int) :
    (∀ message, findSerial ports deviceId = .error message →
      message = cannotFindPort ∧ ∀ port ∈ ports, isHciPort port = false) ∧
    ∀ found, findSerial ports deviceId = .ok found →
      found = (if 0 ≤ deviceId then (ports.filter isHciPort)[deviceId.toNat]? else none) := by
  by_cases noPort : (ports.filter isHciPort).length = 0
  · have failed : findSerial ports deviceId = .error cannotFindPort := by simp [findSerial, noPort]
    rw [failed]
    refine ⟨fun message same => ⟨(Except.error.inj same).symm, fun port member => ?_⟩, fun _ same => nomatch same⟩
    simpa using List.filter_eq_nil_iff.mp (List.length_eq_zero.mp noPort) port member
  · have found : findSerial ports deviceId =
        .ok (if 0 ≤ deviceId then (ports.filter isHciPort)[deviceId.toNat]? else none) := by
      simp only [findSerial, noPort, if_false]
    rw [found]
    exact ⟨fun _ same => (nomatch same), fun _ same => (Except.ok.inj same).symm⟩

end SerialHciDevice

open SerialHciDevice

private theorem createHciSerial_eq (ports : List PortInfo) (deviceId : Int) (serial : SerialOptions) :
    createHciSerial ports deviceId serial =
      let path := if serial.path.getD "" = "" then
          (if 0 ≤ deviceId then (ports.filter isHciPort)[deviceId.toNat]? else none).map PortInfo.path
        else serial.path
      let caller := { serial with
        path := path, baudRate := if serial.baudRate.getD 0 = 0 then some 1000000 else serial.baudRate }
      if path.getD "" = "" then .error cannotFindPort else .ok (caller, constructor caller) := by
  unfold createHciSerial
  by_cases named : serial.path.getD "" = ""
  · cases found : findSerial ports deviceId with
    | error message =>
        obtain ⟨rfl, noHciPort⟩ := (findSerial_spec ports deviceId).1 message found
        have missing : (ports.filter isHciPort)[deviceId.toNat]? = none := by
          simp [List.filter_eq_nil_iff.mpr fun port member => by simpa using noHciPort port member]
        simp [named, found, missing, bind, Except.bind]
    | ok port =>
        obtain rfl := (findSerial_spec ports deviceId).2 port found
        simp only [named, found, if_true, bind, Except.bind, pure, Except.pure]
        split_ifs <;> rfl
  · simp only [named, if_false, bind, Except.bind, pure, Except.pure]
    split_ifs <;> rfl

private theorem chosenPath_named (ports : List PortInfo) (deviceId : Int) (serial : SerialOptions) :
    (if serial.path.getD "" = "" then
        (if 0 ≤ deviceId then (ports.filter isHciPort)[deviceId.toNat]? else none).map PortInfo.path
      else serial.path).getD "" ≠ "" ↔
      serial.path.getD "" ≠ "" ∨
        ∃ port, 0 ≤ deviceId ∧ (ports.filter isHciPort)[deviceId.toNat]? = some port ∧ port.path ≠ "" := by
  by_cases named : serial.path.getD "" = ""
  · by_cases nonneg : 0 ≤ deviceId
    · cases found : (ports.filter isHciPort)[deviceId.toNat]? <;> simp [named, nonneg, found]
    · simp [named, nonneg]
  · simp [named]

/-- Every device `createHciSerial` builds can open its port. The path is the caller's when it is
not empty and otherwise that of the `deviceId`-th port made by SEGGER or running Zephyr's HCI
UART; the baud rate is the caller's when it is not zero and otherwise 1 000 000; nothing else of
the caller's options changes. It fails only with `Cannot find appropriate port`, and exactly
when the caller named no path and there is no HCI port with a path at that index. -/
theorem createHciSerial_contract (ports : List PortInfo) (deviceId : Int) (serial : SerialOptions) :
    (∀ caller device, createHciSerial ports deviceId serial = .ok (caller, device) →
      device = constructor caller ∧ device.portOptions.Usable ∧
        caller.path = (if serial.path.getD "" = "" then
            (if 0 ≤ deviceId then (ports.filter isHciPort)[deviceId.toNat]? else none).map PortInfo.path
          else serial.path) ∧
        caller.baudRate = (if serial.baudRate.getD 0 = 0 then some 1000000 else serial.baudRate) ∧
        { caller with path := serial.path, baudRate := serial.baudRate } = serial) ∧
    (∀ message, createHciSerial ports deviceId serial = .error message → message = cannotFindPort) ∧
    ((∃ result, createHciSerial ports deviceId serial = .ok result) ↔
      serial.path.getD "" ≠ "" ∨
        ∃ port, 0 ≤ deviceId ∧ (ports.filter isHciPort)[deviceId.toNat]? = some port ∧ port.path ≠ "") := by
  rw [createHciSerial_eq, ← chosenPath_named]
  generalize (if serial.path.getD "" = "" then
      (if 0 ≤ deviceId then (ports.filter isHciPort)[deviceId.toNat]? else none).map PortInfo.path
    else serial.path) = path
  dsimp only
  by_cases missing : path.getD "" = ""
  · simp only [missing, if_true]
    exact ⟨fun _ _ same => (nomatch same), fun _ same => (Except.error.inj same).symm,
      ⟨fun ⟨_, same⟩ => (nomatch same), fun named => absurd rfl named⟩⟩
  · simp only [missing, if_false]
    refine ⟨fun caller device same => ?_, fun _ same => (nomatch same), ⟨fun _ => missing, fun _ => ⟨_, rfl⟩⟩⟩
    obtain ⟨rfl, rfl⟩ := Prod.mk.inj (Except.ok.inj same)
    obtain ⟨named, rfl⟩ : ∃ named, path = some named :=
      Option.ne_none_iff_exists'.mp fun absent => missing (absent ▸ rfl)
    refine ⟨rfl, constructor_usable rfl missing ?_, rfl, rfl, rfl⟩
    split_ifs with zero
    · simp
    · exact fun same => zero (congrArg (Option.getD · 0) same)

example :
    (createHciSerial [⟨"/dev/ttyS0", none, none, none⟩, ⟨"/dev/ttyACM0", some "SEGGER", none, none⟩] 0
        ⟨none, none, none, none, none, none, none⟩).map (fun result => result.2.portOptions) =
      .ok ⟨some "/dev/ttyACM0", some 1000000, some false, some "none", some true, some 8, some 1⟩ := by
  rfl

end BluetoothHci
