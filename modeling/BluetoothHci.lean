import BluetoothHci.Error
import BluetoothHci.Buffer
import BluetoothHci.Js
import BluetoothHci.Packet
import BluetoothHci.Units
import BluetoothHci.Bitfield
import BluetoothHci.Encoders
import BluetoothHci.Dispatcher
import BluetoothHci.Dispatcher.Invariant
import BluetoothHci.Dispatcher.Progress
import BluetoothHci.Dispatcher.Refinement
import BluetoothHci.HciCmd
import BluetoothHci.LegacyHci
import BluetoothHci.ReturnParameters
import BluetoothHci.Codec
import BluetoothHci.SupportedStates
import BluetoothHci.EventRouter
import BluetoothHci.EventPackets
import BluetoothHci.Safety
import BluetoothHci.Completion
import BluetoothHci.Serial
