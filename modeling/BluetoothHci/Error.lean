import Mathlib.Logic.Basic

/-!
# Errors

The three kinds of failure a call can end in: a parser error of the library itself, a
controller status code, and what the host throws while it builds a packet. `HciError.ts` is
not among the sources, so its codes are taken from the spec.
-/

set_option autoImplicit false

namespace BluetoothHci

/-- Modelled from the spec: the status codes of `HciErrorCode` in `HciError.ts` that the
sources name (§7: `Success` is `0x00`, `InvalidHciCommandParameters` is `0x12`, the remote user
terminating a connection is `0x13`). -/
def HciErrorCode.success : Int := 0x00

@[inherit_doc HciErrorCode.success]
def HciErrorCode.invalidCommandParameter : Int := 0x12

@[inherit_doc HciErrorCode.success]
def HciErrorCode.connTerminatedByRemoteUser : Int := 0x13

/-- Modelled from the spec: `HciParserError` of `HciError.ts` (§7), errors that originate in
the library. -/
inductive HciParserError where
  | invalidPayloadSize
  | busy
  | timeout
  deriving DecidableEq, Repr

/-- What Node throws from an integer write: a `byteLength` outside `1..6`, a value outside the
field's range, or a field that runs past the end of the buffer. -/
inductive RangeError where
  | byteLengthOutOfRange (byteLength : Nat)
  | outOfRange (value lo hi : Int)
  | bufferOutOfBounds (offset width : Nat)
  deriving DecidableEq, Repr

/-- What the host throws while it builds a command: a `RangeError` from a buffer write, or
the controller error an encoder raises itself (`makeHciError`). -/
inductive HostError where
  | rangeError (error : RangeError)
  | hciError (code : Int)
  deriving DecidableEq, Repr

/-- What a call's promise is rejected with. -/
inductive CallError where
  | parser (error : HciParserError)
  | controller (status : Int)
  | thrown (error : HostError)
  | transport
  deriving DecidableEq, Repr

end BluetoothHci
