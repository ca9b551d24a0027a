import Mathlib.Tactic.Common

/-!
The data of the Modbus library: function codes, errors, the context of a connection, and what
the two backends have in common, a header before the function code and a checksum behind the
data. A context without a slave is one whose `slave` is still -1.
-/

namespace DevHub.Modbus

set_option autoImplicit false

inductive FunctionCode where
  | readCoils
  | readDiscreteInputs
  | readHoldingRegisters
  | readInputRegisters
  | writeSingleCoil
  | writeSingleRegister
  | readExceptionStatus
  | writeMultipleCoils
  | writeMultipleRegisters
  | reportSlaveId
  | maskWriteRegister
  | writeAndReadRegisters
  deriving DecidableEq

def FunctionCode.byte : FunctionCode → UInt8
  | .readCoils => 0x01
  | .readDiscreteInputs => 0x02
  | .readHoldingRegisters => 0x03
  | .readInputRegisters => 0x04
  | .writeSingleCoil => 0x05
  | .writeSingleRegister => 0x06
  | .readExceptionStatus => 0x07
  | .writeMultipleCoils => 0x0F
  | .writeMultipleRegisters => 0x10
  | .reportSlaveId => 0x11
  | .maskWriteRegister => 0x16
  | .writeAndReadRegisters => 0x17

/-- The case of a `switch` over the function code, `none` for its default. -/
def FunctionCode.ofByte (byte : UInt8) : Option FunctionCode :=
  [.readCoils, .readDiscreteInputs, .readHoldingRegisters, .readInputRegisters, .writeSingleCoil,
    .writeSingleRegister, .readExceptionStatus, .writeMultipleCoils, .writeMultipleRegisters,
    .reportSlaveId, .maskWriteRegister, .writeAndReadRegisters].find? fun code => code.byte = byte

@[simp] theorem of_byte_byte (code : FunctionCode) : FunctionCode.ofByte code.byte = some code := by
  cases code <;> rfl

/-- An exception of the protocol is `MODBUS_ENOBASE` and its code. `failedAssertion` ends the
process. -/
inductive Errno where
  | einval
  | etimedout
  | econnreset
  | enoprotoopt
  | embx (exception : UInt8)
  | embbadcrc
  | embbaddata
  | embbadexc
  | embmdata
  | embbadslave
  | other (number : Int)
  | failedAssertion
  deriving DecidableEq

def exceptionIllegalFunction : UInt8 := 0x01
def exceptionIllegalDataAddress : UInt8 := 0x02
def exceptionIllegalDataValue : UInt8 := 0x03
def exceptionMax : UInt8 := 12

def broadcastAddress : UInt8 := 0

def maxReadBits : Int := 2000
def maxWriteBits : Int := 1968
def maxReadRegisters : Int := 125
def maxWriteRegisters : Int := 123
def maxWrWriteRegisters : Int := 121
def maxWrReadRegisters : Int := 125

inductive MsgType where
  | indication
  | confirmation
  deriving DecidableEq

def byteOf (value : Int) : UInt8 := UInt8.ofNat (value % 256).toNat

/-- The byte that `>> 8` of an `int` leaves. -/
def highByte (value : Int) : UInt8 := byteOf (value / 256)

/-- `(high << 8) + low`. -/
def wordOf (high low : UInt8) : Nat := high.toNat * 256 + low.toNat

def byteAt (msg : List UInt8) (i : Nat) : UInt8 := msg.getD i 0

def wordAt (msg : List UInt8) (i : Nat) : Nat := wordOf (byteAt msg i) (byteAt msg (i + 1))

/-- What a `modbus_t` holds beside its backend and its settings. -/
structure Context where
  slave : Option UInt8
  tid : UInt16

/-- The functions of a `modbus_backend_t` that build and check messages. The header ends with
the slave, and is the same for a request and for its response; `sendMsgPre` puts in what
depends on the whole message. -/
structure Backend where
  rtu : Bool
  headerLength : Nat
  checksumLength : Nat
  maxAduLength : Nat
  nextTid : UInt16 → UInt16
  header : UInt16 → UInt8 → List UInt8
  responseTid : List UInt8 → UInt16
  sendMsgPre : List UInt8 → List UInt8
  checkIntegrity : Context → List UInt8 → Except Errno Nat
  preCheckConfirmation : List UInt8 → List UInt8 → Except Errno Unit

namespace Backend

variable (backend : Backend)

/-- A message with everything that `send_msg` puts on the line. -/
def message (tid : UInt16) (slave : UInt8) (pdu : List UInt8) : List UInt8 :=
  backend.sendMsgPre (backend.header tid slave ++ pdu)

def Hears (ctx : Context) (slave : UInt8) : Prop := ∀ tid pdu,
  backend.checkIntegrity ctx (backend.message tid slave pdu) =
    .ok (backend.message tid slave pdu).length

/-- What the protocol relies on in a backend: where the parts of a message stand, that a message
without its checksum is sent again as it was, and that the checks of the receiver let through
what the sender built. -/
structure Lawful : Prop where
  headerPositive : 0 < backend.headerLength
  sent : ∀ tid slave pdu, ∃ front checksum,
    front.length = backend.headerLength ∧ checksum.length = backend.checksumLength ∧
      byteAt front (backend.headerLength - 1) = slave ∧
      backend.message tid slave pdu = front ++ pdu ++ checksum
  grows : ∀ msg, (backend.sendMsgPre msg).length = msg.length + backend.checksumLength
  accepted : ∀ (ctx : Context) slave, ctx.slave = some slave ∨ slave = broadcastAddress →
    backend.Hears ctx slave
  tidFront : ∀ tid slave pdu rest,
    backend.responseTid (backend.message tid slave pdu ++ rest) =
      backend.responseTid (backend.message tid slave pdu)
  echoed : ∀ tid slave pdu,
    backend.sendMsgPre ((backend.message tid slave pdu).take
      ((backend.message tid slave pdu).length - backend.checksumLength)) =
      backend.message (backend.responseTid (backend.message tid slave pdu)) slave pdu
  answered : ∀ tid slave pdu answer,
    backend.preCheckConfirmation (backend.message tid slave pdu)
      (backend.message (backend.responseTid (backend.message tid slave pdu)) slave answer) = .ok ()
  roomy : backend.headerLength + 253 + backend.checksumLength ≤ backend.maxAduLength

end Backend

end DevHub.Modbus
