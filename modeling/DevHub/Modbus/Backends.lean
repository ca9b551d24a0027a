import DevHub.Modbus.Crc16

/-!
The two backends of the library. RTU puts the slave before the function code and the checksum
behind the data, TCP a header with the transaction, which the answer has to repeat.
-/

namespace DevHub.Modbus

open Crc16

set_option autoImplicit false

/-! ### RTU -/

/-- `_modbus_set_slave` of the RTU backend. -/
def rtuSetSlave (ctx : Context) (slave : Int) : Except Errno Context :=
  if 0 ≤ slave ∧ slave ≤ 247 then .ok { ctx with slave := some (byteOf slave) }
  else .error .einval

/-- `_modbus_rtu_pre_check_confirmation`. -/
def rtuPreCheckConfirmation (req rsp : List UInt8) : Except Errno Unit :=
  if byteAt req 0 ≠ byteAt rsp 0 ∧ byteAt req 0 ≠ broadcastAddress then .error .embbadslave
  else .ok ()

def rtuBackend : Backend where
  rtu := true
  headerLength := 1
  checksumLength := 2
  maxAduLength := 256
  nextTid tid := tid
  header _ slave := [slave]
  responseTid _ := 0
  sendMsgPre := rtuSendMsgPre
  checkIntegrity := rtuCheckIntegrity
  preCheckConfirmation := rtuPreCheckConfirmation

theorem rtu_sent (tid : UInt16) (slave : UInt8) (pdu : List UInt8) :
    rtuBackend.message tid slave pdu =
      slave :: (pdu ++ [(crcBytes (slave :: pdu)).1, (crcBytes (slave :: pdu)).2]) :=
  rtu_message (slave :: pdu)

theorem rtu_lawful : rtuBackend.Lawful := by
  constructor
  · decide
  · intro tid slave pdu
    refine ⟨[slave], _, rfl, ?_, rfl, rtu_sent tid slave pdu⟩
    rfl
  · intro msg
    exact List.length_append
  · intro ctx slave known tid pdu
    have first : byteAt (rtuBackend.message tid slave pdu) 0 = slave := by
      rw [rtu_sent]
      rfl
    have zero : Crc.feedAll poly 0xFFFF#16 (bitsOfBytes (rtuBackend.message tid slave pdu)) = 0#16 := by
      rw [rtu_sent, ← List.cons_append, ← checksum_iff]
      rfl
    apply (rtu_check_iff _ _).mpr zero
    · rw [rtu_sent]
      simp
    · rw [first]
      rcases known with own | broadcast
      · exact .inl own.symm
      · exact .inr broadcast
  · intro tid slave pdu rest
    rfl
  · intro tid slave pdu
    have whole : rtuBackend.message tid slave pdu =
        (slave :: pdu) ++ [(crcBytes (slave :: pdu)).1, (crcBytes (slave :: pdu)).2] :=
      rtu_sent tid slave pdu
    have length : (rtuBackend.message tid slave pdu).length - rtuBackend.checksumLength =
        (slave :: pdu).length := by
      rw [whole, List.length_append]
      exact Nat.add_sub_cancel _ _
    rw [length, whole, List.take_left]
    rfl
  · intro tid slave pdu answer
    have same : byteAt (rtuBackend.message tid slave pdu) 0 = slave := by
      rw [rtu_sent]
      rfl
    have back (other : UInt16) : byteAt (rtuBackend.message other slave answer) 0 = slave := by
      rw [rtu_sent]
      rfl
    have taken (other : UInt16) : ¬ (byteAt (rtuBackend.message tid slave pdu) 0 ≠
        byteAt (rtuBackend.message other slave answer) 0 ∧
        byteAt (rtuBackend.message tid slave pdu) 0 ≠ broadcastAddress) := by
      rw [same, back]
      exact fun both => both.1 rfl
    exact if_neg (taken _)
  · decide

/-! ### TCP -/

def tcpHeader (tid : UInt16) (slave : UInt8) : List UInt8 :=
  [(tid >>> 8).toUInt8, (tid &&& 0x00FF).toUInt8, 0, 0, 0, 0, slave]

/-- `_modbus_tcp_send_msg_pre`: the length that the header announces. -/
def tcpSendMsgPre (req : List UInt8) : List UInt8 :=
  (req.set 4 (highByte (req.length - 6))).set 5 (byteOf (req.length - 6))

/-- `_modbus_tcp_pre_check_confirmation`. -/
def tcpPreCheckConfirmation (req rsp : List UInt8) : Except Errno Unit :=
  if byteAt req 0 ≠ byteAt rsp 0 ∨ byteAt req 1 ≠ byteAt rsp 1 then .error .embbaddata
  else if byteAt rsp 2 ≠ 0 ∧ byteAt rsp 3 ≠ 0 then .error .embbaddata
  else .ok ()

/-- The bytes 4 and 5 of a header are those of `sendMsgPre`. -/
def tcpBackend : Backend where
  rtu := false
  headerLength := 7
  checksumLength := 0
  maxAduLength := 260
  nextTid tid := if tid < 0xFFFF then tid + 1 else 0
  header := tcpHeader
  responseTid req := (byteAt req 0).toUInt16 <<< 8 ||| (byteAt req 1).toUInt16
  sendMsgPre := tcpSendMsgPre
  checkIntegrity _ msg := .ok msg.length
  preCheckConfirmation := tcpPreCheckConfirmation

def tcpFront (tid : UInt16) (slave : UInt8) (length : Nat) : List UInt8 :=
  [(tid >>> 8).toUInt8, (tid &&& 0x00FF).toUInt8, 0, 0, highByte (length + 1),
    byteOf (length + 1), slave]

theorem tcp_sent (tid : UInt16) (slave : UInt8) (pdu : List UInt8) :
    tcpBackend.message tid slave pdu = tcpFront tid slave pdu.length ++ pdu := by
  have length : ((tcpHeader tid slave ++ pdu).length : Int) - 6 = pdu.length + 1 := by
    simp [tcpHeader]
    omega
  have built : tcpBackend.message tid slave pdu = tcpSendMsgPre (tcpHeader tid slave ++ pdu) := rfl
  rw [built, tcpSendMsgPre, length]
  rfl

theorem tid_bytes (tid : UInt16) :
    (tid >>> 8).toUInt8.toUInt16 <<< 8 ||| (tid &&& 0x00FF).toUInt8.toUInt16 = tid := by
  have small := tid.toNat_lt
  have eight : (8 : UInt16).toNat % 16 = 8 := rfl
  have mask : (0x00FF : UInt16).toNat = 2 ^ 8 - 1 := rfl
  apply UInt16.toNat_inj.mp
  rw [word_nat, UInt16.toNat_toUInt8, UInt16.toNat_toUInt8, UInt16.toNat_shiftRight,
    UInt16.toNat_and, eight, mask, Nat.shiftRight_eq_div_pow, Nat.and_two_pow_sub_one_eq_mod]
  omega

theorem tcp_response_tid (tid : UInt16) (slave : UInt8) (pdu : List UInt8) :
    tcpBackend.responseTid (tcpBackend.message tid slave pdu) = tid := by
  rw [tcp_sent]
  exact tid_bytes tid

theorem tcp_lawful : tcpBackend.Lawful := by
  constructor
  · decide
  · intro tid slave pdu
    refine ⟨tcpFront tid slave pdu.length, [], rfl, rfl, rfl, ?_⟩
    rw [tcp_sent, List.append_nil]
  · intro msg
    have set : (tcpSendMsgPre msg).length = msg.length := by
      rw [tcpSendMsgPre, List.length_set, List.length_set]
    exact set
  · intro ctx slave _ tid pdu
    rfl
  · intro tid slave pdu rest
    rw [tcp_sent]
    rfl
  · intro tid slave pdu
    have length : (tcpBackend.message tid slave pdu).length - tcpBackend.checksumLength =
        (tcpBackend.message tid slave pdu).length := rfl
    have again : tcpBackend.sendMsgPre (tcpFront tid slave pdu.length ++ pdu) =
        tcpFront tid slave pdu.length ++ pdu := by
      have count : ((tcpFront tid slave pdu.length ++ pdu).length : Int) - 6 = pdu.length + 1 := by
        simp [tcpFront]
        omega
      have built : tcpBackend.sendMsgPre (tcpFront tid slave pdu.length ++ pdu) =
          tcpSendMsgPre (tcpFront tid slave pdu.length ++ pdu) := rfl
      rw [built, tcpSendMsgPre, count]
      rfl
    rw [length, List.take_length, tcp_response_tid, tcp_sent, again]
  · intro tid slave pdu answer
    rw [tcp_response_tid, tcp_sent, tcp_sent]
    simp [tcpBackend, tcpPreCheckConfirmation, tcpFront, byteAt]
  · decide

end DevHub.Modbus
