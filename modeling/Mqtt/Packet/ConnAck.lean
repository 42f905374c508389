import Mqtt.Wire.Field

/-!
# CONNACK

The answer to a CONNECT: whether a session is resumed, and the outcome of the request.
-/

namespace Mqtt

/-- Outcome of a CONNECT. -/
inductive ConnectCode where
  | accepted
  | unacceptableProtocolVersion
  | identifierRejected
  | serverUnavailable
  | badUserNameOrPassword
  | notAuthorized
  /-- A byte kept as it was received. -/
  | other (byte : UInt8)
deriving DecidableEq

namespace ConnectCode

/-- The outcome that a byte stands for; every byte stands for one. -/
def ofByte (b : UInt8) : ConnectCode :=
  match b.toNat with
  | 0 => .accepted
  | 1 => .unacceptableProtocolVersion
  | 2 => .identifierRejected
  | 3 => .serverUnavailable
  | 4 => .badUserNameOrPassword
  | 5 => .notAuthorized
  | _ => .other b

/-- The byte of an outcome. -/
def toByte : ConnectCode → UInt8
  | .accepted                    => 0
  | .unacceptableProtocolVersion => 1
  | .identifierRejected          => 2
  | .serverUnavailable           => 3
  | .badUserNameOrPassword       => 4
  | .notAuthorized               => 5
  | .other b                     => b

/-- Two lower-case hexadecimal digits. -/
def hexByte (b : UInt8) : String :=
  String.ofList [Nat.digitChar (b.toNat / 16), Nat.digitChar (b.toNat % 16)]

/-- The wording of an outcome. -/
def name : ConnectCode → String
  | .accepted                    => "Connection Accepted"
  | .unacceptableProtocolVersion => "Unacceptable Protocol Version"
  | .identifierRejected          => "Identifier Rejected"
  | .serverUnavailable           => "Server Unavailable"
  | .badUserNameOrPassword       => "Bad User Name or Password"
  | .notAuthorized               => "Not Authorized"
  | .other b                     => "Unknown Return Code 0x" ++ hexByte b

theorem toByte_ofByte (b : UInt8) : (ofByte b).toByte = b := by
  unfold ofByte
  split <;> first | rfl | exact UInt8.toNat_inj.mp (by simp_all [toByte])

end ConnectCode

/-- Flags and outcome of a CONNACK. -/
structure ConnAckHeader where
  sessionPresent : Bool
  code : ConnectCode
deriving DecidableEq

namespace ConnAckHeader

/-- The number of bytes of a header. -/
def length : Nat := 2

/-- Read a header; of its first byte only the lowest bit may be set. -/
def read : Reader ConnAckHeader
  | flags :: code :: _ =>
    if flags.toNat / 2 = 0 then .done ⟨flags.toNat.testBit 0, ConnectCode.ofByte code⟩ length
    else .malformed (.invalidVariableHeader .reservedAcknowledgeFlags)
  | _                  => .short

/-- Write a header. -/
def write (h : ConnAckHeader) : Output :=
  .byte (UInt8.ofNat h.sessionPresent.toNat) ++ .byte h.code.toByte

theorem progress_read : read.Progress := by
  intro bs a n h
  unfold read at h
  split at h
  · split at h <;> cases h
    simp [length]
  · cases h

end ConnAckHeader

end Mqtt
