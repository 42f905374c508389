import Mqtt.Packet.Kind
import Mqtt.Wire.Field

/-!
# CONNECT

The request that opens a session: which protocol the client speaks and under which flags, then the
client's identifier with the optional fields that the flags announce.
-/

namespace Mqtt

/-! ### Rules -/

/-- Whether a protocol name and level are those of version 3.1.1 or of version 3.1. -/
def isSupportedProtocol (name : String) (level : UInt8) : Bool :=
  (name == "MQTT" && level == 4) || (name == "MQIsdp" && level == 3)

/-- The greatest number of bytes of a client identifier in version 3.1. -/
def legacyClientIdLimit : Nat := 23

/-- Whether a client identifier is acceptable at a protocol level. -/
def isAcceptableClientId (level : UInt8) (clientId : String) : Bool :=
  let n := clientId.utf8ByteSize
  if level = 4 then decide (0 < n)
  else if level = 3 then decide (0 < n ∧ n ≤ legacyClientIdLimit)
  else false

/-! ### Variable header -/

/-- Protocol, flags and keep-alive interval of a CONNECT. -/
structure ConnectHeader where
  protocolName : String
  protocolLevel : UInt8
  hasUserName : Bool
  hasPassword : Bool
  willRetain : Bool
  willQoS : QoS
  hasWill : Bool
  cleanSession : Bool
  /-- Greatest number of seconds between two packets of the client. -/
  keepAlive : UInt16
deriving DecidableEq

namespace ConnectHeader

/-- A clean session in version 3.1.1, without will and credentials. -/
def new (keepAlive : UInt16) : ConnectHeader where
  protocolName := "MQTT"
  protocolLevel := 4
  hasUserName := false
  hasPassword := false
  willRetain := false
  willQoS := .atMostOnce
  hasWill := false
  cleanSession := true
  keepAlive := keepAlive

/-- Whether the will's options are clear or there is a will. -/
def hasConsistentWill (hasWill willRetain : Bool) (willQoS : QoS) : Bool :=
  hasWill || (!willRetain && willQoS == .atMostOnce)

/-- The flags in one byte. -/
def flags (h : ConnectHeader) : UInt8 :=
  UInt8.ofNat (h.hasUserName.toNat * 128 + h.hasPassword.toNat * 64 + h.willRetain.toNat * 32
    + h.willQoS.level * 8 + h.hasWill.toNat * 4 + h.cleanSession.toNat * 2)

/-- The header with the flags in `flags`, which are checked against each other. -/
def ofFlags (name : String) (level flags : UInt8) (keepAlive : UInt16) :
    Except DecodeError ConnectHeader :=
  let n := flags.toNat
  let hasWill := n.testBit 2
  let willRetain := n.testBit 5
  let hasPassword := n.testBit 6
  let hasUserName := n.testBit 7
  if n.testBit 0 then .error (.invalidVariableHeader .reservedConnectFlag)
  else
    match QoS.ofLevel? (n / 8 % 4) with
    | none         => .error .invalidQoSLevel
    | some willQoS =>
      if !hasConsistentWill hasWill willRetain willQoS then
        .error (.invalidVariableHeader .willOptionsWithoutWill)
      else if hasPassword && !hasUserName then
        .error (.invalidVariableHeader .passwordWithoutUserName)
      else
        .ok ⟨name, level, hasUserName, hasPassword, willRetain, willQoS, hasWill, n.testBit 1,
          keepAlive⟩

/-- Read a header. The protocol is judged as soon as its level is there, the flags after the
keep-alive interval. -/
def read : Reader ConnectHeader := do
  let name ← Reader.text
  let level ← Reader.byte
  if isSupportedProtocol name level then do
    let flags ← Reader.byte
    let keepAlive ← Reader.word
    match ofFlags name level flags keepAlive with
    | .error e => Reader.fail e
    | .ok h    => pure h
  else Reader.fail (.protocolVersionMismatch name level)

/-- Write a header. -/
def write (h : ConnectHeader) : Output :=
  .text h.protocolName ++ .byte h.protocolLevel ++ .byte h.flags ++ .word h.keepAlive

/-- The number of bytes of a header. -/
def length (h : ConnectHeader) : Nat :=
  fieldLength h.protocolName.utf8ByteSize + 1 + 1 + 2

/-- The least number of bytes of a header with a supported protocol. -/
def minLength : Nat := 10

theorem progress_read : read.Progress := by
  refine Reader.progress_text.bind fun name => Reader.progress_byte.bounded.bind fun level => ?_
  split
  · refine Reader.progress_byte.bounded.bind fun flags =>
      Reader.progress_word.bounded.bind fun keepAlive => ?_
    split
    · exact Reader.bounded_fail _
    · exact Reader.bounded_pure _
  · exact Reader.bounded_fail _

end ConnectHeader

/-! ### Payload -/

/-- Identifier of the client, and the fields that the flags of its CONNECT announce. -/
structure ConnectPayload where
  clientId : String
  willTopic : Option String
  willMessage : Option Bytes
  userName : Option String
  password : Option Bytes
deriving DecidableEq

namespace ConnectPayload

/-- A payload that holds nothing but the client's identifier. -/
def new (clientId : String) : ConnectPayload := ⟨clientId, none, none, none, none⟩

/-- Read a field if it was announced. -/
def readIf {α : Type} (announced : Bool) (r : Reader α) : Reader (Option α) :=
  if announced then do
    let a ← r
    pure (some a)
  else pure none

/-- Read the fields that `h` announces. -/
def reader (h : ConnectHeader) : Reader ConnectPayload := do
  let clientId ← Reader.text
  if isAcceptableClientId h.protocolLevel clientId then do
    let willTopic ← readIf h.hasWill Reader.text
    let willMessage ← readIf h.hasWill Reader.binary
    let userName ← readIf h.hasUserName Reader.text
    let password ← readIf h.hasPassword Reader.binary
    pure ⟨clientId, willTopic, willMessage, userName, password⟩
  else Reader.fail .invalidClientId

/-- Read a payload from exactly its bytes. -/
def read (h : ConnectHeader) (bs : Bytes) : Except DecodeError ConnectPayload :=
  (reader h).whole bs

/-- Write a field if it is there. -/
def writeIf {α : Type} (write : α → Output) : Option α → Output
  | none   => .of []
  | some a => write a

/-- Write a payload. -/
def write (p : ConnectPayload) : Output :=
  .text p.clientId ++ writeIf .text p.willTopic ++ writeIf .binary p.willMessage
    ++ writeIf .text p.userName ++ writeIf .binary p.password

/-- The number of bytes of an optional text field. -/
def textLength : Option String → Nat
  | none   => 0
  | some s => fieldLength s.utf8ByteSize

/-- The number of bytes of an optional binary field. -/
def binaryLength : Option Bytes → Nat
  | none    => 0
  | some bs => fieldLength bs.length

/-- The number of bytes of a payload. -/
def length (p : ConnectPayload) : Nat :=
  fieldLength p.clientId.utf8ByteSize + textLength p.willTopic + binaryLength p.willMessage
    + textLength p.userName + binaryLength p.password

end ConnectPayload

/-! ### Consistency -/

/-- Check what a reader of the packet would refuse: the protocol, the client identifier, and flags
that contradict each other or the payload. The first fault in this order is the one reported. -/
def ConnectHeader.check (h : ConnectHeader) (p : ConnectPayload) : Except EncodeError Unit :=
  if !isSupportedProtocol h.protocolName h.protocolLevel then
    .error (.unsupportedProtocol h.protocolName h.protocolLevel)
  else if !isAcceptableClientId h.protocolLevel p.clientId then
    .error .invalidClientId
  else if h.hasUserName != p.userName.isSome then
    .error (.inconsistentConnectFlags .userNameFlag)
  else if h.hasPassword != p.password.isSome then
    .error (.inconsistentConnectFlags .passwordFlag)
  else if h.hasPassword && !h.hasUserName then
    .error (.inconsistentConnectFlags .passwordWithoutUserName)
  else if h.hasWill != p.willTopic.isSome || h.hasWill != p.willMessage.isSome then
    .error (.inconsistentConnectFlags .willFlag)
  else if !hasConsistentWill h.hasWill h.willRetain h.willQoS then
    .error (.inconsistentConnectFlags .willOptionsWithoutWill)
  else .ok ()

end Mqtt
