import Mqtt.Packet.Kind
import Mqtt.Text.Quoted

/-!
# Errors

Why a byte stream holds no packet, and why a packet has no wire form. Each cause is one
constructor, and its wording is given by `message`.
-/

namespace Mqtt

/-- What is wrong with a variable header. -/
inductive HeaderFault where
  | reservedConnectFlag
  | willOptionsWithoutWill
  | passwordWithoutUserName
  | reservedAcknowledgeFlags
  | emptyTopic
  | wildcardTopic (topic : String)
  | noVariableHeader (kind : PacketKind)
  | noPayload (kind : PacketKind)
  | mismatchedParts (kind : PacketKind)
  | doesNotFit (kind : PacketKind) (remainingLength : Nat)
deriving DecidableEq

/-- The wording of a header fault. -/
def HeaderFault.message : HeaderFault → String
  | .reservedConnectFlag      => "reserved connect flag is set"
  | .willOptionsWithoutWill   => "will qos and retain require the will flag"
  | .passwordWithoutUserName  => "password flag set without user name flag"
  | .reservedAcknowledgeFlags => "reserved connect acknowledge flags are set"
  | .emptyTopic               => "topic name is required"
  | .wildcardTopic topic      => "topic name contains wildcards: " ++ topic
  | .noVariableHeader kind    => kind.name ++ " has no variable header"
  | .noPayload kind           => kind.name ++ " has no payload"
  | .mismatchedParts kind     => "parts do not match a " ++ kind.name ++ " packet"
  | .doesNotFit kind n        =>
    kind.name ++ " variable header does not fit in remaining length " ++ toString n

/-- Why bytes cannot be turned into a packet. Running out of bytes is not among the causes. -/
inductive DecodeError where
  /-- The high half of the first byte is no packet kind. -/
  | invalidMessageType (code : Nat)
  /-- A QoS is out of range, or not the one its packet kind requires. -/
  | invalidQoSLevel
  /-- The remaining length does not end within four bytes. -/
  | remainingLengthExceeded
  /-- A CONNECT names a protocol other than 3.1.1 and 3.1. -/
  | protocolVersionMismatch (name : String) (level : UInt8)
  /-- The client identifier is not acceptable at its protocol level. -/
  | invalidClientId
  /-- The variable header is malformed. -/
  | invalidVariableHeader (fault : HeaderFault)
  /-- The payload is empty, cut off, or goes on after its last field. -/
  | invalidPayloadBytes
  /-- A text is not UTF-8 or contains U+0000. -/
  | invalidUtf8String
deriving DecidableEq

/-- The wording of a decode error. -/
def DecodeError.message : DecodeError → String
  | .invalidMessageType code     => "Invalid message type: " ++ toString code
  | .invalidQoSLevel             => "Invalid QoS level"
  | .remainingLengthExceeded     => "Remaining length exceeded"
  | .protocolVersionMismatch name level =>
    "Protocol version mismatch: (" ++ name ++ ", " ++ toString level.toNat ++ ")"
  | .invalidClientId             => "Invalid client identifier"
  | .invalidVariableHeader fault => "Invalid variable header: " ++ fault.message
  | .invalidPayloadBytes         => "Invalid payload bytes"
  | .invalidUtf8String           => "Invalid UTF-8 string"

/-- How the flags of a CONNECT contradict each other or its payload. -/
inductive ConnectFault where
  | userNameFlag
  | passwordFlag
  | passwordWithoutUserName
  | willFlag
  | willOptionsWithoutWill
deriving DecidableEq

/-- The wording of a contradiction between connect flags. -/
def ConnectFault.message : ConnectFault → String
  | .userNameFlag            => "user name flag does not match the payload"
  | .passwordFlag            => "password flag does not match the payload"
  | .passwordWithoutUserName => "password without user name"
  | .willFlag                => "will flag does not match the payload"
  | .willOptionsWithoutWill  => "will qos and retain require the will flag"

/-- Why a packet cannot be written. -/
inductive EncodeError where
  /-- A text or binary field is longer than its two-byte length can say. -/
  | exceedsMaxStringLength (length : Nat)
  /-- The packet is longer than the remaining length can say. -/
  | remainingLengthExceeded (length : Nat)
  /-- A PUBLISH has a packet identifier at QoS 0, or none above it. -/
  | invalidPacketId
  /-- The fixed header is not at the QoS its packet kind requires. -/
  | invalidQoSLevel
  /-- A CONNECT names a protocol other than 3.1.1 and 3.1. -/
  | unsupportedProtocol (name : String) (level : UInt8)
  /-- The client identifier is not acceptable at its protocol level. -/
  | invalidClientId
  /-- The flags of a CONNECT contradict each other or its payload. -/
  | inconsistentConnectFlags (fault : ConnectFault)
  /-- The topic of a PUBLISH is empty or contains wildcards. -/
  | invalidTopicName (topic : String)
  /-- A packet that lists entries lists none. -/
  | emptyPayload (kind : PacketKind)
  /-- A text contains U+0000. -/
  | invalidUtf8String
deriving DecidableEq

/-- The wording of an encode error. -/
def EncodeError.message : EncodeError → String
  | .exceedsMaxStringLength n  => "Exceeds max string length: " ++ toString n ++ " bytes"
  | .remainingLengthExceeded n => "Remaining length exceeded: " ++ toString n ++ " bytes"
  | .invalidPacketId           => "Packet id does not match QoS"
  | .invalidQoSLevel           => "Invalid QoS level"
  | .unsupportedProtocol name level =>
    "Unsupported protocol: (" ++ name ++ ", " ++ toString level.toNat ++ ")"
  | .invalidClientId           => "Invalid client identifier"
  | .inconsistentConnectFlags fault => "Inconsistent connect flags: " ++ fault.message
  | .invalidTopicName topic    => "Invalid topic name: " ++ Text.quote topic
  | .emptyPayload kind         => kind.name ++ " without entries"
  | .invalidUtf8String         => "Invalid UTF-8 string"

end Mqtt
