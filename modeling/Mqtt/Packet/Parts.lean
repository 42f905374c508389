import Mqtt.Packet.ConnAck
import Mqtt.Packet.Connect
import Mqtt.Packet.FixedHeader
import Mqtt.Packet.Publish
import Mqtt.Packet.Subscription

/-!
# Parts of a packet

The two parts that may follow a fixed header: the variable header, which a reader finds from the
front of a window that may go on after it, and the payload, which takes up the rest of the packet.
-/

namespace Mqtt

/-! ### Variable headers -/

/-- Variable header of a packet. -/
inductive VariableHeader where
  | connect (header : ConnectHeader)
  | connAck (header : ConnAckHeader)
  | publish (header : PublishHeader)
  | packetId (id : UInt16)
deriving DecidableEq

namespace VariableHeader

/-- A bound from below on the bytes of the variable header at the front of a window. -/
def minLength (h : FixedHeader) (bs : Bytes) : Nat :=
  match h.kind with
  | .connect                           => ConnectHeader.minLength
  | .connAck                           => ConnAckHeader.length
  | .publish                           => PublishHeader.minLength h.qos bs
  | .pingReq | .pingResp | .disconnect => 0
  | _                                  => packetIdLength

/-- Read the variable header that follows `h`. -/
def read (h : FixedHeader) : Reader VariableHeader :=
  match h.kind with
  | .connect => do
    let header ← ConnectHeader.read
    pure (.connect header)
  | .connAck => do
    let header ← ConnAckHeader.read
    pure (.connAck header)
  | .publish => do
    let header ← PublishHeader.read h.qos
    pure (.publish header)
  | .pingReq | .pingResp | .disconnect =>
    Reader.fail (.invalidVariableHeader (.noVariableHeader h.kind))
  | _ => do
    let id ← Reader.word
    pure (.packetId id)

/-- Write a variable header. -/
def write : VariableHeader → Output
  | .connect header => header.write
  | .connAck header => header.write
  | .publish header => header.write
  | .packetId id    => .word id

/-- The number of bytes of a variable header. -/
def length : VariableHeader → Nat
  | .connect header => header.length
  | .connAck _      => ConnAckHeader.length
  | .publish header => header.length
  | .packetId _     => packetIdLength

theorem progress_read (h : FixedHeader) : (read h).Progress := by
  unfold read
  split
  · exact ConnectHeader.progress_read.bind fun _ => Reader.bounded_pure _
  · exact ConnAckHeader.progress_read.bind fun _ => Reader.bounded_pure _
  · exact (PublishHeader.progress_read h.qos).bind fun _ => Reader.bounded_pure _
  · intro bs a n hr; cases hr
  · intro bs a n hr; cases hr
  · intro bs a n hr; cases hr
  · exact Reader.progress_word.bind fun _ => Reader.bounded_pure _

end VariableHeader

/-! ### Payloads -/

/-- Payload of a packet. -/
inductive Payload where
  | connect (payload : ConnectPayload)
  | publish (message : Bytes)
  | subscribe (subscriptions : List TopicSubscription)
  | subAck (codes : List SubAckCode)
  | unsubscribe (filters : List String)
deriving DecidableEq

namespace Payload

/-- Read the payload that follows `h` and `vh` from exactly its bytes. -/
def read (h : FixedHeader) (vh : VariableHeader) (bs : Bytes) : Except DecodeError Payload :=
  match h.kind, vh with
  | .connect, .connect header => (ConnectPayload.read header bs).map .connect
  | .publish, _               => .ok (.publish bs)
  | .subscribe, _             => (TopicSubscription.readList bs).map .subscribe
  | .subAck, _                => (SubAckCode.readList bs).map .subAck
  | .unsubscribe, _           => (TopicFilter.readList bs).map .unsubscribe
  | kind, _                   => .error (.invalidVariableHeader (.noPayload kind))

end Payload

end Mqtt
