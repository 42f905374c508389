import Mqtt.Packet.Basic

/-!
# Wire form of a packet

The wire form of a packet is its fixed header, under the length that its body really has, and then
the body. It is put out whole or not at all.
-/

namespace Mqtt

namespace Body

/-- Write a list behind the packet identifier it belongs to; the list must have entries. -/
def writeEntries {α : Type} (kind : PacketKind) (id : UInt16) (entries : List α)
    (writeList : List α → Output) : Output :=
  if entries.isEmpty then .fail (.emptyPayload kind) else .word id ++ writeList entries

/-- Write a body. -/
def write : Body → Output
  | .connect h p =>
    match h.check p with
    | .error e => .fail e
    | .ok ()   => h.write ++ p.write
  | .connAck h => h.write
  | .publish h message => h.write ++ .of message
  | .pubAck id | .pubRec id | .pubRel id | .pubComp id | .unsubAck id => .word id
  | .subscribe id ss => writeEntries .subscribe id ss TopicSubscription.writeList
  | .subAck id codes => writeEntries .subAck id codes SubAckCode.writeList
  | .unsubscribe id filters => writeEntries .unsubscribe id filters TopicFilter.writeList
  | .pingReq | .pingResp | .disconnect => .of []

end Body

namespace Packet

/-- Whether a PUBLISH has a packet identifier exactly when its QoS is above 0. -/
def hasRightPacketId (packet : Packet) : Bool :=
  match packet.body with
  | .publish h _ => h.packetId.isSome == packet.header.qos.isAcknowledged
  | _            => true

/-- The header of a packet, under the length that the body really has. -/
def trueHeader (packet : Packet) : FixedHeader :=
  { packet.header with remainingLength := packet.body.length }

/-- The wire form of a packet. -/
def encode (packet : Packet) : Except EncodeError Bytes :=
  if packet.hasRightPacketId then (packet.trueHeader.write ++ packet.body.write).result
  else .error .invalidPacketId

/-- The wire form of a packet behind the bytes `before`, which are kept as they are if there is no
such form. -/
def encodeAfter (before : Bytes) (packet : Packet) : Output :=
  match packet.encode with
  | .ok bs   => .of (before ++ bs)
  | .error e => ⟨before, some e⟩

end Packet

end Mqtt
