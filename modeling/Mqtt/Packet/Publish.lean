import Mqtt.Wire.Field

/-!
# PUBLISH

The header of an application message: the topic, and a packet identifier above QoS 0. The message
itself is the rest of the packet and is not looked at.
-/

namespace Mqtt

/-- The number of bytes of a packet identifier. -/
def packetIdLength : Nat := 2

/-- Whether `c` stands for several names in a topic filter. -/
def isWildcard (c : Char) : Bool := c == '+' || c == '#'

/-- Topic and packet identifier of a PUBLISH. -/
structure PublishHeader where
  topic : String
  packetId : Option UInt16
deriving DecidableEq

namespace PublishHeader

/-- What is wrong with `topic` as the name of a topic, if anything is. -/
def topicFault? (topic : String) : Option HeaderFault :=
  if topic.isEmpty then some .emptyTopic
  else if topic.toList.any isWildcard then some (.wildcardTopic topic)
  else none

/-- Read the packet identifier if messages at `qos` carry one. -/
def readPacketId (qos : QoS) : Reader (Option UInt16) :=
  if qos.isAcknowledged then do
    let id ← Reader.word
    pure (some id)
  else pure none

/-- Read the header of a message at `qos`. -/
def read (qos : QoS) : Reader PublishHeader := do
  let topic ← Reader.text
  match topicFault? topic with
  | some fault => Reader.fail (.invalidVariableHeader fault)
  | none       => do
    let packetId ← readPacketId qos
    pure ⟨topic, packetId⟩

/-- Write the packet identifier if there is one. -/
def writePacketId : Option UInt16 → Output
  | none    => .of []
  | some id => .word id

/-- Write a header. -/
def write (h : PublishHeader) : Output :=
  match topicFault? h.topic with
  | some _ => .fail (.invalidTopicName h.topic)
  | none   => .text h.topic ++ writePacketId h.packetId

/-- The number of bytes of a header. -/
def length (h : PublishHeader) : Nat :=
  fieldLength h.topic.utf8ByteSize + if h.packetId.isSome then packetIdLength else 0

/-- A bound from below on the bytes that the header at the front of a window takes. -/
def minLength (qos : QoS) (bs : Bytes) : Nat :=
  match Reader.peekLength bs with
  | none   => 2
  | some n => fieldLength n + if qos.isAcknowledged then packetIdLength else 0

theorem bounded_readPacketId (qos : QoS) : (readPacketId qos).Bounded := by
  unfold readPacketId
  split
  · exact Reader.progress_word.bounded.bind fun _ => Reader.bounded_pure _
  · exact Reader.bounded_pure _

theorem progress_read (qos : QoS) : (read qos).Progress := by
  refine Reader.progress_text.bind fun topic => ?_
  split
  · exact Reader.bounded_fail _
  · exact (bounded_readPacketId qos).bind fun _ => Reader.bounded_pure _

end PublishHeader

end Mqtt
