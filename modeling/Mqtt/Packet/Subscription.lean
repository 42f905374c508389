import Mqtt.Packet.Kind
import Mqtt.Wire.Field

/-!
# SUBSCRIBE, SUBACK and UNSUBSCRIBE

The lists that make up the payloads of the subscription packets. A list takes the whole payload and
is never empty.
-/

namespace Mqtt

/-! ### Requested subscriptions -/

/-- A topic filter and the QoS requested for it. -/
structure TopicSubscription where
  filter : String
  qos : QoS
deriving DecidableEq

namespace TopicSubscription

/-- Read one entry: the filter, then the QoS in a byte of its own. -/
def reader : Reader TopicSubscription := do
  let filter ← Reader.text
  let b ← Reader.byte
  match QoS.ofLevel? b.toNat with
  | none     => Reader.fail .invalidQoSLevel
  | some qos => pure ⟨filter, qos⟩

theorem progress_reader : reader.Progress := by
  refine Reader.progress_text.bind fun filter => Reader.progress_byte.bounded.bind fun b => ?_
  split
  · exact Reader.bounded_fail _
  · exact Reader.bounded_pure _

/-- Read a list from exactly its bytes. -/
def readList (bs : Bytes) : Except DecodeError (List TopicSubscription) :=
  Reader.entries reader bs

/-- Write one entry. -/
def write (s : TopicSubscription) : Output :=
  .text s.filter ++ .byte (UInt8.ofNat s.qos.level)

/-- Write a list. -/
def writeList (ss : List TopicSubscription) : Output :=
  Output.concat write ss

/-- The number of bytes of an entry. -/
def length (s : TopicSubscription) : Nat :=
  fieldLength s.filter.utf8ByteSize + 1

/-- The number of bytes of a list. -/
def listLength (ss : List TopicSubscription) : Nat :=
  ss.foldr (fun s n => s.length + n) 0

end TopicSubscription

/-! ### Granted subscriptions -/

/-- Outcome of one requested subscription. -/
inductive SubAckCode where
  | granted (qos : QoS)
  | failure
deriving DecidableEq

namespace SubAckCode

/-- The outcome that a byte stands for. -/
def ofByte? (b : UInt8) : Option SubAckCode :=
  if b = 128 then some .failure else (QoS.ofLevel? b.toNat).map .granted

/-- The byte of an outcome. -/
def toByte : SubAckCode → UInt8
  | .granted qos => UInt8.ofNat qos.level
  | .failure     => 128

/-- The wording of an outcome. -/
def name : SubAckCode → String
  | .granted qos => "granted " ++ qos.name
  | .failure     => "failure"

/-- Read one outcome. -/
def reader : Reader SubAckCode := do
  let b ← Reader.byte
  match ofByte? b with
  | none      => Reader.fail .invalidQoSLevel
  | some code => pure code

theorem progress_reader : reader.Progress := by
  refine Reader.progress_byte.bind fun b => ?_
  split
  · exact Reader.bounded_fail _
  · exact Reader.bounded_pure _

/-- Read a list from exactly its bytes. -/
def readList (bs : Bytes) : Except DecodeError (List SubAckCode) :=
  Reader.entries reader bs

/-- Write a list. -/
def writeList (codes : List SubAckCode) : Output :=
  .of (codes.map toByte)

end SubAckCode

/-! ### Withdrawn filters -/

namespace TopicFilter

/-- Read a list of filters from exactly its bytes. -/
def readList (bs : Bytes) : Except DecodeError (List String) :=
  Reader.entries Reader.text bs

/-- Write a list of filters. -/
def writeList (filters : List String) : Output :=
  Output.concat .text filters

/-- The number of bytes of a list of filters. -/
def listLength (filters : List String) : Nat :=
  filters.foldr (fun filter n => fieldLength filter.utf8ByteSize + n) 0

end TopicFilter

end Mqtt
