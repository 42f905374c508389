import Mqtt.Packet.Kind
import Mqtt.Wire.Field
import Mqtt.Wire.RemainingLength

/-!
# Fixed header

The part every control packet starts with: one byte with the kind and the flags, then the length
of the rest of the packet.
-/

namespace Mqtt

/-- First part of a control packet. -/
structure FixedHeader where
  kind : PacketKind
  dup : Bool
  qos : QoS
  retain : Bool
  remainingLength : Nat
deriving DecidableEq

namespace FixedHeader

/-- The header with the flags its kind requires and no others. -/
def new (kind : PacketKind) (remainingLength : Nat) : FixedHeader where
  kind := kind
  dup := false
  qos := if kind.requiresQoSOne then .atLeastOnce else .atMostOnce
  retain := false
  remainingLength := remainingLength

/-- Whether the QoS is the one the kind requires, if it requires one. -/
def hasRequiredQoS (kind : PacketKind) (qos : QoS) : Bool :=
  !kind.requiresQoSOne || qos == .atLeastOnce

/-- The header whose first byte is `b`, with nothing after it. -/
def ofFirstByte (b : UInt8) : Except DecodeError FixedHeader :=
  match PacketKind.ofCode? (b.toNat / 16) with
  | none      => .error (.invalidMessageType (b.toNat / 16))
  | some kind =>
    match QoS.ofLevel? (b.toNat / 2 % 4) with
    | none     => .error .invalidQoSLevel
    | some qos =>
      if hasRequiredQoS kind qos then
        .ok ⟨kind, b.toNat.testBit 3, qos, b.toNat.testBit 0, 0⟩
      else .error .invalidQoSLevel

/-- The kind and the flags in one byte. -/
def firstByte (h : FixedHeader) : UInt8 :=
  UInt8.ofNat (h.kind.code * 16 + h.dup.toNat * 8 + h.qos.level * 2 + h.retain.toNat)

/-- Read a fixed header. -/
def read : Reader FixedHeader := do
  let b ← Reader.byte
  match ofFirstByte b with
  | .error e => Reader.fail e
  | .ok h    => do
    let n ← RemainingLength.read
    pure { h with remainingLength := n }

/-- Write a fixed header. -/
def write (h : FixedHeader) : Output :=
  if hasRequiredQoS h.kind h.qos then .byte h.firstByte ++ RemainingLength.write h.remainingLength
  else .fail .invalidQoSLevel

/-- The number of bytes of a fixed header. -/
def length (h : FixedHeader) : Nat :=
  1 + RemainingLength.digitCount h.remainingLength

theorem progress_read : read.Progress := by
  refine Reader.progress_byte.bind fun b => ?_
  split
  · exact Reader.bounded_fail _
  · exact RemainingLength.bounded_read.bind fun _ => Reader.bounded_pure _

end FixedHeader

end Mqtt
