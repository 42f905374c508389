import Mqtt.QoS

/-!
# Kinds of control packet

The fourteen control packets, their codes on the wire, and which parts each of them has.
-/

namespace Mqtt

/-- Kind of a control packet. -/
inductive PacketKind where
  | connect
  | connAck
  | publish
  | pubAck
  | pubRec
  | pubRel
  | pubComp
  | subscribe
  | subAck
  | unsubscribe
  | unsubAck
  | pingReq
  | pingResp
  | disconnect
deriving DecidableEq

namespace PacketKind

/-- The code of a kind in the high half of a packet's first byte. -/
def code : PacketKind → Nat
  | .connect     => 1
  | .connAck     => 2
  | .publish     => 3
  | .pubAck      => 4
  | .pubRec      => 5
  | .pubRel      => 6
  | .pubComp     => 7
  | .subscribe   => 8
  | .subAck      => 9
  | .unsubscribe => 10
  | .unsubAck    => 11
  | .pingReq     => 12
  | .pingResp    => 13
  | .disconnect  => 14

/-- The kind of a code; 0 and everything above 14 stand for none. -/
def ofCode? : Nat → Option PacketKind
  | 1  => some .connect
  | 2  => some .connAck
  | 3  => some .publish
  | 4  => some .pubAck
  | 5  => some .pubRec
  | 6  => some .pubRel
  | 7  => some .pubComp
  | 8  => some .subscribe
  | 9  => some .subAck
  | 10 => some .unsubscribe
  | 11 => some .unsubAck
  | 12 => some .pingReq
  | 13 => some .pingResp
  | 14 => some .disconnect
  | _  => none

/-- The name of a kind. -/
def name : PacketKind → String
  | .connect     => "CONNECT"
  | .connAck     => "CONNACK"
  | .publish     => "PUBLISH"
  | .pubAck      => "PUBACK"
  | .pubRec      => "PUBREC"
  | .pubRel      => "PUBREL"
  | .pubComp     => "PUBCOMP"
  | .subscribe   => "SUBSCRIBE"
  | .subAck      => "SUBACK"
  | .unsubscribe => "UNSUBSCRIBE"
  | .unsubAck    => "UNSUBACK"
  | .pingReq     => "PINGREQ"
  | .pingResp    => "PINGRESP"
  | .disconnect  => "DISCONNECT"

/-- Whether the fixed header of this kind must stand at QoS 1. -/
def requiresQoSOne : PacketKind → Bool
  | .pubRel | .subscribe | .unsubscribe => true
  | _                                   => false

/-- Whether a variable header follows the fixed header. -/
def hasVariableHeader : PacketKind → Bool
  | .pingReq | .pingResp | .disconnect => false
  | _                                  => true

/-- Whether a payload follows the variable header. -/
def hasPayload : PacketKind → Bool
  | .connect | .publish | .subscribe | .subAck | .unsubscribe => true
  | _                                                         => false

theorem ofCode?_code (k : PacketKind) : ofCode? k.code = some k := by
  cases k <;> rfl

theorem code_of_ofCode? {n : Nat} {k : PacketKind} (h : ofCode? n = some k) : k.code = n := by
  unfold ofCode? at h
  split at h <;> cases h <;> rfl

end PacketKind

end Mqtt
