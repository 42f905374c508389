import Mqtt.Packet.Parts

/-!
# Control packets

A control packet is a fixed header and what follows it. The two are kept apart, so that a header may
say something else about the rest of the packet than the rest itself. Each of the constructors under
`Packet` works out the length that its header states from the parts it is given.
-/

namespace Mqtt

/-- What follows the fixed header of a control packet. -/
inductive Body where
  | connect (header : ConnectHeader) (payload : ConnectPayload)
  | connAck (header : ConnAckHeader)
  | publish (header : PublishHeader) (message : Bytes)
  | pubAck (id : UInt16)
  | pubRec (id : UInt16)
  | pubRel (id : UInt16)
  | pubComp (id : UInt16)
  | subscribe (id : UInt16) (subscriptions : List TopicSubscription)
  | subAck (id : UInt16) (codes : List SubAckCode)
  | unsubscribe (id : UInt16) (filters : List String)
  | unsubAck (id : UInt16)
  | pingReq
  | pingResp
  | disconnect
deriving DecidableEq

namespace Body

/-- The kind of packet that a body belongs to. -/
def kind : Body → PacketKind
  | .connect ..     => .connect
  | .connAck ..     => .connAck
  | .publish ..     => .publish
  | .pubAck ..      => .pubAck
  | .pubRec ..      => .pubRec
  | .pubRel ..      => .pubRel
  | .pubComp ..     => .pubComp
  | .subscribe ..   => .subscribe
  | .subAck ..      => .subAck
  | .unsubscribe .. => .unsubscribe
  | .unsubAck ..    => .unsubAck
  | .pingReq        => .pingReq
  | .pingResp       => .pingResp
  | .disconnect     => .disconnect

/-- The body of a packet that has nothing but a packet identifier. -/
def ofIdOnly? (body : UInt16 → Body) : Option VariableHeader → Option Payload → Option Body
  | some (.packetId id), none => some (body id)
  | _, _                      => none

/-- The body of a packet that ends with its fixed header. -/
def ofNothing? (body : Body) : Option VariableHeader → Option Payload → Option Body
  | none, none => some body
  | _, _       => none

/-- The body made of the parts of a packet of the given kind, if they are the parts it has. -/
def ofParts? (kind : PacketKind) (vh : Option VariableHeader) (p : Option Payload) : Option Body :=
  match kind with
  | .connect =>
    match vh, p with
    | some (.connect h), some (.connect p)         => some (.connect h p)
    | _, _                                         => none
  | .connAck =>
    match vh, p with
    | some (.connAck h), none                      => some (.connAck h)
    | _, _                                         => none
  | .publish =>
    match vh, p with
    | some (.publish h), some (.publish message)   => some (.publish h message)
    | _, _                                         => none
  | .subscribe =>
    match vh, p with
    | some (.packetId id), some (.subscribe ss)    => some (.subscribe id ss)
    | _, _                                         => none
  | .subAck =>
    match vh, p with
    | some (.packetId id), some (.subAck codes)    => some (.subAck id codes)
    | _, _                                         => none
  | .unsubscribe =>
    match vh, p with
    | some (.packetId id), some (.unsubscribe fs)  => some (.unsubscribe id fs)
    | _, _                                         => none
  | .pubAck     => ofIdOnly? .pubAck vh p
  | .pubRec     => ofIdOnly? .pubRec vh p
  | .pubRel     => ofIdOnly? .pubRel vh p
  | .pubComp    => ofIdOnly? .pubComp vh p
  | .unsubAck   => ofIdOnly? .unsubAck vh p
  | .pingReq    => ofNothing? .pingReq vh p
  | .pingResp   => ofNothing? .pingResp vh p
  | .disconnect => ofNothing? .disconnect vh p

/-- The number of bytes of a body. -/
def length : Body → Nat
  | .connect h p            => h.length + p.length
  | .connAck _              => ConnAckHeader.length
  | .publish h message      => h.length + message.length
  | .subscribe _ ss         => packetIdLength + TopicSubscription.listLength ss
  | .subAck _ codes         => packetIdLength + codes.length
  | .unsubscribe _ filters  => packetIdLength + TopicFilter.listLength filters
  | .pubAck _ | .pubRec _ | .pubRel _ | .pubComp _ | .unsubAck _ => packetIdLength
  | .pingReq | .pingResp | .disconnect => 0

end Body

/-- A control packet. -/
structure Packet where
  header : FixedHeader
  body : Body
deriving DecidableEq

namespace Packet

/-- The packet made of the parts that follow the fixed header `h`. -/
def ofParts (h : FixedHeader) (vh : Option VariableHeader) (p : Option Payload) :
    Except DecodeError Packet :=
  match Body.ofParts? h.kind vh p with
  | some body => .ok ⟨h, body⟩
  | none      => .error (.invalidVariableHeader (.mismatchedParts h.kind))

/-! ### Constructors -/

/-- A CONNECT of the given parts. -/
def connect (h : ConnectHeader) (p : ConnectPayload) : Packet :=
  ⟨FixedHeader.new .connect (h.length + p.length), .connect h p⟩

/-- A CONNACK. -/
def connAck (sessionPresent : Bool) (code : ConnectCode) : Packet :=
  ⟨FixedHeader.new .connAck ConnAckHeader.length, .connAck ⟨sessionPresent, code⟩⟩

/-- A PUBLISH; above QoS 0 it needs a packet identifier, and at QoS 0 it must have none. -/
def publish (topic : String) (qos : QoS) (packetId : Option UInt16) (message : Bytes) : Packet :=
  let h : PublishHeader := ⟨topic, packetId⟩
  ⟨{ FixedHeader.new .publish (h.length + message.length) with qos := qos }, .publish h message⟩

/-- The same packet with the retain flag as given. -/
def withRetain (retain : Bool) (packet : Packet) : Packet :=
  { packet with header.retain := retain }

/-- The same packet with the duplicate flag as given. -/
def withDup (dup : Bool) (packet : Packet) : Packet :=
  { packet with header.dup := dup }

/-- A packet that has nothing but a packet identifier behind its fixed header. -/
def ofId (kind : PacketKind) (body : UInt16 → Body) (id : UInt16) : Packet :=
  ⟨FixedHeader.new kind packetIdLength, body id⟩

/-- A PUBACK. -/
def pubAck (id : UInt16) : Packet := ofId .pubAck .pubAck id

/-- A PUBREC. -/
def pubRec (id : UInt16) : Packet := ofId .pubRec .pubRec id

/-- A PUBREL. -/
def pubRel (id : UInt16) : Packet := ofId .pubRel .pubRel id

/-- A PUBCOMP. -/
def pubComp (id : UInt16) : Packet := ofId .pubComp .pubComp id

/-- A SUBSCRIBE. -/
def subscribe (id : UInt16) (subscriptions : List TopicSubscription) : Packet :=
  ⟨FixedHeader.new .subscribe (packetIdLength + TopicSubscription.listLength subscriptions),
    .subscribe id subscriptions⟩

/-- A SUBACK. -/
def subAck (id : UInt16) (codes : List SubAckCode) : Packet :=
  ⟨FixedHeader.new .subAck (packetIdLength + codes.length), .subAck id codes⟩

/-- A SUBACK that grants every subscription. -/
def subAckGranted (id : UInt16) (levels : List QoS) : Packet :=
  subAck id (levels.map .granted)

/-- An UNSUBSCRIBE. -/
def unsubscribe (id : UInt16) (filters : List String) : Packet :=
  ⟨FixedHeader.new .unsubscribe (packetIdLength + TopicFilter.listLength filters),
    .unsubscribe id filters⟩

/-- An UNSUBACK. -/
def unsubAck (id : UInt16) : Packet := ofId .unsubAck .unsubAck id

/-- A PINGREQ. -/
def pingReq : Packet := ⟨FixedHeader.new .pingReq 0, .pingReq⟩

/-- A PINGRESP. -/
def pingResp : Packet := ⟨FixedHeader.new .pingResp 0, .pingResp⟩

/-- A DISCONNECT. -/
def disconnect : Packet := ⟨FixedHeader.new .disconnect 0, .disconnect⟩

end Packet

/-! ### Connection requests -/

/-- A CONNECT that is being put together, with the fixed header for the parts it has so far. -/
structure ConnectRequest where
  fixedHeader : FixedHeader
  header : ConnectHeader
  payload : ConnectPayload
deriving DecidableEq

namespace ConnectRequest

/-- The request that has the given parts. -/
def ofParts (h : ConnectHeader) (p : ConnectPayload) : ConnectRequest :=
  ⟨(Packet.connect h p).header, h, p⟩

/-- A clean session in version 3.1.1, without will and credentials. -/
def new (clientId : String) (keepAlive : UInt16) : ConnectRequest :=
  ofParts (ConnectHeader.new keepAlive) (ConnectPayload.new clientId)

/-- The same request with a will in place of the one it had. -/
def withWill (topic : String) (message : Bytes) (qos : QoS) (retain : Bool)
    (request : ConnectRequest) : ConnectRequest :=
  ofParts { request.header with hasWill := true, willQoS := qos, willRetain := retain }
    { request.payload with willTopic := some topic, willMessage := some message }

/-- The same request with credentials in place of those it had. -/
def withCredentials (userName : String) (password : Option Bytes) (request : ConnectRequest) :
    ConnectRequest :=
  ofParts { request.header with hasUserName := true, hasPassword := password.isSome }
    { request.payload with userName := some userName, password := password }

/-- The CONNECT that carries a request. -/
def packet (request : ConnectRequest) : Packet :=
  ⟨request.fixedHeader, .connect request.header request.payload⟩

end ConnectRequest

end Mqtt
