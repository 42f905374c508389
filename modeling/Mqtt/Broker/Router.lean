import Mqtt.Broker.Credentials
import Mqtt.Broker.Roster
import Mqtt.Broker.Subscriptions
import Mqtt.Packet.Encoding

/-!
# Router

The router decides what each packet of each connection brings about. It is a machine over events:
`step` gives the next state and the actions to take, in order. A connection has to open a session by
CONNECT before anything else; whatever breaks this rule, and whatever only a server may send, closes
the connection.
-/

namespace Mqtt

/-- How far a connection has come. -/
inductive Phase where
  | awaitingConnect
  | connected (clientId : String)
  /-- Closed by the router: what still arrives is dropped, until its end is reported. -/
  | closed
deriving DecidableEq

/-- What happens to a connection. -/
inductive Event where
  | opened (c : ConnectionId)
  | packet (c : ConnectionId) (packet : Packet)
  | closed (c : ConnectionId)
deriving DecidableEq

/-- The connection an event happens to. -/
def Event.connection : Event → ConnectionId
  | .opened c   => c
  | .packet c _ => c
  | .closed c   => c

/-- What the router wants done to a connection. -/
inductive Action where
  | send (c : ConnectionId) (packet : Packet)
  | close (c : ConnectionId)
deriving DecidableEq

/-- What goes out to a connection: the wire form of a packet, or the request to close. -/
inductive Transmission where
  | bytes (c : ConnectionId) (bytes : Bytes)
  | close (c : ConnectionId)
deriving DecidableEq

/-- The transmission that carries out an action; a packet without wire form is dropped. -/
def Action.transmission? : Action → Option Transmission
  | .send c packet =>
    match packet.encode with
    | .ok bs   => some (.bytes c bs)
    | .error _ => none
  | .close c       => some (.close c)

/-- State of the router. -/
structure Router where
  check : CredentialCheck
  /-- The highest QoS granted to a subscription. -/
  maxQoS : QoS
  phases : Roster Phase
  subscriptions : Subscriptions

namespace Router

/-- A router that knows no connection. -/
def new (check : CredentialCheck) (maxQoS : QoS) : Router :=
  ⟨check, maxQoS, [], .empty⟩

/-- How far `c` has come, if it is known. -/
def phase (r : Router) (c : ConnectionId) : Option Phase :=
  r.phases.find? c

/-- Whether `c` has opened a session. -/
def isConnected (r : Router) (c : ConnectionId) : Bool :=
  match r.phase c with
  | some (.connected _) => true
  | _                   => false

/-- Whether the router has closed `c` and waits for the report. -/
def isClosing (r : Router) (c : ConnectionId) : Bool :=
  r.phase c == some .closed

/-! ### Opening and closing -/

/-- Note a new connection. -/
def noteOpened (c : ConnectionId) (r : Router) : Router :=
  { r with phases := r.phases.set c .awaitingConnect }

/-- Forget a connection and its subscriptions. -/
def noteClosed (c : ConnectionId) (r : Router) : Router :=
  { r with
    phases := r.phases.remove c
    subscriptions := r.subscriptions.removeConnection c }

/-- Close a connection: its subscriptions end at once. -/
def shut (c : ConnectionId) (r : Router) : Router × List Action :=
  ({ r with
     phases := r.phases.modify c fun _ => .closed
     subscriptions := r.subscriptions.removeConnection c },
   [.close c])

/-! ### Requests -/

/-- Open a session if the credentials allow it, else refuse and close. A connection that is not
waiting for a CONNECT is left alone. -/
def connect (c : ConnectionId) (payload : ConnectPayload) (r : Router) : Router × List Action :=
  match r.phase c with
  | some .awaitingConnect =>
    if r.check (payload.userName.getD "") (payload.password.getD []) then
      ({ r with phases := r.phases.set c (.connected payload.clientId) },
       [.send c (.connAck false .accepted)])
    else
      let (r, actions) := r.shut c
      (r, .send c (.connAck false .badUserNameOrPassword) :: actions)
  | _ => (r, [])

/-- The QoS granted to a requested subscription. -/
def grantedQoS (r : Router) (s : TopicSubscription) : QoS := min s.qos r.maxQoS

/-- Record the subscriptions and acknowledge them in one packet. -/
def subscribe (c : ConnectionId) (id : UInt16) (requested : List TopicSubscription) (r : Router) :
    Router × List Action :=
  ({ r with
     subscriptions := requested.foldl (fun table s => table.subscribe s.filter c (r.grantedQoS s))
       r.subscriptions },
   [.send c (.subAck id (requested.map fun s => .granted (r.grantedQoS s)))])

/-- Remove the subscriptions and acknowledge. -/
def unsubscribe (c : ConnectionId) (id : UInt16) (filters : List String) (r : Router) :
    Router × List Action :=
  ({ r with
     subscriptions := filters.foldl (fun table t => table.unsubscribe t c) r.subscriptions },
   [.send c (.unsubAck id)])

/-! ### Messages -/

/-- Whether a message can be forwarded to `s`: above QoS 0 only with a packet identifier. -/
def isServed (packetId : Option UInt16) (s : Subscriber) : Bool :=
  !s.granted.isAcknowledged || packetId.isSome

/-- The QoS at which a message sent at `qos` is forwarded to `s`. -/
def forwardQoS (qos : QoS) (s : Subscriber) : QoS := min qos s.granted

/-- The packet that forwards a message to `s`. -/
def forward (qos : QoS) (h : PublishHeader) (message : Bytes) (s : Subscriber) : Packet :=
  let q := forwardQoS qos s
  .publish h.topic q (if q.isAcknowledged then h.packetId else none) message

/-- The weakest of some guarantees. -/
def weakest : List QoS → Option QoS
  | []      => none
  | q :: qs =>
    match weakest qs with
    | none   => some q
    | some p => some (min q p)

/-- The acknowledgement due to the sender of a message that was forwarded at the QoS in `levels`: it
is for the weakest of them, and for QoS 0 there is none. -/
def acknowledgement (packetId : Option UInt16) (levels : List QoS) : Option Packet :=
  match weakest levels, packetId with
  | some .atLeastOnce, some id => some (.pubAck id)
  | some .exactlyOnce, some id => some (.pubRec id)
  | _, _                       => none

/-- Acknowledge a message, then forward it to every subscriber of its topic, in order. -/
def publish (c : ConnectionId) (qos : QoS) (h : PublishHeader) (message : Bytes) (r : Router) :
    Router × List Action :=
  let served := (r.subscriptions.subscribers h.topic).filter (isServed h.packetId)
  let ack := acknowledgement h.packetId (served.map (forwardQoS qos))
  (r, (ack.map (Action.send c)).toList
    ++ served.map fun s => .send s.connection (forward qos h message s))

/-- Answer a PINGREQ. -/
def ping (c : ConnectionId) (r : Router) : Router × List Action :=
  (r, [.send c .pingResp])

/-! ### Steps -/

/-- Route a packet of a connection that has opened a session. -/
def serve (c : ConnectionId) (packet : Packet) (r : Router) : Router × List Action :=
  match packet.body with
  | .publish h message                                   => r.publish c packet.header.qos h message
  | .subscribe id requested                              => r.subscribe c id requested
  | .unsubscribe id filters                              => r.unsubscribe c id filters
  | .pingReq                                             => r.ping c
  | .pubAck _ | .pubRec _ | .pubRel _ | .pubComp _       => (r, [])
  | .connect ..                                          => r.shut c
  | .disconnect                                          => r.shut c
  | .connAck _ | .subAck .. | .unsubAck _ | .pingResp    => r.shut c

/-- Route a packet. Packets of connections that are closed or unknown are dropped. -/
def dispatch (c : ConnectionId) (packet : Packet) (r : Router) : Router × List Action :=
  match r.phase c with
  | none | some .closed => (r, [])
  | some (.connected _) => r.serve c packet
  | some .awaitingConnect =>
    match packet.body with
    | .connect _ payload => r.connect c payload
    | _                  => r.shut c

/-- Handle an event. -/
def step (r : Router) : Event → Router × List Action
  | .opened c        => (r.noteOpened c, [])
  | .packet c packet => r.dispatch c packet
  | .closed c        => (r.noteClosed c, [])

/-- Handle events in order; the actions are those of all of them. -/
def run (r : Router) : List Event → Router × List Action
  | []              => (r, [])
  | event :: events =>
    let (r, actions) := r.step event
    let (r, more) := r.run events
    (r, actions ++ more)

end Router

end Mqtt
