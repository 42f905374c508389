import Mqtt.Broker.Outbox
import Mqtt.Broker.Router

/-!
# Broker

The broker hands out connections, queues what happens to them, and lets the router handle the queue,
event by event. What the router sends goes into the outbox of the connection it is for.

The steps of clients (`openConnection`, `submit`, `receive`, `detach`) and of the broker itself
(`handleNext`) are apart, so that they can be taken in any order; `settle` lets the broker catch up.
-/

namespace Mqtt

/-- Why the broker refuses an event. -/
inductive BrokerError where
  | notRunning
deriving DecidableEq

/-- The wording of a broker error. -/
def BrokerError.message : BrokerError → String
  | .notRunning => "Broker is not running: channel closed"

/-- State of the broker. -/
structure Broker where
  router : Router
  ids : ConnectionIds
  outboxes : Roster Outbox
  /-- Events that the router has not handled yet, in order. -/
  events : List Event
  isRunning : Bool

/-- What a connection takes out of its outbox. -/
structure Drained where
  items : List Outbound
  /-- Whether nothing can come after the items. -/
  isEnded : Bool
deriving DecidableEq

namespace Broker

/-- A broker without connections. -/
def new (check : CredentialCheck) (maxQoS : QoS) : Broker :=
  ⟨Router.new check maxQoS, .new, [], [], true⟩

/-- The outbox of `c`, if it has been given one. -/
def outbox? (b : Broker) (c : ConnectionId) : Option Outbox :=
  b.outboxes.find? c

/-- Whether the broker still sends to `c`. -/
def isRegistered (b : Broker) (c : ConnectionId) : Bool :=
  match b.outbox? c with
  | some box => box.isOpen
  | none     => false

/-! ### Steps of clients -/

/-- Queue an event for the router. -/
def submit (event : Event) (b : Broker) : Except BrokerError Broker :=
  if b.isRunning then .ok { b with events := b.events ++ [event] } else .error .notRunning

/-- Open a connection: it gets an identifier and an outbox before the router hears of it. If the
router will never hear of it, nobody holds the receiving end of the outbox. -/
def openConnection (b : Broker) : Broker × Except BrokerError ConnectionId :=
  let (c, ids) := b.ids.generate
  let b := { b with ids := ids }
  match { b with outboxes := b.outboxes.set c .new }.submit (.opened c) with
  | .ok b    => (b, .ok c)
  | .error e => ({ b with outboxes := b.outboxes.set c Outbox.new.detach }, .error e)

/-- Take everything out of the outbox of `c`. -/
def receive (c : ConnectionId) (b : Broker) : Broker × Drained :=
  match b.outbox? c with
  | none     => (b, ⟨[], true⟩)
  | some box =>
    let (items, rest) := box.drain
    ({ b with outboxes := b.outboxes.set c rest }, ⟨items, !box.isOpen || !box.isAttached⟩)

/-- Whether the receiving end of the outbox of `c` is held. -/
def isAttached (b : Broker) (c : ConnectionId) : Bool :=
  match b.outbox? c with
  | some box => box.isAttached
  | none     => false

/-- Drop the receiving end of the outbox of `c`. -/
def detach (c : ConnectionId) (b : Broker) : Broker :=
  { b with outboxes := b.outboxes.modify c Outbox.detach }

/-- Stop the router for good. -/
def stop (b : Broker) : Broker := { b with events := [], isRunning := false }

/-! ### Steps of the router -/

/-- Put a transmission into the outbox it is for. -/
def transmit (outboxes : Roster Outbox) : Transmission → Roster Outbox
  | .bytes c bs => outboxes.modify c (Outbox.push (.packet bs))
  | .close c    => outboxes.modify c (Outbox.push .close)

/-- Let the router handle an event. Once it has handled the end of a connection, the broker stops
sending to it. -/
def handle (b : Broker) (event : Event) : Broker :=
  let (router, actions) := b.router.step event
  let outboxes := (actions.filterMap Action.transmission?).foldl transmit b.outboxes
  let outboxes :=
    match event with
    | .closed c => outboxes.modify c Outbox.hangUp
    | _         => outboxes
  { b with router := router, outboxes := outboxes }

/-- Let the router handle the first event of the queue. -/
def handleNext (b : Broker) : Broker :=
  match b.events with
  | []              => b
  | event :: events => { b with events := events }.handle event

/-- Let the router handle all events of the queue. -/
def settle (b : Broker) : Broker :=
  b.events.foldl handle { b with events := [] }

end Broker

end Mqtt
