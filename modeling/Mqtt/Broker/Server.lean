import Mqtt.Broker.Session

/-!
# Server

A broker together with the sessions of its clients. After every step of a client everything runs
until nothing moves: the events a session submits are handled in order, and what comes into an
outbox is written to its client. A session writes nothing of its own while it is still submitting
the packets of a chunk; the other sessions do.
-/

namespace Mqtt

/-! ### Clients -/

/-- A client and the session that serves it. -/
structure Client where
  session : Session
  /-- Whether the client may still write. -/
  isWriting : Bool
  /-- Bytes written to the client that have not been reported yet. -/
  unread : Bytes
  /-- Whether the end of the session has been reported. -/
  isReported : Bool
deriving DecidableEq

/-- What a client has seen since the last report. -/
structure News where
  /-- Place of the client in the order in which they came, from 0. -/
  client : Nat
  bytes : Bytes
  /-- Whether the session has ended, now or before. -/
  isEnded : Bool
  /-- Whether the session has ended since the last report. -/
  endedNow : Bool
deriving DecidableEq

namespace Client

/-- A client on a newly opened connection. -/
def new (c : ConnectionId) : Client := ⟨.new c, true, [], false⟩

/-- Let the session react to an input; the events are those it submits. -/
def react (client : Client) (input : Session.Input) : Client × List Event :=
  let (session, reaction) := client.session.react input
  ({ client with session := session, unread := client.unread ++ reaction.written }, reaction.events)

/-- Let the session react to inputs in order. -/
def reactAll (client : Client) : List Session.Input → Client × List Event
  | []              => (client, [])
  | input :: inputs =>
    let (client, events) := client.react input
    let (client, more) := client.reactAll inputs
    (client, events ++ more)

/-- The news of the client in place `i`. -/
def news (i : Nat) (client : Client) : News :=
  ⟨i, client.unread, client.session.isEnded, client.session.isEnded && !client.isReported⟩

/-- The same client once its news have been reported. -/
def reported (client : Client) : Client :=
  { client with unread := [], isReported := client.session.isEnded }

end Client

/-- Whether there is anything to report. -/
def News.isAny (news : News) : Bool := !news.bytes.isEmpty || news.endedNow

/-- State of the server; the clients are in the order in which they came. -/
structure Server where
  broker : Broker
  clients : List Client

namespace Server

/-- A server without clients. -/
def new (check : CredentialCheck) (maxQoS : QoS) : Server :=
  ⟨Broker.new check maxQoS, []⟩

/-! ### Running -/

/-- Submit events, each of which the broker handles before the next. -/
def submitAll (b : Broker) (events : List Event) : Broker :=
  events.foldl (fun b event =>
    match b.submit event with
    | .ok b    => b.settle
    | .error _ => b) b

/-- Let a session write what is in its outbox. -/
def flush (b : Broker) (client : Client) : Broker × Client :=
  if client.session.isEnded then (b, client)
  else
    let (b, drained) := b.receive client.session.connection
    let inputs := drained.items.map Session.Input.outbound
    let (client, events) :=
      client.reactAll (if drained.isEnded then inputs ++ [.endOfOutbox] else inputs)
    (submitAll b events, client)

/-- Let the sessions for which `may` holds write what is in their outboxes. -/
def flushAll (may : Client → Bool) (b : Broker) : List Client → Broker × List Client
  | []                => (b, [])
  | client :: clients =>
    let (b, client) := if may client then flush b client else (b, client)
    let (b, clients) := flushAll may b clients
    (b, client :: clients)

/-- Let the sessions for which `may` holds write. -/
def settle (may : Client → Bool) (server : Server) : Server :=
  let (b, clients) := flushAll may server.broker server.clients
  ⟨b, clients⟩

/-- Submit events of the session on `c`; after each of them the other sessions write. -/
def submitFrom (c : ConnectionId) (server : Server) (events : List Event) : Server :=
  events.foldl (fun server event =>
    settle (fun client => client.session.connection ≠ c)
      { server with broker := submitAll server.broker [event] }) server

/-- Let the session of client `i` react to an input, then run until nothing moves. -/
def input (i : Nat) (input : Session.Input) (server : Server) : Server :=
  match server.clients[i]? with
  | none        => server
  | some client =>
    let (client, events) := client.react input
    settle (fun _ => true) <|
      submitFrom client.session.connection { server with clients := server.clients.set i client }
        events

/-! ### Steps of clients -/

/-- A new client connects. -/
def connect (server : Server) : Server :=
  match server.broker.openConnection with
  | (b, .ok c)    => ⟨b.settle, server.clients ++ [.new c]⟩
  | (b, .error _) => ⟨b, server.clients⟩

/-- Whether client `i` can write. -/
def canWrite (server : Server) (i : Nat) : Bool :=
  match server.clients[i]? with
  | none        => false
  | some client => client.isWriting && !client.session.isEnded

/-- Client `i` writes a chunk, if it can. -/
def send (i : Nat) (chunk : Bytes) (server : Server) : Server :=
  if server.canWrite i then server.input i (.chunk chunk) else server

/-- Client `i` ends its stream, which it can do at any time. -/
def endStream (i : Nat) (server : Server) : Server :=
  let clients := server.clients.modify i fun client => { client with isWriting := false }
  input i .endOfStream { server with clients := clients }

/-- Report what the clients have seen since the last report. -/
def report (server : Server) : Server × List News :=
  ({ server with clients := server.clients.map Client.reported },
   (server.clients.mapIdx Client.news).filter News.isAny)

end Server

end Mqtt
