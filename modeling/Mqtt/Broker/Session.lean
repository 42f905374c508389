import Mqtt.Broker.Basic
import Mqtt.Stream.Decoder

/-!
# Sessions

A session stands between one client and the broker. What the client writes goes through a decoder
and is submitted packet by packet; what the broker sends is written to the client. A session ends
when either side closes, or when the client writes something that is no packet, and then submits
the end of its connection, once.
-/

namespace Mqtt

/-- State of a session. -/
structure Session where
  connection : ConnectionId
  decoder : Decoder
  isEnded : Bool
deriving DecidableEq

namespace Session

/-- What may happen to a session. -/
inductive Input where
  /-- The client has written these bytes. -/
  | chunk (bytes : Bytes)
  /-- The client will write no more. -/
  | endOfStream
  /-- The broker has sent this. -/
  | outbound (item : Outbound)
  /-- The broker will send no more. -/
  | endOfOutbox
deriving DecidableEq

/-- What a session does. -/
structure Reaction where
  /-- Events submitted to the broker, in order. -/
  events : List Event
  /-- Bytes written to the client. -/
  written : Bytes
deriving DecidableEq

/-- A session over a newly opened connection. -/
def new (c : ConnectionId) : Session := ⟨c, .new, false⟩

/-- End a session, after submitting `events`. -/
def finish (s : Session) (events : List Event) : Session × Reaction :=
  ({ s with isEnded := true }, ⟨events ++ [.closed s.connection], []⟩)

/-- React to an input; an ended session does nothing. -/
def react (s : Session) (input : Input) : Session × Reaction :=
  if s.isEnded then (s, ⟨[], []⟩)
  else
    match input with
    | .chunk bytes =>
      let received := s.decoder.receive bytes
      let s := { s with decoder := received.decoder }
      let events := received.packets.map (Event.packet s.connection)
      match received.error with
      | none   => (s, ⟨events, []⟩)
      | some _ => s.finish events
    | .endOfStream             => s.finish []
    | .outbound (.packet bytes) => (s, ⟨[], bytes⟩)
    | .outbound .close         => s.finish []
    | .endOfOutbox             => s.finish []

end Session

end Mqtt
