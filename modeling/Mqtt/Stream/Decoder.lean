import Mqtt.Stream.Stage

/-!
# Stream decoder

A decoder turns the chunks of one byte stream into packets. Chunks are cut anywhere; what is left of
one is kept for the next. While a packet is being delivered the receiver may hand further chunks to
the same decoder: these are queued, and read once everything before them has been. After an error
the decoder is closed for good, and drops what it is given.
-/

namespace Mqtt

/-- State of a decoder between chunks. -/
inductive Decoder where
  /-- Waiting at a stage, with the bytes of it that are there. -/
  | live (stage : Stage) (buffer : Bytes)
  | closed
deriving DecidableEq

/-- What a call made during a delivery gives back: it delivers nothing itself. -/
structure NestedCall where
  packets : List Packet
  error : Option DecodeError
  /-- Bytes in the decoder's buffer after the call. -/
  buffered : Nat
deriving DecidableEq

/-- A packet as it was delivered. -/
structure Delivery where
  packet : Packet
  /-- Bytes in the decoder's buffer when the packet was delivered. -/
  buffered : Nat
  /-- The calls made while it was being delivered. -/
  nested : List NestedCall
deriving DecidableEq

/-- What handing over one chunk gives back. -/
structure Received where
  decoder : Decoder
  deliveries : List Delivery
  error : Option DecodeError
deriving DecidableEq

/-- A decoder in the middle of reading. -/
structure Pass where
  stage : Stage
  buffer : Bytes
  /-- Chunks that arrived meanwhile, in order of arrival. -/
  pending : List Bytes

namespace Pass

/-- Queue a chunk that arrives during a delivery. -/
def arrive (pass : Pass) (chunk : Bytes) : Pass × NestedCall :=
  ({ pass with pending := pass.pending ++ [chunk] }, ⟨[], none, pass.buffer.length⟩)

/-- Queue the chunks that arrive during a delivery, in order. -/
def arriveAll (pass : Pass) : List Bytes → Pass × List NestedCall
  | []              => (pass, [])
  | chunk :: chunks =>
    let (pass, call) := pass.arrive chunk
    let (pass, calls) := pass.arriveAll chunks
    (pass, call :: calls)

/-- The pass after `used` bytes were taken and before `stage`. -/
def moveOn (pass : Pass) (stage : Stage) (used : Nat) : Pass :=
  { pass with stage := stage, buffer := pass.buffer.drop used }

theorem arriveAll_fst (pass : Pass) (chunks : List Bytes) :
    (pass.arriveAll chunks).1 = { pass with pending := pass.pending ++ chunks } := by
  induction chunks generalizing pass with
  | nil => simp [arriveAll]
  | cons chunk chunks ih => simp [arriveAll, arrive, ih]

/-- Read until the buffer is too short and no chunk is pending, or until an error. `arrivals` lists
the chunks that arrive during each of the coming deliveries, `delivered` what was delivered so far,
last first. -/
def run (pass : Pass) (arrivals : List (List Bytes)) (delivered : List Delivery) : Received :=
  match _hs : pass.stage.step pass.buffer with
  | .error e => ⟨.closed, delivered.reverse, some e⟩
  | .ok .insufficient =>
    match _hp : pass.pending with
    | []               => ⟨.live pass.stage pass.buffer, delivered.reverse, none⟩
    | chunk :: pending => run ⟨pass.stage, pass.buffer ++ chunk, pending⟩ arrivals delivered
  | .ok (.advanced next used) => run (pass.moveOn next used) arrivals delivered
  | .ok (.complete packet used) =>
    let after := pass.moveOn .fixedHeader used
    match arrivals with
    | []           => run after [] (⟨packet, after.buffer.length, []⟩ :: delivered)
    | now :: later =>
      run (after.arriveAll now).1 later
        (⟨packet, after.buffer.length, (after.arriveAll now).2⟩ :: delivered)
termination_by
  (pass.pending.length + arrivals.flatten.length, pass.stage.weight pass.buffer)
decreasing_by
  · apply Prod.Lex.left
    simp only [_hp, List.length_cons]
    omega
  · apply Prod.Lex.right
    exact Stage.step_advanced_lt _hs
  · apply Prod.Lex.right
    exact Stage.step_complete_lt _hs
  · rw [arriveAll_fst]
    simp only [moveOn, List.length_append, List.flatten_cons, Nat.add_assoc]
    apply Prod.Lex.right
    exact Stage.step_complete_lt _hs

end Pass

namespace Decoder

/-- A decoder that has been given nothing. -/
def new : Decoder := .live .fixedHeader []

/-- Whether an error has closed the decoder. -/
def isClosed : Decoder → Bool
  | .live .. => false
  | .closed  => true

/-- Bytes kept for the stage under construction. -/
def buffered : Decoder → Nat
  | .live _ buffer => buffer.length
  | .closed        => 0

/-- The stage the decoder waits at; an error puts it back to the first one. -/
def stage : Decoder → Stage
  | .live stage _ => stage
  | .closed       => .fixedHeader

/-- Hand over a chunk, while during the deliveries of its packets the chunks in `arrivals` arrive:
the first list during the first delivery, and so on. -/
def receiveWith (arrivals : List (List Bytes)) (chunk : Bytes) : Decoder → Received
  | .closed            => ⟨.closed, [], none⟩
  | .live stage buffer => Pass.run ⟨stage, buffer ++ chunk, []⟩ arrivals []

/-- Hand over a chunk. -/
def receive (chunk : Bytes) (decoder : Decoder) : Received :=
  decoder.receiveWith [] chunk

end Decoder

/-- The packets delivered, in order. -/
def Received.packets (r : Received) : List Packet :=
  r.deliveries.map (·.packet)

end Mqtt
