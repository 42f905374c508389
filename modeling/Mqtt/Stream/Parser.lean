import Mqtt.Stream.Stage

/-!
# Parsers

A parser is a stage spelled out in fields: which part of a packet it waits for, the parts it has
read, and how many bytes the packet still lacks. The fields can say what no stage says, so a step
checks whatever it relies on. A part that is missing is reported, as malformed bytes are; a slice
that goes beyond the buffer, and a count of bytes below zero, abort the program.
-/

namespace Mqtt

/-- The part of a packet that a parser waits for. -/
inductive ParserState where
  | awaitingFixedHeader
  | awaitingVariableHeader
  | awaitingPayload
deriving DecidableEq

/-- Fields of a parser. -/
structure Parser where
  state : ParserState
  fixedHeader : Option FixedHeader
  variableHeader : Option VariableHeader
  /-- Bytes that the packet still lacks. -/
  owed : Nat
deriving DecidableEq

namespace Parser

/-- What a step reports. -/
inductive Report where
  | insufficient
  | advanced (used : Nat)
  | complete (packet : Packet) (used : Nat)
deriving DecidableEq

/-- Why a step fails. -/
inductive Failure where
  /-- The bytes are no packet. -/
  | malformed (e : DecodeError)
  /-- The fixed header of the packet has not been kept. -/
  | noFixedHeader
  /-- The variable header of the packet has not been kept. -/
  | noVariableHeader
deriving DecidableEq

/-- The wording of a failure. -/
def Failure.message : Failure → String
  | .malformed e      => e.message
  | .noFixedHeader    => "Invalid variable header: stage reached without a fixed header"
  | .noVariableHeader => "Invalid variable header: payload reached without a variable header"

/-- Why a step aborts the program. -/
inductive Abort where
  | sliceOutOfRange
  | negativeDifference
deriving DecidableEq

/-- What comes of a step that does not abort. -/
structure Outcome where
  after : Parser
  result : Except Failure Report

/-- The first `n` bytes, which must be there. -/
def slice (n : Nat) (bs : Bytes) : Except Abort Bytes :=
  if n ≤ bs.length then .ok (bs.take n) else .error .sliceOutOfRange

/-- What is left of `n` without `m`, which must not be more. -/
def minus (n m : Nat) : Except Abort Nat :=
  if m ≤ n then .ok (n - m) else .error .negativeDifference

/-- A parser that has been given nothing. -/
def new : Parser := ⟨.awaitingFixedHeader, none, none, 0⟩

/-- Drop what has been read of a packet. -/
def reset (_ : Parser) : Parser := new

/-- Whether `bs` is certainly too short for the part that is awaited. -/
def needsMoreData (bs : Bytes) (p : Parser) : Bool :=
  match p.state, p.fixedHeader with
  | .awaitingFixedHeader, _         => Bytes.shorterThan bs 2
  | .awaitingVariableHeader, some h =>
    Bytes.shorterThan bs (min (VariableHeader.minLength h bs) p.owed)
  | .awaitingPayload, _             => Bytes.shorterThan bs p.owed
  | .awaitingVariableHeader, none   => false

/-- Report the packet made of the parts, which took `used` more bytes. -/
def completeWith (h : FixedHeader) (vh : Option VariableHeader) (pl : Option Payload) (used : Nat)
    (p : Parser) : Outcome :=
  match Packet.ofParts h vh pl with
  | .error e   => ⟨p, .error (.malformed e)⟩
  | .ok packet => ⟨p.reset, .ok (.complete packet used)⟩

/-- Report a packet without payload. -/
def complete (vh : Option VariableHeader) (used : Nat) (p : Parser) : Outcome :=
  match p.fixedHeader with
  | none   => ⟨p, .error .noFixedHeader⟩
  | some h => p.completeWith h vh none used

/-- Read a fixed header. -/
def readFixedHeader (bs : Bytes) (p : Parser) : Outcome :=
  match FixedHeader.read bs with
  | .short       => ⟨p, .ok .insufficient⟩
  | .malformed e => ⟨p, .error (.malformed e)⟩
  | .done h used =>
    let p := { p with fixedHeader := some h, owed := h.remainingLength }
    if h.kind.hasVariableHeader then
      ⟨{ p with state := .awaitingVariableHeader }, .ok (.advanced used)⟩
    else if p.owed = 0 then p.complete none used
    else ⟨p, .error (.malformed .invalidPayloadBytes)⟩

/-- Read a variable header from no more bytes than the packet lacks. -/
def readVariableHeader (bs : Bytes) (p : Parser) : Except Abort Outcome :=
  match p.fixedHeader with
  | none   => .ok ⟨p, .error .noFixedHeader⟩
  | some h => do
    let window ← slice (min bs.length p.owed) bs
    match VariableHeader.read h window with
    | .short =>
      if window.length = p.owed then
        let fault := HeaderFault.doesNotFit h.kind h.remainingLength
        .ok ⟨p, .error (.malformed (.invalidVariableHeader fault))⟩
      else .ok ⟨p, .ok .insufficient⟩
    | .malformed e  => .ok ⟨p, .error (.malformed e)⟩
    | .done vh used => do
      let owed ← minus p.owed used
      let p := { p with owed := owed }
      if h.kind.hasPayload then
        .ok ⟨{ p with variableHeader := some vh, state := .awaitingPayload }, .ok (.advanced used)⟩
      else if p.owed = 0 then .ok (p.complete (some vh) used)
      else .ok ⟨p, .error (.malformed .invalidPayloadBytes)⟩

/-- Read a payload of all the bytes that the packet lacks. -/
def readPayload (bs : Bytes) (p : Parser) : Except Abort Outcome :=
  match p.fixedHeader, p.variableHeader with
  | none, _         => .ok ⟨p, .error .noFixedHeader⟩
  | some _, none    => .ok ⟨p, .error .noVariableHeader⟩
  | some h, some vh => do
    let p := { p with variableHeader := none }
    let bytes ← slice p.owed bs
    match Payload.read h vh bytes with
    | .error e => .ok ⟨p, .error (.malformed e)⟩
    | .ok pl   => .ok ({ p with owed := 0 }.completeWith h (some vh) (some pl) p.owed)

/-- After a failure reading starts over. -/
def Outcome.restart (outcome : Outcome) : Outcome :=
  match outcome.result with
  | .error _ => { outcome with after := outcome.after.reset }
  | .ok _    => outcome

/-- Read the part that is awaited from the front of `bs`, unless that is certainly too short. -/
def step (bs : Bytes) (p : Parser) : Except Abort Outcome :=
  if p.needsMoreData bs then .ok ⟨p, .ok .insufficient⟩
  else do
    let outcome ←
      match p.state with
      | .awaitingFixedHeader    => .ok (p.readFixedHeader bs)
      | .awaitingVariableHeader => p.readVariableHeader bs
      | .awaitingPayload        => p.readPayload bs
    .ok outcome.restart

/-! ### Calls -/

/-- What may be asked of a parser. -/
inductive Call where
  | step (buffer : Bytes)
  | reset
deriving DecidableEq

/-- The parser after a call. -/
def call (p : Parser) : Call → Except Abort Parser
  | .step buffer => (p.step buffer).map (·.after)
  | .reset       => .ok p.reset

/-- The parser after some calls. -/
def run (p : Parser) : List Call → Except Abort Parser
  | []            => .ok p
  | call :: calls => do
    let p ← p.call call
    p.run calls

end Parser

end Mqtt
