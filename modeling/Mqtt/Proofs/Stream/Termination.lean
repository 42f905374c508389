import Mqtt.Proofs.Packet.FixedHeader
import Mqtt.Proofs.Stream.Reentrancy

/-!
# Reading ends

The loop that reads a buffer has no other way out than a step that finds too little or an error, and
a turn of it may take nothing at all: a payload may be empty. What every turn lowers is
`Stage.weight`, twice the bytes buffered and one more where a payload is awaited, so that the loop
comes to its end after no more turns than that (`Stage.ends`).

How many packets there are is another matter. Each of them starts with a fixed header of two bytes
at least, and a packet whose fixed header has been read keeps these in hand until it is complete.
Counted in this way no turn delivers more than it is paid for (`Stage.pays_step`), whatever the
chunks are and whenever they arrive. `reading_ends` puts this together.
-/

namespace Mqtt

namespace Stage

variable {stage next last : Stage} {bs rest : Bytes} {used n : Nat} {delivered : Option Packet}
  {packets : List Packet}

/-! ### Turns of the loop -/

/-- From a stage at the front of `bs` the loop takes `used` bytes, delivers a packet or none, and
goes on to the next stage. -/
inductive Turn (stage : Stage) (bs : Bytes) : Nat → Option Packet → Stage → Prop where
  | advanced {next : Stage} {used : Nat} (h : stage.step bs = .ok (.advanced next used)) :
      Turn stage bs used none next
  | complete {packet : Packet} {used : Nat} (h : stage.step bs = .ok (.complete packet used)) :
      Turn stage bs used (some packet) .fixedHeader

/-- After some turns, and with the packets they delivered, the loop is at another stage and in front
of what is left. -/
inductive Turns : Stage → Bytes → Nat → List Packet → Stage → Bytes → Prop where
  | none {stage : Stage} {bs : Bytes} : Turns stage bs 0 [] stage bs
  | cons {stage next last : Stage} {bs rest : Bytes} {used n : Nat} {delivered : Option Packet}
      {packets : List Packet} (h : Turn stage bs used delivered next)
      (ht : Turns next (bs.drop used) n packets last rest) :
      Turns stage bs (n + 1) (delivered.toList ++ packets) last rest

/-- The loop takes no further turn; the decoder is left as it is, or closed. -/
inductive Stopped (stage : Stage) (bs : Bytes) : Decoder → Option DecodeError → Prop where
  | insufficient (h : stage.step bs = .ok .insufficient) : Stopped stage bs (.live stage bs) none
  | malformed {e : DecodeError} (h : stage.step bs = .error e) : Stopped stage bs .closed (some e)

/-- Reading `bs` from a stage comes to an end. -/
structure Ends (stage : Stage) (bs : Bytes) : Prop where
  /-- A turn takes no more than there is, and brings the end nearer. -/
  turn : ∀ used delivered next, Turn stage bs used delivered next →
    used ≤ bs.length ∧ next.weight (bs.drop used) < stage.weight bs
  /-- Turns take bytes off the front, and there cannot be more of them than the weight says. -/
  turns : ∀ n packets last rest, Turns stage bs n packets last rest →
    rest <:+ bs ∧ n + last.weight rest ≤ stage.weight bs
  /-- Reading `bs` comes to what some turns deliver, and to how the loop stops after them. -/
  stops : ∃ n last rest, Turns stage bs n (stage.drain bs).packets last rest ∧
    Stopped last rest (stage.drain bs).decoder (stage.drain bs).error

lemma Turn.le_and_weight_lt (h : Turn stage bs used delivered next) :
    used ≤ bs.length ∧ next.weight (bs.drop used) < stage.weight bs := by
  cases h with
  | advanced h =>
    have ht : 0 < used ∧ used ≤ bs.length := taken_step h
    exact ⟨ht.2, step_advanced_lt h⟩
  | complete h => exact ⟨(taken_step h).1, step_complete_lt h⟩

lemma Turns.suffix_and_weight_le (h : Turns stage bs n packets last rest) :
    rest <:+ bs ∧ n + last.weight rest ≤ stage.weight bs := by
  induction h with
  | none => exact ⟨List.suffix_rfl, by omega⟩
  | cons h ht ih =>
    have hlt := h.le_and_weight_lt.2
    exact ⟨ih.1.trans (List.drop_suffix ..), by omega⟩

lemma exists_turns (stage : Stage) (bs : Bytes) : ∃ n last rest,
    Turns stage bs n (stage.drain bs).packets last rest ∧
      Stopped last rest (stage.drain bs).decoder (stage.drain bs).error := by
  induction stage, bs using drain_induction with
  | insufficient stage bs h =>
    rw [drain_insufficient h]
    exact ⟨0, stage, bs, .none, .insufficient h⟩
  | error stage bs e h =>
    rw [drain_error h]
    exact ⟨0, stage, bs, .none, .malformed h⟩
  | advanced stage bs next used h ih =>
    obtain ⟨n, last, rest, hturns, hstopped⟩ := ih
    rw [drain_advanced h]
    exact ⟨n + 1, last, rest, .cons (.advanced h) hturns, hstopped⟩
  | complete stage bs packet used h ih =>
    obtain ⟨n, last, rest, hturns, hstopped⟩ := ih
    rw [drain_complete h, Received.packets_behind]
    exact ⟨n + 1, last, rest, .cons (.complete h) hturns, hstopped⟩

lemma ends (stage : Stage) (bs : Bytes) : stage.Ends bs where
  turn _ _ _ h := h.le_and_weight_lt
  turns _ _ _ _ h := h.suffix_and_weight_le
  stops := exists_turns stage bs

/-! ### Two bytes for a packet -/

/-- What is in hand for the packet under construction: the two bytes that its fixed header has at
least, once this has been read. -/
def inHand : Stage → Nat
  | .fixedHeader => 0
  | _            => 2

lemma inHand_le (stage : Stage) : stage.inHand ≤ 2 := by
  cases stage <;> simp [inHand]

/-- What was in hand and the bytes that are taken pay for what is delivered, and for what is in hand
after that. -/
def Pays (stage : Stage) : Step → Prop
  | .insufficient       => True
  | .advanced next used => next.inHand ≤ stage.inHand + used
  | .complete _ used    => 2 ≤ stage.inHand + used

lemma pays_decodeFixedHeader {s : Step} (h : decodeFixedHeader bs = .ok s) :
    fixedHeader.Pays s := by
  rw [decodeFixedHeader] at h
  split at h <;> rename_i hr
  · cases h
    trivial
  · cases h
  · have htwo := FixedHeader.two_le_of_read hr
    split at h
    · cases h
      exact Nat.le_trans htwo (Nat.le_add_left ..)
    · split at h
      · obtain ⟨packet, rfl⟩ := finish_eq_ok h
        exact Nat.le_trans htwo (Nat.le_add_left ..)
      · cases h

/-- Behind the fixed header the two bytes are in hand already. -/
lemma pays_of_inHand (hs : stage.inHand = 2) (s : Step) : stage.Pays s := by
  cases s with
  | insufficient => trivial
  | advanced next used =>
    have hnext := next.inHand_le
    rw [Pays, hs]
    omega
  | complete packet used =>
    rw [Pays, hs]
    omega

lemma pays_step {s : Step} (h : stage.step bs = .ok s) : stage.Pays s := by
  cases stage with
  | fixedHeader =>
    rw [step] at h
    split at h
    · cases h
      trivial
    · exact pays_decodeFixedHeader h
  | variableHeader fh => exact pays_of_inHand rfl s
  | payload fh vh owed => exact pays_of_inHand rfl s

end Stage

namespace Decoder

/-- The bytes that a decoder keeps, and those it has in hand for the packet under construction. -/
def balance : Decoder → Nat
  | .live stage buffer => buffer.length + stage.inHand
  | .closed            => 0

end Decoder

lemma Stage.balance_drain_le (stage : Stage) (bs : Bytes) :
    2 * (stage.drain bs).packets.length + (stage.drain bs).decoder.balance ≤
      bs.length + stage.inHand := by
  induction stage, bs using drain_induction with
  | insufficient stage bs h =>
    rw [drain_insufficient h]
    exact Nat.le_of_eq (Nat.zero_add _)
  | error stage bs e h =>
    rw [drain_error h]
    exact Nat.zero_le _
  | advanced stage bs next used h ih =>
    have hpays : next.inHand ≤ stage.inHand + used := pays_step h
    have ht : 0 < used ∧ used ≤ bs.length := taken_step h
    rw [List.length_drop] at ih
    rw [drain_advanced h]
    omega
  | complete stage bs packet used h ih =>
    have hpays : 2 ≤ stage.inHand + used := pays_step h
    have hle : used ≤ bs.length := (taken_step h).1
    have hzero : fixedHeader.inHand = 0 := rfl
    rw [List.length_drop] at ih
    rw [drain_complete h, Received.packets_behind, Received.decoder_behind, List.length_append,
      List.length_map, List.length_singleton]
    omega

namespace Decoder

/-! ### Any number of calls -/

/-- What one call hands over: a chunk, and those that arrive while its packets are delivered. -/
structure Call where
  chunk : Bytes
  arrivals : List (List Bytes)

/-- What the call gives back. -/
def answer (decoder : Decoder) (call : Call) : Received :=
  decoder.receiveWith call.arrivals call.chunk

/-- The bytes that the call does hand over: chunks that are to arrive during later deliveries than
there are do not. -/
def handedOver (decoder : Decoder) (call : Call) : Bytes :=
  call.chunk ++ (arrivedDuring (decoder.answer call).deliveries.length call.arrivals).flatten

/-- The packets that are delivered over some calls. -/
def packetsOver (decoder : Decoder) : List Call → List Packet
  | []            => []
  | call :: calls =>
    (decoder.answer call).packets ++ (decoder.answer call).decoder.packetsOver calls

/-- The bytes that are handed over in some calls. -/
def bytesOver (decoder : Decoder) : List Call → Bytes
  | []            => []
  | call :: calls =>
    decoder.handedOver call ++ (decoder.answer call).decoder.bytesOver calls

lemma balance_receive_le (decoder : Decoder) (chunk : Bytes) :
    2 * (decoder.receive chunk).packets.length + (decoder.receive chunk).decoder.balance ≤
      decoder.balance + chunk.length := by
  cases decoder with
  | closed => exact Nat.zero_le _
  | live stage buffer =>
    have hdrain := stage.balance_drain_le (buffer ++ chunk)
    rw [List.length_append] at hdrain
    rw [receive_live, balance]
    omega

lemma balance_answer_le (decoder : Decoder) (call : Call) :
    2 * (decoder.answer call).packets.length + (decoder.answer call).decoder.balance ≤
      decoder.balance + (decoder.handedOver call).length := by
  have hagrees := decoder.receiveWith_agrees_receive call.arrivals call.chunk
  rw [answer, hagrees.packets, hagrees.decoder]
  exact decoder.balance_receive_le _

lemma packetsOver_le (decoder : Decoder) (calls : List Call) :
    2 * (decoder.packetsOver calls).length ≤
      decoder.balance + (decoder.bytesOver calls).length := by
  induction calls generalizing decoder with
  | nil => exact Nat.zero_le _
  | cons call calls ih =>
    have hcall := decoder.balance_answer_le call
    have hcalls := ih (decoder.answer call).decoder
    rw [packetsOver, bytesOver, List.length_append, List.length_append]
    omega

end Decoder

/-- From whatever stage a buffer is read, reading it ends. Every turn takes no more bytes than there
are and lowers the weight, and after no more turns than the weight the loop stops. However bytes are
cut into chunks and whenever they arrive, a new decoder delivers no more than one packet for each
two of them. -/
theorem reading_ends : (∀ (stage : Stage) (bs : Bytes), stage.Ends bs) ∧
    ∀ calls : List Decoder.Call,
      2 * (Decoder.new.packetsOver calls).length ≤ (Decoder.new.bytesOver calls).length := by
  refine ⟨Stage.ends, fun calls => ?_⟩
  have hle := Decoder.new.packetsOver_le calls
  have hnew : Decoder.new.balance = 0 := rfl
  omega

/-- The last turn of a PUBLISH without a message takes nothing. -/
example :
    let h : FixedHeader := ⟨.publish, false, .atMostOnce, false, 3⟩
    Stage.Turn (.payload h (.publish ⟨"a", none⟩) 0) [] 0 (some ⟨h, .publish ⟨"a", none⟩ []⟩)
      .fixedHeader := .complete rfl

end Mqtt
