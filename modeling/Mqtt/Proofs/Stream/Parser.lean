import Mqtt.Proofs.Packet.Faults
import Mqtt.Proofs.Packet.Lengths
import Mqtt.Stream.Parser

/-!
# Parsers in order

A parser that is only ever stepped and reset spells out a stage, whatever the buffers hold: it steps
as the stage does (`Parser.step_toParser`), so that no slice goes out of range and no count of bytes
goes below zero. Of all the stages it only comes to those whose parts belong together
(`Stage.Coherent`), and there nobody asks for a part that does not exist. `Parser.shaped_of_run`
puts this together for any sequence of calls.
-/

namespace Mqtt

/-! ### Stages in fields -/

/-- What a step reports, without the stage that follows. -/
def Step.report : Step → Parser.Report
  | .insufficient         => .insufficient
  | .advanced _ used      => .advanced used
  | .complete packet used => .complete packet used

namespace Stage

/-- The parser that waits at a stage. -/
def toParser : Stage → Parser
  | .fixedHeader       => .new
  | .variableHeader h  => ⟨.awaitingVariableHeader, some h, none, h.remainingLength⟩
  | .payload h vh owed => ⟨.awaitingPayload, some h, some vh, owed⟩

/-- What a step from a stage comes to, in fields. -/
def outcome (stage : Stage) (result : Except DecodeError Step) : Parser.Outcome :=
  ⟨(stage.next result).toParser, (result.map Step.report).mapError .malformed⟩

end Stage

namespace Parser

variable {p : Parser} {stage : Stage} {bs : Bytes}

lemma slice_of_le {n : Nat} (h : n ≤ bs.length) : slice n bs = .ok (bs.take n) := if_pos h

lemma minus_of_le {n m : Nat} (h : m ≤ n) : minus n m = .ok (n - m) := if_pos h

lemma needsMoreData_toParser : stage.toParser.needsMoreData bs = stage.needsMoreData bs := by
  cases stage <;> rfl

lemma restart_completeWith {h : FixedHeader} {vh : Option VariableHeader} {pl : Option Payload}
    {used : Nat} :
    (p.completeWith h vh pl used).restart = stage.outcome (Stage.finish h vh pl used) := by
  rw [completeWith, Stage.finish]
  cases Packet.ofParts h vh pl <;> rfl

lemma restart_readFixedHeader :
    (new.readFixedHeader bs).restart = Stage.fixedHeader.outcome (Stage.decodeFixedHeader bs) := by
  rw [readFixedHeader, Stage.decodeFixedHeader]
  cases FixedHeader.read bs with
  | short => rfl
  | malformed e => rfl
  | done h used =>
    dsimp only
    split
    · rfl
    · split
      · exact restart_completeWith
      · rfl

/-- The bytes that are counted off are in the window, which has no more than are owed. -/
lemma readVariableHeader_toParser (h : FixedHeader) (bs : Bytes) :
    ∃ outcome, (Stage.variableHeader h).toParser.readVariableHeader bs = .ok outcome ∧
      outcome.restart = (Stage.variableHeader h).outcome (Stage.decodeVariableHeader h bs) := by
  have hwindow : slice (min bs.length h.remainingLength) bs = .ok (bs.take h.remainingLength) := by
    rw [slice_of_le (Nat.min_le_left ..), Nat.min_comm, ← List.take_eq_take_min]
  simp only [readVariableHeader, Stage.toParser, hwindow, Stage.decodeVariableHeader, bind,
    Except.bind]
  cases hr : VariableHeader.read h (bs.take h.remainingLength) with
  | short =>
    by_cases hw : (bs.take h.remainingLength).length = h.remainingLength
    · rw [if_pos hw]
      exact ⟨_, if_pos hw, rfl⟩
    · rw [if_neg hw]
      exact ⟨_, if_neg hw, rfl⟩
  | malformed e => exact ⟨_, rfl, rfl⟩
  | done vh used =>
    have hused : used ≤ (bs.take h.remainingLength).length :=
      (VariableHeader.progress_read h _ _ _ hr).2
    have hle : used ≤ h.remainingLength := Nat.le_trans hused (List.length_take_le ..)
    simp only [minus_of_le hle]
    split
    · exact ⟨_, rfl, rfl⟩
    · split
      · exact ⟨_, rfl, restart_completeWith⟩
      · exact ⟨_, rfl, rfl⟩

lemma readPayload_toParser (h : FixedHeader) (vh : VariableHeader) {owed : Nat}
    (ho : owed ≤ bs.length) :
    ∃ outcome, (Stage.payload h vh owed).toParser.readPayload bs = .ok outcome ∧
      outcome.restart = (Stage.payload h vh owed).outcome (Stage.decodePayload h vh owed bs) := by
  simp only [readPayload, Stage.toParser, slice_of_le ho, Stage.decodePayload, bind, Except.bind]
  cases Payload.read h vh (bs.take owed) with
  | error e => exact ⟨_, rfl, rfl⟩
  | ok pl => exact ⟨_, rfl, restart_completeWith⟩

/-- A parser that waits at a stage does as the stage does, and never aborts. -/
theorem step_toParser (stage : Stage) (bs : Bytes) :
    stage.toParser.step bs = .ok (stage.outcome (stage.step bs)) := by
  rw [step, needsMoreData_toParser, Stage.step]
  cases hn : stage.needsMoreData bs with
  | true => rfl
  | false =>
    rw [if_neg Bool.false_ne_true, if_neg Bool.false_ne_true]
    cases stage with
    | fixedHeader => exact congrArg Except.ok restart_readFixedHeader
    | variableHeader h =>
      obtain ⟨outcome, hread, hrestart⟩ := readVariableHeader_toParser h bs
      rw [Stage.decode, ← hrestart]
      exact congrArg (fun x => x >>= fun outcome => .ok outcome.restart) hread
    | payload h vh owed =>
      have ho : owed ≤ bs.length := by
        simpa [Stage.needsMoreData, Bytes.shorterThan_iff, ← Bool.not_eq_true] using hn
      obtain ⟨outcome, hread, hrestart⟩ := readPayload_toParser h vh ho
      rw [Stage.decode, ← hrestart]
      exact congrArg (fun x => x >>= fun outcome => .ok outcome.restart) hread

end Parser

/-! ### Parts that belong together -/

namespace Stage

variable {stage : Stage} {bs : Bytes} {h : FixedHeader} {vh : VariableHeader}

/-- The parts that have been read belong together, and the bytes owed are those that they leave. -/
inductive Coherent : Stage → Prop where
  | fixedHeader : Coherent .fixedHeader
  | variableHeader {h : FixedHeader} (hv : h.kind.hasVariableHeader = true) :
      Coherent (.variableHeader h)
  | payload {h : FixedHeader} {vh : VariableHeader} {owed : Nat} (hp : h.kind.hasPayload = true)
      (hv : vh.Fits h) (ho : owed + vh.length = h.remainingLength) : Coherent (.payload h vh owed)

/-- A step goes on to a stage whose parts belong together, and blames nobody but the bytes. -/
def Orderly : Except DecodeError Step → Prop
  | .ok (.advanced next _) => next.Coherent
  | .ok _                  => True
  | .error e               => e.isInternal = false

lemma orderly_finish {vh : Option VariableHeader} {pl : Option Payload} {used : Nat}
    (hp : ∃ p, Packet.ofParts h vh pl = .ok p) : Orderly (finish h vh pl used) := by
  obtain ⟨p, hp⟩ := hp
  rw [finish, hp]
  trivial

lemma orderly_decodeFixedHeader : Orderly (decodeFixedHeader bs) := by
  rw [decodeFixedHeader]
  split <;> rename_i hr
  · trivial
  · exact FixedHeader.blamesBytes_read _ _ hr
  · split <;> rename_i hv
    · exact .variableHeader hv
    · split
      · exact orderly_finish (Packet.exists_ofParts_bare (Bool.eq_false_iff.mpr hv))
      · rfl

/-- The header that is read fits, and takes up as many bytes as it has. -/
lemma orderly_decodeVariableHeader (hv : h.kind.hasVariableHeader = true) :
    Orderly (decodeVariableHeader h bs) := by
  simp only [decodeVariableHeader]
  split <;> rename_i hr
  · split
    · rfl
    · trivial
  · exact VariableHeader.blamesBytes_read hv _ _ hr
  · rename_i vh used
    obtain ⟨hused, hfits, hwrite⟩ := (VariableHeader.recognizes_read h _ _ _).mp hr
    have hlength : used = vh.length := by
      rw [← vh.hasLength_write _ hwrite, List.length_take_of_le hused]
    have hle : used ≤ h.remainingLength := Nat.le_trans hused (List.length_take_le ..)
    split <;> rename_i hp
    · exact .payload hp hfits (by omega)
    · split
      · exact orderly_finish (Packet.exists_ofParts_header (Bool.eq_false_iff.mpr hp) hfits)
      · rfl

lemma orderly_decodePayload {owed : Nat} (hp : h.kind.hasPayload = true) (hv : vh.Fits h) :
    Orderly (decodePayload h vh owed bs) := by
  rw [decodePayload]
  split <;> rename_i hr
  · exact Payload.isInternal_of_read hp hv hr
  · exact orderly_finish (Packet.exists_ofParts_payload hv (Payload.read_eq_ok_iff.mp hr).1)

/-- From parts that belong together a step is orderly. -/
theorem Coherent.step (hs : stage.Coherent) (bs : Bytes) : Orderly (stage.step bs) := by
  rw [Stage.step]
  split
  · trivial
  · cases hs with
    | fixedHeader => exact orderly_decodeFixedHeader
    | variableHeader hv => exact orderly_decodeVariableHeader hv
    | payload hp hv ho => exact orderly_decodePayload hp hv

lemma Coherent.next (hs : stage.Coherent) (bs : Bytes) : (stage.next (stage.step bs)).Coherent := by
  have horderly := hs.step bs
  cases hstep : stage.step bs with
  | error e => exact .fixedHeader
  | ok s =>
    rw [hstep] at horderly
    cases s with
    | insufficient => exact hs
    | advanced next used => exact horderly
    | complete packet used => exact .fixedHeader

end Stage

/-! ### Calls -/

namespace Parser

variable {stage : Stage} {bs : Bytes}

/-- The three ways in which the fields of a parser may be filled. -/
inductive Shaped : Parser → Prop where
  | fixedHeader : Shaped ⟨.awaitingFixedHeader, none, none, 0⟩
  | variableHeader {h : FixedHeader} (hv : h.kind.hasVariableHeader = true) :
      Shaped ⟨.awaitingVariableHeader, some h, none, h.remainingLength⟩
  | payload {h : FixedHeader} {vh : VariableHeader} {owed : Nat} (hp : h.kind.hasPayload = true)
      (hv : vh.Fits h) (ho : owed + vh.length = h.remainingLength) :
      Shaped ⟨.awaitingPayload, some h, some vh, owed⟩

/-- What may come of a step of `p` on `bs`. -/
inductive Safe (p : Parser) (bs : Bytes) : Outcome → Prop where
  /-- Nothing has changed. -/
  | insufficient : Safe p bs ⟨p, .ok .insufficient⟩
  | advanced {after : Parser} {used : Nat} (hpos : 0 < used) (hle : used ≤ bs.length) :
      Safe p bs ⟨after, .ok (.advanced used)⟩
  | complete {packet : Packet} {used : Nat} (hle : used ≤ bs.length) :
      Safe p bs ⟨new, .ok (.complete packet used)⟩
  /-- No part is missing, and none has been asked for that does not exist. -/
  | malformed {e : DecodeError} (he : e.isInternal = false) : Safe p bs ⟨new, .error (.malformed e)⟩

lemma shaped_toParser (hs : stage.Coherent) : stage.toParser.Shaped := by
  cases hs with
  | fixedHeader => exact .fixedHeader
  | variableHeader hv => exact .variableHeader hv
  | payload hp hv ho => exact .payload hp hv ho

lemma safe_outcome (hs : stage.Coherent) (bs : Bytes) :
    Safe stage.toParser bs (stage.outcome (stage.step bs)) := by
  have horderly := hs.step bs
  cases hstep : stage.step bs with
  | error e =>
    rw [hstep] at horderly
    exact .malformed horderly
  | ok s =>
    have htaken := Stage.taken_step hstep
    cases s with
    | insufficient => exact .insufficient
    | advanced next used => exact .advanced htaken.1 htaken.2
    | complete packet used => exact .complete htaken.1

lemma exists_stage_of_run (hs : stage.Coherent) (calls : List Call) :
    ∃ last : Stage, last.Coherent ∧ stage.toParser.run calls = .ok last.toParser := by
  induction calls generalizing stage with
  | nil => exact ⟨stage, hs, rfl⟩
  | cons c calls ih =>
    rw [run]
    cases c with
    | reset => exact ih .fixedHeader
    | step buffer =>
      rw [call, step_toParser]
      exact ih (hs.next buffer)

/-- However a new parser is stepped and reset, its fields are in order, and a further step on
whatever buffer neither aborts nor gets them out of order: it does what the stage that they spell
out does, takes no more than there is, keeps its state if it waits, and else starts over unless
there is more to read of the packet. -/
theorem shaped_of_run (calls : List Call) : ∃ stage : Stage,
    new.run calls = .ok stage.toParser ∧ stage.toParser.Shaped ∧
      ∀ bs, ∃ outcome, stage.toParser.step bs = .ok outcome ∧
        outcome = stage.outcome (stage.step bs) ∧ outcome.after.Shaped ∧
        Safe stage.toParser bs outcome := by
  obtain ⟨stage, hs, hrun⟩ := exists_stage_of_run .fixedHeader calls
  refine ⟨stage, hrun, shaped_toParser hs, fun bs => ?_⟩
  exact ⟨_, step_toParser stage bs, rfl, shaped_toParser (hs.next bs), safe_outcome hs bs⟩

/-- A PUBLISH comes in two pieces; then a payload is awaited that the second piece does not end. -/
example : let publish : Bytes := [0x32, 0x08, 0x00, 0x01, 0x61, 0x00, 0x05, 0xAA, 0xBB, 0xCC]
    new.run [.step publish, .step (publish.drop 2), .step [0xAA]] =
      .ok ⟨.awaitingPayload, some ⟨.publish, false, .atLeastOnce, false, 8⟩,
        some (.publish ⟨"a", some 5⟩), 3⟩ := rfl

end Parser

end Mqtt
