import Mqtt.Proofs.Packet.FixedHeader
import Mqtt.Proofs.Stream.Completion
import Mqtt.Proofs.Stream.Parser
import Mqtt.Proofs.Stream.Reentrancy

/-!
# Waiting for bytes

Before a parser reads a part it looks at the length of its buffer alone, and waits if that is
certainly too little. The bound it compares with is computed apart from the readers. It is none too
high: no part is read from fewer bytes (`FixedHeader.two_le_of_read`,
`VariableHeader.minLength_le_of_read`). Nor is the bound above what the packet lacks, so that nobody
waits for bytes that will not come. `precheck_settled` puts this together, and says what it
means for the bytes that a decoder keeps.
-/

namespace Mqtt

variable {bs : Bytes}

/-! ### Bounds on the parts -/

/-- The length that a text is written with can be looked up before the text is there. -/
lemma Reader.peekLength_of_text {s : String} {front : Bytes} (h : Output.text s = .of front)
    (rest : Bytes) : peekLength (front ++ rest) = some s.utf8ByteSize := by
  simp only [Output.text] at h
  split at h
  · exact absurd h (Output.fail_ne_of _ _)
  rw [Output.binary, maxFieldLength] at h
  split at h <;> rename_i hl
  · obtain ⟨x, y, rfl, hx, -⟩ := Output.append_eq_of_iff.mp h
    rw [Output.word, Output.of_eq_of_iff] at hx
    rw [← hx, ← Text.length_utf8]
    simp only [List.cons_append, List.nil_append, peekLength, UInt8.toNat_ofNat',
      UInt16.toNat_ofNat', Option.some.injEq]
    omega
  · exact absurd h (Output.fail_ne_of _ _)

lemma ConnectHeader.Sound.minLength_le {h : ConnectHeader} (hs : h.Sound) :
    minLength ≤ h.length := by
  have hname := hs.protocol
  simp only [isSupportedProtocol, Bool.or_eq_true, Bool.and_eq_true, beq_iff_eq] at hname
  rw [ConnectHeader.length]
  rcases hname with ⟨hname, -⟩ | ⟨hname, -⟩ <;> rw [hname] <;> decide

lemma PublishHeader.minLength_eq {h : PublishHeader} {qos : QoS} {front : Bytes}
    (hid : h.packetId.isSome = qos.isAcknowledged) (hw : h.write = .of front) (rest : Bytes) :
    minLength qos (front ++ rest) = h.length := by
  obtain ⟨-, hw⟩ := write_eq_of_iff.mp hw
  obtain ⟨x, y, rfl, hx, -⟩ := Output.append_eq_of_iff.mp hw
  rw [minLength, List.append_assoc, Reader.peekLength_of_text hx, PublishHeader.length, hid]

namespace VariableHeader

variable {h : FixedHeader} {vh : VariableHeader} {n : Nat}

lemma minLength_le_of_fits {front : Bytes} (hv : vh.Fits h) (hw : vh.write = .of front)
    (rest : Bytes) : minLength h (front ++ rest) ≤ vh.length := by
  rw [minLength]
  cases vh with
  | connect header =>
    rw [hv.1]
    exact hv.2.minLength_le
  | connAck header =>
    rw [hv.1]
    exact Nat.le_refl _
  | publish header =>
    rw [hv.1]
    exact Nat.le_of_eq (PublishHeader.minLength_eq hv.2 hw rest)
  | packetId id =>
    rw [Fits] at hv
    cases hk : h.kind <;> rw [hk] at hv <;> first | exact Nat.le_refl _ | cases hv

lemma minLength_le_of_read (hr : read h bs = .done vh n) : minLength h bs ≤ n := by
  obtain ⟨hn, hv, hw⟩ := (recognizes_read h _ _ _).mp hr
  have hl := hasLength_write vh _ hw
  rw [List.length_take_of_le hn] at hl
  have hmin := minLength_le_of_fits hv hw (bs.drop n)
  rwa [List.take_append_drop, ← hl] at hmin

end VariableHeader

/-! ### Stages -/

/-- Nothing is taken off the buffer. -/
def Step.TakesNothing (result : Except DecodeError Step) : Prop :=
  result = .ok .insufficient ∨ ∃ e, result = .error e

namespace Stage

variable {stage : Stage}

lemma takesNothing_decodeFixedHeader (hn : fixedHeader.needsMoreData bs = true) :
    Step.TakesNothing (decodeFixedHeader bs) := by
  rw [needsMoreData, Bytes.shorterThan_iff] at hn
  rw [decodeFixedHeader]
  cases hr : FixedHeader.read bs with
  | short => exact .inl rfl
  | malformed e => exact .inr ⟨e, rfl⟩
  | done h used =>
    have htwo := FixedHeader.two_le_of_read hr
    have hle := (FixedHeader.progress_read _ _ _ hr).2
    omega

/-- With fewer bytes than are owed the window is the whole buffer. -/
lemma takesNothing_decodeVariableHeader {h : FixedHeader}
    (hn : (variableHeader h).needsMoreData bs = true) :
    Step.TakesNothing (decodeVariableHeader h bs) := by
  rw [needsMoreData, Bytes.shorterThan_iff] at hn
  have hwindow : bs.take h.remainingLength = bs := List.take_of_length_le (by omega)
  simp only [decodeVariableHeader, hwindow]
  cases hr : VariableHeader.read h bs with
  | short =>
    dsimp only
    rw [if_neg (by omega)]
    exact .inl rfl
  | malformed e => exact .inr ⟨e, rfl⟩
  | done vh used =>
    have hmin := VariableHeader.minLength_le_of_read hr
    have hle := (VariableHeader.progress_read h _ _ _ hr).2
    omega

/-- As many bytes as are always enough for the current stage. -/
def sufficient (stage : Stage) : Nat :=
  stage.owed.getD (1 + RemainingLength.maxDigits)

lemma length_lt_of_decodeFixedHeader (h : decodeFixedHeader bs = .ok .insufficient) :
    bs.length < 1 + RemainingLength.maxDigits := by
  rw [decodeFixedHeader] at h
  split at h <;> rename_i hr
  · exact FixedHeader.length_lt_of_read_short hr
  · cases h
  · split at h
    · cases h
    · split at h
      · obtain ⟨packet, hp⟩ := finish_eq_ok h
        cases hp
      · cases h

lemma length_lt_of_step_insufficient (h : stage.step bs = .ok .insufficient) :
    bs.length < stage.sufficient := by
  cases stage with
  | fixedHeader =>
    rw [step] at h
    split at h <;> rename_i hn
    · rw [needsMoreData, Bytes.shorterThan_iff] at hn
      exact Nat.lt_trans hn (by decide)
    · exact length_lt_of_decodeFixedHeader h
  | variableHeader fh => exact owing_step rfl h
  | payload fh vh owed => exact owing_step rfl h

end Stage

/-! ### Parsers -/

namespace Parser

/-- As many bytes as are always enough for the part that a parser waits for: between packets a
fixed header of the greatest length, and within one all that the packet still lacks. -/
def sufficient (p : Parser) : Nat :=
  match p.state with
  | .awaitingFixedHeader => 5
  | _                    => p.owed

/-- Nothing is taken off the buffer. -/
def Outcome.TakesNothing (outcome : Outcome) : Prop :=
  outcome.result = .ok .insufficient ∨ ∃ failure, outcome.result = .error failure

/-- What waiting for more than `bs` goes by, where reading would not. -/
structure Precheck (p : Parser) (bs : Bytes) : Prop where
  fixedHeader : p.state = .awaitingFixedHeader → p.needsMoreData bs = true →
    (p.readFixedHeader bs).TakesNothing
  variableHeader : p.state = .awaitingVariableHeader → p.needsMoreData bs = true →
    ∃ outcome, p.readVariableHeader bs = .ok outcome ∧ outcome.TakesNothing
  payload : p.state = .awaitingPayload → (p.needsMoreData bs = true ↔ bs.length < p.owed)
  /-- Nobody waits who has enough. -/
  enough : p.sufficient ≤ bs.length → p.needsMoreData bs = false ∧
    ∃ outcome, p.step bs = .ok outcome ∧ outcome.result ≠ .ok .insufficient

variable {stage : Stage}

lemma sufficient_toParser (stage : Stage) : stage.toParser.sufficient = stage.sufficient := by
  cases stage <;> rfl

lemma Outcome.result_restart (outcome : Outcome) : outcome.restart.result = outcome.result := by
  rw [restart]
  split <;> rfl

/-- What is read without the check takes nothing where the stage takes nothing. -/
lemma takesNothing_of_restart {outcome : Outcome} {result : Except DecodeError Step}
    (hrestart : outcome.restart = stage.outcome result) (h : Step.TakesNothing result) :
    outcome.TakesNothing := by
  have hresult : outcome.result = (stage.outcome result).result := by
    rw [← hrestart, outcome.result_restart]
  rw [Outcome.TakesNothing, hresult]
  rcases h with rfl | ⟨e, rfl⟩
  · exact .inl rfl
  · exact .inr ⟨.malformed e, rfl⟩

lemma precheck_toParser (stage : Stage) (bs : Bytes) : stage.toParser.Precheck bs where
  fixedHeader hstate hn := by
    cases stage with
    | fixedHeader =>
      exact takesNothing_of_restart restart_readFixedHeader
        (Stage.takesNothing_decodeFixedHeader hn)
    | variableHeader h => cases hstate
    | payload h vh owed => cases hstate
  variableHeader hstate hn := by
    cases stage with
    | fixedHeader => cases hstate
    | variableHeader h =>
      obtain ⟨outcome, hread, hrestart⟩ := readVariableHeader_toParser h bs
      exact ⟨outcome, hread, takesNothing_of_restart hrestart
        (Stage.takesNothing_decodeVariableHeader hn)⟩
    | payload h vh owed => cases hstate
  payload hstate := by
    cases stage with
    | fixedHeader => cases hstate
    | variableHeader h => cases hstate
    | payload h vh owed => exact Bytes.shorterThan_iff
  enough hlength := by
    rw [sufficient_toParser] at hlength
    have hstep : stage.step bs ≠ .ok .insufficient := fun h =>
      Nat.not_lt.mpr hlength (Stage.length_lt_of_step_insufficient h)
    refine ⟨?_, _, step_toParser stage bs, fun h => hstep ?_⟩
    · rw [needsMoreData_toParser, Bool.eq_false_iff]
      intro hn
      exact hstep (by rw [Stage.step, if_pos hn])
    · cases hs : stage.step bs with
      | error e =>
        rw [hs] at h
        cases h
      | ok s =>
        rw [hs] at h
        cases s with
        | insufficient => rfl
        | advanced next used => cases h
        | complete packet used => cases h

end Parser

/-! ### Decoders -/

/-- A buffer is read until there is too little of it. -/
lemma Stage.buffered_drain_lt (stage : Stage) (bs : Bytes) :
    (stage.drain bs).decoder.buffered < (stage.drain bs).decoder.stage.sufficient := by
  induction stage, bs using Stage.drain_induction with
  | insufficient stage bs h =>
    rw [drain_insufficient h]
    exact length_lt_of_step_insufficient h
  | error stage bs e h =>
    rw [drain_error h]
    exact Nat.succ_pos 4
  | advanced stage bs next used h ih =>
    rw [drain_advanced h]
    exact ih
  | complete stage bs packet used h ih =>
    rw [drain_complete h]
    exact ih

/-- A call made during a delivery leaves the buffer as the delivery found it. -/
lemma Pass.buffered_nested (pass : Pass) (arrivals : List (List Bytes)) :
    ∀ d ∈ (pass.run arrivals []).deliveries, ∀ call ∈ d.nested,
      call.error = none ∧ call.buffered = d.buffered := by
  induction pass, arrivals using run_induction with
  | error pass arrivals e hs => simp [run_error hs]
  | settled stage buffer arrivals hs =>
    rw [run_insufficient hs]
    exact fun d hd => absurd hd List.not_mem_nil
  | resumed stage buffer chunk pending arrivals hs ih =>
    rw [run_insufficient hs]
    exact ih
  | advanced pass arrivals next used hs ih =>
    rw [run_advanced hs]
    exact ih
  | delivered pass arrivals packet used hs ih =>
    rw [run_delivered hs, Received.deliveries_behind, List.singleton_append, List.forall_mem_cons]
    refine ⟨fun call hc => ?_, ih⟩
    obtain ⟨_, -, rfl⟩ := List.mem_map.mp hc
    exact ⟨rfl, rfl⟩

namespace Decoder

variable (decoder : Decoder) (arrivals : List (List Bytes)) (chunk : Bytes)

lemma buffered_receiveWith_lt :
    (decoder.receiveWith arrivals chunk).decoder.buffered <
      (decoder.receiveWith arrivals chunk).decoder.stage.sufficient := by
  cases decoder with
  | closed => exact Nat.succ_pos 4
  | live stage buffer =>
    rw [((live stage buffer).receiveWith_agrees_receive arrivals chunk).decoder, receive_live]
    exact Stage.buffered_drain_lt _ _

lemma buffered_nested : ∀ d ∈ (decoder.receiveWith arrivals chunk).deliveries,
    ∀ call ∈ d.nested, call.error = none ∧ call.buffered = d.buffered := by
  cases decoder with
  | closed => simp [receiveWith]
  | live stage buffer => exact Pass.buffered_nested ⟨stage, buffer ++ chunk, []⟩ arrivals

end Decoder

/-- A parser that has been stepped and reset in whatever way never waits where it could read, and
never waits with enough bytes; so once a decoder has taken a chunk it keeps fewer bytes than are
enough for what it waits for. Where the chunk is handed over during a delivery it is only queued,
and the bytes behind the packet that is being delivered stay where they are. -/
theorem precheck_settled :
    (∀ calls : List Parser.Call, ∃ p, Parser.new.run calls = .ok p ∧ ∀ bs, p.Precheck bs) ∧
      ∀ (decoder : Decoder) (arrivals : List (List Bytes)) (chunk : Bytes),
        let received := decoder.receiveWith arrivals chunk
        received.decoder.buffered < received.decoder.stage.toParser.sufficient ∧
        ∀ d ∈ received.deliveries, ∀ call ∈ d.nested,
          call.error = none ∧ call.buffered = d.buffered := by
  refine ⟨fun calls => ?_, fun decoder arrivals chunk => ⟨?_, ?_⟩⟩
  · obtain ⟨stage, -, hrun⟩ := Parser.exists_stage_of_run .fixedHeader calls
    exact ⟨stage.toParser, hrun, Parser.precheck_toParser stage⟩
  · rw [Parser.sufficient_toParser]
    exact decoder.buffered_receiveWith_lt arrivals chunk
  · exact decoder.buffered_nested arrivals chunk

/-- While the first of four PINGREQ is delivered there are six bytes behind it, which is more than
enough for a fixed header; a chunk that is handed over at that moment is taken, and leaves them
there. -/
theorem exists_nested_sufficient :
    let pings : Bytes := [0xC0, 0x00, 0xC0, 0x00, 0xC0, 0x00, 0xC0, 0x00]
    ∃ d ∈ (Decoder.new.receiveWith [[[]]] pings).deliveries, ∃ call ∈ d.nested,
      call.error = none ∧ ¬ call.buffered < Stage.fixedHeader.toParser.sufficient := by
  intro pings
  have hrun : Decoder.new.receiveWith [[[]]] pings =
      Pass.run ⟨.fixedHeader, pings, []⟩ [[[]]] [] := rfl
  have hstep : Stage.fixedHeader.step pings = .ok (.complete .pingReq 2) := rfl
  rw [hrun, Pass.run_delivered hstep]
  exact ⟨_, List.mem_cons_self, ⟨[], none, 6⟩, List.mem_singleton_self _, rfl, by decide⟩

end Mqtt
