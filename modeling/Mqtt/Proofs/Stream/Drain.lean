import Mqtt.Proofs.Wire.Stability
import Mqtt.Stream.Decoder

/-!
# Reading a buffer to its end

`Stage.drain` reads a buffer from a stage until it is too short, or until an error. Its four
equations, one for each outcome of a step, and the induction along them, `Stage.drain_induction`,
are all that later proofs use of the decoder's loop.

`Stage.step_append` carries the stability of the readers over to the stages: a step that is taken
at all is taken in the same way when more bytes follow.
-/

namespace Mqtt

namespace Stage

/-! ### Steps and longer buffers -/

/-- The bound for a variable header may grow with the buffer, but not beyond the bytes there were
if these were enough. -/
lemma min_minLength_append {h : FixedHeader} {bs : Bytes} (more : Bytes) {n : Nat}
    (hn : min (VariableHeader.minLength h bs) n ≤ bs.length) :
    min (VariableHeader.minLength h (bs ++ more)) n ≤ bs.length := by
  rw [VariableHeader.minLength] at hn ⊢
  split <;> rename_i hk <;> simp only [hk] at hn <;> try exact hn
  match bs with
  | [] | [_] =>
    simp only [PublishHeader.minLength, Reader.peekLength, List.length_nil,
      List.length_singleton] at hn ⊢
    omega
  | _ :: _ :: _ => exact hn

lemma needsMoreData_append {stage : Stage} {bs : Bytes} (more : Bytes)
    (h : stage.needsMoreData bs = false) : stage.needsMoreData (bs ++ more) = false := by
  rw [Bool.eq_false_iff] at h ⊢
  cases stage with
  | fixedHeader =>
    simp only [needsMoreData, ne_eq, Bytes.shorterThan_iff, List.length_append] at h ⊢
    omega
  | variableHeader fh =>
    simp only [needsMoreData, ne_eq, Bytes.shorterThan_iff, List.length_append] at h ⊢
    have := min_minLength_append (h := fh) more (n := fh.remainingLength) (Nat.le_of_not_lt h)
    omega
  | payload fh vh owed =>
    simp only [needsMoreData, ne_eq, Bytes.shorterThan_iff, List.length_append] at h ⊢
    omega

lemma decodeFixedHeader_append {bs : Bytes} (more : Bytes)
    (h : decodeFixedHeader bs ≠ .ok .insufficient) :
    decodeFixedHeader (bs ++ more) = decodeFixedHeader bs := by
  have hs : FixedHeader.read bs ≠ .short := by
    intro hs
    exact h (by rw [decodeFixedHeader, hs])
  rw [decodeFixedHeader, decodeFixedHeader, FixedHeader.stable_read bs more hs]

/-- Either the window is complete, and then following bytes are not looked at, or the header is
read, well or ill, from a part of it. -/
lemma decodeVariableHeader_append {fh : FixedHeader} {bs : Bytes} (more : Bytes)
    (h : decodeVariableHeader fh bs ≠ .ok .insufficient) :
    decodeVariableHeader fh (bs ++ more) = decodeVariableHeader fh bs := by
  by_cases hl : fh.remainingLength ≤ bs.length
  · simp only [decodeVariableHeader]
    rw [List.take_append_of_le_length hl]
  · have hw : bs.take fh.remainingLength = bs := List.take_of_length_le (by omega)
    have hs : VariableHeader.read fh bs ≠ .short := by
      intro hs
      apply h
      simp only [decodeVariableHeader, hw, hs]
      rw [if_neg (by omega)]
    have hr := VariableHeader.stable_read fh bs (more.take (fh.remainingLength - bs.length)) hs
    simp only [decodeVariableHeader]
    rw [List.take_append, hw, hr]
    split
    · rename_i hs'
      exact absurd hs' hs
    · rfl
    · rfl

/-- A step that is taken is the same when more bytes follow. -/
theorem step_append {stage : Stage} {bs : Bytes} (more : Bytes)
    (h : stage.step bs ≠ .ok .insufficient) : stage.step (bs ++ more) = stage.step bs := by
  have hn : stage.needsMoreData bs = false := by
    rw [Bool.eq_false_iff]
    intro hn
    exact h (by rw [step, if_pos hn])
  rw [step] at h
  rw [step, step]
  simp only [hn, needsMoreData_append more hn, Bool.false_eq_true, if_false] at h ⊢
  cases stage with
  | fixedHeader => exact decodeFixedHeader_append more h
  | variableHeader fh => exact decodeVariableHeader_append more h
  | payload fh vh owed =>
    rw [Bool.eq_false_iff, ne_eq, needsMoreData, Bytes.shorterThan_iff] at hn
    simp only [decode, decodePayload]
    rw [List.take_append_of_le_length (by omega)]

end Stage

/-! ### The loop -/

/-- The same result, behind deliveries made before. -/
def Received.behind (r : Received) (earlier : List Delivery) : Received :=
  { r with deliveries := earlier ++ r.deliveries }

@[simp] lemma Received.packets_behind (r : Received) (earlier : List Delivery) :
    (r.behind earlier).packets = earlier.map (·.packet) ++ r.packets := by
  simp [Received.behind, Received.packets]

@[simp] lemma Received.error_behind (r : Received) (earlier : List Delivery) :
    (r.behind earlier).error = r.error := rfl

@[simp] lemma Received.decoder_behind (r : Received) (earlier : List Delivery) :
    (r.behind earlier).decoder = r.decoder := rfl

@[simp] lemma Received.deliveries_behind (r : Received) (earlier : List Delivery) :
    (r.behind earlier).deliveries = earlier ++ r.deliveries := rfl

lemma Received.behind_behind (r : Received) (earlier later : List Delivery) :
    (r.behind later).behind earlier = r.behind (earlier ++ later) := by
  simp [Received.behind]

namespace Pass

variable {pass : Pass} {arrivals : List (List Bytes)} {delivered : List Delivery}

lemma run_error {e : DecodeError} (hs : pass.stage.step pass.buffer = .error e) :
    pass.run arrivals delivered = ⟨.closed, delivered.reverse, some e⟩ := by
  rw [run]
  split <;> rename_i h <;> rw [hs] at h <;> cases h
  rfl

lemma run_insufficient (hs : pass.stage.step pass.buffer = .ok .insufficient) :
    pass.run arrivals delivered =
      match pass.pending with
      | []               => ⟨.live pass.stage pass.buffer, delivered.reverse, none⟩
      | chunk :: pending => run ⟨pass.stage, pass.buffer ++ chunk, pending⟩ arrivals delivered := by
  rw [run]
  split <;> rename_i h <;> rw [hs] at h <;> cases h
  split <;> rename_i hp <;> simp only [hp]

lemma run_advanced {next : Stage} {used : Nat}
    (hs : pass.stage.step pass.buffer = .ok (.advanced next used)) :
    pass.run arrivals delivered = (pass.moveOn next used).run arrivals delivered := by
  rw [run]
  split <;> rename_i h <;> rw [hs] at h <;> cases h
  rfl

lemma run_complete {packet : Packet} {used : Nat}
    (hs : pass.stage.step pass.buffer = .ok (.complete packet used)) :
    pass.run arrivals delivered =
      ((pass.moveOn .fixedHeader used).arriveAll (arrivals.headD [])).1.run arrivals.tail
        (⟨packet, (pass.moveOn .fixedHeader used).buffer.length,
          ((pass.moveOn .fixedHeader used).arriveAll (arrivals.headD [])).2⟩ :: delivered) := by
  rw [run]
  split <;> rename_i h <;> rw [hs] at h <;> cases h
  cases arrivals <;> rfl

/-- What was delivered earlier only stands in front of what is delivered from now on. -/
lemma run_append (earlier : List Delivery) (pass : Pass) (arrivals : List (List Bytes))
    (delivered : List Delivery) :
    pass.run arrivals (delivered ++ earlier)
      = (pass.run arrivals delivered).behind earlier.reverse := by
  induction pass, arrivals, delivered using Pass.run.induct with
  | case1 pass arrivals delivered e hs =>
    rw [run_error hs, run_error hs]
    simp [Received.behind]
  | case2 pass arrivals delivered hs hp =>
    rw [run_insufficient hs, run_insufficient hs]
    simp [hp, Received.behind]
  | case3 pass arrivals delivered hs chunk pending hp ih =>
    rw [run_insufficient hs, run_insufficient hs]
    simp only [hp]
    exact ih
  | case4 pass arrivals delivered next used hs ih =>
    rw [run_advanced hs, run_advanced hs]
    exact ih
  | case5 pass delivered packet used hs after ih =>
    rw [run_complete hs, run_complete hs]
    exact ih
  | case6 pass delivered packet used hs after now later ih =>
    rw [run_complete hs, run_complete hs]
    exact ih

end Pass

namespace Stage

/-- Read `bs` from a stage until it is too short, or until an error. -/
def drain (stage : Stage) (bs : Bytes) : Received :=
  Pass.run ⟨stage, bs, []⟩ [] []

variable {stage : Stage} {bs : Bytes}

lemma drain_insufficient (h : stage.step bs = .ok .insufficient) :
    stage.drain bs = ⟨.live stage bs, [], none⟩ :=
  Pass.run_insufficient h

lemma drain_error {e : DecodeError} (h : stage.step bs = .error e) :
    stage.drain bs = ⟨.closed, [], some e⟩ :=
  Pass.run_error h

lemma drain_advanced {next : Stage} {used : Nat} (h : stage.step bs = .ok (.advanced next used)) :
    stage.drain bs = next.drain (bs.drop used) :=
  Pass.run_advanced h

lemma drain_complete {packet : Packet} {used : Nat}
    (h : stage.step bs = .ok (.complete packet used)) :
    stage.drain bs = (fixedHeader.drain (bs.drop used)).behind
      [⟨packet, (bs.drop used).length, []⟩] := by
  rw [drain, Pass.run_complete h]
  exact Pass.run_append [_] _ _ []

lemma drain_nil : fixedHeader.drain [] = ⟨.live .fixedHeader [], [], none⟩ :=
  drain_insufficient rfl

/-! A step that is taken is taken in the same way in front of more bytes. -/

lemma drain_append_of_error {e : DecodeError} (hs : stage.step bs = .error e) (more : Bytes) :
    stage.drain (bs ++ more) = ⟨.closed, [], some e⟩ := by
  rw [← step_append more (by simp [hs])] at hs
  exact drain_error hs

lemma drain_append_of_advanced {next : Stage} {used : Nat}
    (hs : stage.step bs = .ok (.advanced next used)) (more : Bytes) :
    stage.drain (bs ++ more) = next.drain (bs.drop used ++ more) := by
  have ht : 0 < used ∧ used ≤ bs.length := taken_step hs
  rw [← step_append more (by simp [hs])] at hs
  rw [drain_advanced hs, List.drop_append_of_le_length ht.2]

lemma drain_append_of_complete {packet : Packet} {used : Nat}
    (hs : stage.step bs = .ok (.complete packet used)) (more : Bytes) :
    stage.drain (bs ++ more) = (fixedHeader.drain (bs.drop used ++ more)).behind
      [⟨packet, (bs.drop used ++ more).length, []⟩] := by
  have ht : used ≤ bs.length ∧ (0 < used ∨ stage.rank = 1) := taken_step hs
  rw [← step_append more (by simp [hs])] at hs
  rw [drain_complete hs, List.drop_append_of_le_length ht.1]

/-- Induction along the steps that read a buffer. -/
@[elab_as_elim]
theorem drain_induction {motive : Stage → Bytes → Prop}
    (insufficient : ∀ stage bs, step bs stage = .ok .insufficient → motive stage bs)
    (error : ∀ stage bs e, step bs stage = .error e → motive stage bs)
    (advanced : ∀ stage bs next used, step bs stage = .ok (.advanced next used) →
      motive next (bs.drop used) → motive stage bs)
    (complete : ∀ stage bs packet used, step bs stage = .ok (.complete packet used) →
      motive .fixedHeader (bs.drop used) → motive stage bs)
    (stage : Stage) (bs : Bytes) : motive stage bs :=
  match h : step bs stage with
  | .ok .insufficient => insufficient stage bs h
  | .error e => error stage bs e h
  | .ok (.advanced next used) => advanced stage bs next used h
      (drain_induction insufficient error advanced complete next (bs.drop used))
  | .ok (.complete packet used) => complete stage bs packet used h
      (drain_induction insufficient error advanced complete .fixedHeader (bs.drop used))
termination_by weight bs stage
decreasing_by
  · exact step_advanced_lt h
  · exact step_complete_lt h

end Stage

namespace Decoder

lemma receive_live (stage : Stage) (buffer chunk : Bytes) :
    (live stage buffer).receive chunk = stage.drain (buffer ++ chunk) := rfl

lemma receive_new (bs : Bytes) : new.receive bs = Stage.fixedHeader.drain bs := rfl

end Decoder

end Mqtt
