import Mqtt.Packet.Basic

/-!
# Stages of a packet

A packet is read in up to three stages: fixed header, variable header, payload. `Stage.step` reads
the current one from the front of a buffer. It reports that the buffer is too short, that the stage
is over and how many bytes it took, or that the packet is complete; bytes that are not reported are
not taken, and after an error reading starts over.

`Stage.step_advanced_lt` and `Stage.step_complete_lt` say that every report but the first makes the
buffered bytes fewer, or at least the packet further, which is why reading a buffer to its end ends.
-/

namespace Mqtt

/-- What a packet is waiting for. -/
inductive Stage where
  | fixedHeader
  | variableHeader (header : FixedHeader)
  /-- The last `owed` bytes of the packet. -/
  | payload (header : FixedHeader) (variableHeader : VariableHeader) (owed : Nat)
deriving DecidableEq

/-- What comes of one step. -/
inductive Step where
  /-- The buffer is too short; nothing is taken. -/
  | insufficient
  /-- The stage took `used` bytes and `next` follows. -/
  | advanced (next : Stage) (used : Nat)
  /-- The last stage took `used` bytes and this is the packet. -/
  | complete (packet : Packet) (used : Nat)
deriving DecidableEq

namespace Stage

/-- Whether `bs` is certainly too short for the current stage. -/
def needsMoreData (bs : Bytes) : Stage → Bool
  | .fixedHeader      => Bytes.shorterThan bs 2
  | .variableHeader h =>
    Bytes.shorterThan bs (min (VariableHeader.minLength h bs) h.remainingLength)
  | .payload _ _ owed => Bytes.shorterThan bs owed

/-- The packet made of the parts, which took `used` more bytes. -/
def finish (h : FixedHeader) (vh : Option VariableHeader) (p : Option Payload) (used : Nat) :
    Except DecodeError Step :=
  (Packet.ofParts h vh p).map (.complete · used)

/-- Read a fixed header. -/
def decodeFixedHeader (bs : Bytes) : Except DecodeError Step :=
  match FixedHeader.read bs with
  | .short       => .ok .insufficient
  | .malformed e => .error e
  | .done h used =>
    if h.kind.hasVariableHeader then .ok (.advanced (.variableHeader h) used)
    else if h.remainingLength = 0 then finish h none none used
    else .error .invalidPayloadBytes

/-- Read the variable header that follows `h`, from no more bytes than the packet has. -/
def decodeVariableHeader (h : FixedHeader) (bs : Bytes) : Except DecodeError Step :=
  let window := bs.take h.remainingLength
  match VariableHeader.read h window with
  | .short =>
    if window.length = h.remainingLength then
      .error (.invalidVariableHeader (.doesNotFit h.kind h.remainingLength))
    else .ok .insufficient
  | .malformed e => .error e
  | .done vh used =>
    if h.kind.hasPayload then .ok (.advanced (.payload h vh (h.remainingLength - used)) used)
    else if h.remainingLength - used = 0 then finish h (some vh) none used
    else .error .invalidPayloadBytes

/-- Read the payload of `owed` bytes that follows `h` and `vh`. -/
def decodePayload (h : FixedHeader) (vh : VariableHeader) (owed : Nat) (bs : Bytes) :
    Except DecodeError Step :=
  match Payload.read h vh (bs.take owed) with
  | .error e => .error e
  | .ok p    => finish h (some vh) (some p) owed

/-- Read the current stage from the front of `bs`. -/
def decode (bs : Bytes) : Stage → Except DecodeError Step
  | .fixedHeader       => decodeFixedHeader bs
  | .variableHeader h  => decodeVariableHeader h bs
  | .payload h vh owed => decodePayload h vh owed bs

/-- Read the current stage from the front of `bs`, unless that is certainly too short. -/
def step (bs : Bytes) (stage : Stage) : Except DecodeError Step :=
  if stage.needsMoreData bs then .ok .insufficient else stage.decode bs

/-- The stage that follows a step: the current one if nothing was taken, the next one, or the first
stage of the next packet after a complete packet and after an error. -/
def next (stage : Stage) : Except DecodeError Step → Stage
  | .ok .insufficient    => stage
  | .ok (.advanced s _)  => s
  | .ok (.complete _ _)  => .fixedHeader
  | .error _             => .fixedHeader

/-! ### Progress -/

/-- How far a stage is from the next packet, where no byte is owed to it. -/
def rank : Stage → Nat
  | .payload .. => 1
  | _           => 0

/-- Bytes and stages still ahead. -/
def weight (bs : Bytes) (stage : Stage) : Nat :=
  2 * bs.length + stage.rank

theorem rank_le_one (stage : Stage) : stage.rank ≤ 1 := by
  cases stage <;> simp [rank]

theorem finish_eq_ok {h : FixedHeader} {vh : Option VariableHeader} {p : Option Payload}
    {used : Nat} {s : Step} (hs : finish h vh p used = .ok s) :
    ∃ packet, s = .complete packet used := by
  unfold finish at hs
  cases hp : Packet.ofParts h vh p with
  | error e => simp [hp, Except.map] at hs
  | ok packet =>
    simp only [hp, Except.map, Except.ok.injEq] at hs
    exact ⟨packet, hs.symm⟩

/-- What a report other than "too short" says about the bytes taken. -/
def Taken (bs : Bytes) (stage : Stage) : Step → Prop
  | .insufficient    => True
  | .advanced _ used => 0 < used ∧ used ≤ bs.length
  | .complete _ used => used ≤ bs.length ∧ (0 < used ∨ stage.rank = 1)

theorem taken_decodeFixedHeader {bs : Bytes} {s : Step} (h : decodeFixedHeader bs = .ok s) :
    Taken bs .fixedHeader s := by
  unfold decodeFixedHeader at h
  split at h
  · cases h; trivial
  · cases h
  · rename_i fh used hr
    have hp := FixedHeader.progress_read _ _ _ hr
    split at h
    · cases h; exact hp
    · split at h
      · obtain ⟨packet, rfl⟩ := finish_eq_ok h
        exact ⟨hp.2, .inl hp.1⟩
      · cases h

theorem taken_decodeVariableHeader {fh : FixedHeader} {bs : Bytes} {s : Step}
    (h : decodeVariableHeader fh bs = .ok s) : Taken bs (.variableHeader fh) s := by
  unfold decodeVariableHeader at h
  dsimp only at h
  split at h
  · split at h <;> cases h
    trivial
  · cases h
  · rename_i vh used hr
    have hp := VariableHeader.progress_read fh _ _ _ hr
    have hle : used ≤ bs.length := Nat.le_trans hp.2 (List.length_take_le' ..)
    split at h
    · cases h; exact ⟨hp.1, hle⟩
    · split at h
      · obtain ⟨packet, rfl⟩ := finish_eq_ok h
        exact ⟨hle, .inl hp.1⟩
      · cases h

theorem taken_step {bs : Bytes} {stage : Stage} {s : Step} (h : stage.step bs = .ok s) :
    Taken bs stage s := by
  unfold step at h
  split at h
  · cases h; trivial
  · rename_i hn
    cases stage with
    | fixedHeader => exact taken_decodeFixedHeader h
    | variableHeader fh => exact taken_decodeVariableHeader h
    | payload fh vh owed =>
      simp only [needsMoreData, Bytes.shorterThan_iff] at hn
      simp only [decode, decodePayload] at h
      split at h
      · cases h
      · obtain ⟨packet, rfl⟩ := finish_eq_ok h
        exact ⟨by omega, .inr rfl⟩

theorem step_advanced_lt {bs : Bytes} {stage next : Stage} {used : Nat}
    (h : stage.step bs = .ok (.advanced next used)) :
    next.weight (bs.drop used) < stage.weight bs := by
  have ht : 0 < used ∧ used ≤ bs.length := taken_step h
  have := next.rank_le_one
  simp only [weight, List.length_drop]
  omega

theorem step_complete_lt {bs : Bytes} {stage : Stage} {packet : Packet} {used : Nat}
    (h : stage.step bs = .ok (.complete packet used)) :
    fixedHeader.weight (bs.drop used) < stage.weight bs := by
  have ht : used ≤ bs.length ∧ (0 < used ∨ stage.rank = 1) := taken_step h
  have : fixedHeader.rank = 0 := rfl
  simp only [weight, List.length_drop]
  omega

end Stage

end Mqtt
