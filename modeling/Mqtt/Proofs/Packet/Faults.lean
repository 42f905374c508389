import Mqtt.Proofs.Packet.Bodies

/-!
# Who is to blame for an error

Three faults blame the caller of a reader and not the bytes: a variable header, a payload, or parts
asked for that the kind of packet does not have. Three tables decide when they come up, one for each
of the readers of variable headers and payloads and one for the parts of a packet. Where the parts
are asked for by `PacketKind.hasVariableHeader` and `PacketKind.hasPayload`, and the variable header
is one that the fixed header announces, none of them does.
-/

namespace Mqtt

/-- Whether the fault is that of a caller who asks for parts which there are not. -/
def HeaderFault.isInternal : HeaderFault → Bool
  | .noVariableHeader _ | .noPayload _ | .mismatchedParts _ => true
  | _                                                       => false

/-- Whether the error is that of a caller who asks for parts which there are not. -/
def DecodeError.isInternal : DecodeError → Bool
  | .invalidVariableHeader fault => fault.isInternal
  | _                            => false

namespace Reader

variable {α β : Type}

/-- The errors of the reader are all about the bytes. -/
def BlamesBytes (r : Reader α) : Prop :=
  ∀ bs e, r bs = .malformed e → e.isInternal = false

lemma blamesBytes_pure (a : α) : (pure a : Reader α).BlamesBytes := by
  intro bs e h
  cases h

lemma blamesBytes_fail {e : DecodeError} (he : e.isInternal = false) :
    (fail e : Reader α).BlamesBytes := by
  intro bs e' h
  cases h
  exact he

lemma BlamesBytes.bind {r : Reader α} {f : α → Reader β} (hr : r.BlamesBytes)
    (hf : ∀ a, (f a).BlamesBytes) : (r >>= f).BlamesBytes := by
  intro bs e h
  change r.andThen f bs = _ at h
  rw [andThen] at h
  split at h
  · cases h
  · rename_i a n hra
    cases hfa : f a (bs.drop n) <;> simp only [hfa, Reading.after, reduceCtorEq] at h
    cases h
    exact hf a _ _ hfa
  · rename_i e' hre
    cases h
    exact hr _ _ hre

/-! ### Fields -/

lemma blamesBytes_byte : byte.BlamesBytes := by
  intro bs e h
  cases bs <;> cases h

lemma blamesBytes_word : word.BlamesBytes := by
  intro bs e h
  rw [word.eq_def] at h
  split at h <;> cases h

lemma blamesBytes_take (n : Nat) : (take n).BlamesBytes := by
  intro bs e h
  rw [take] at h
  split at h <;> cases h

lemma blamesBytes_binary : binary.BlamesBytes :=
  blamesBytes_word.bind fun _ => blamesBytes_take _

lemma blamesBytes_text : text.BlamesBytes := by
  refine blamesBytes_binary.bind fun bs => ?_
  split
  · exact blamesBytes_fail rfl
  · split
    · exact blamesBytes_fail rfl
    · exact blamesBytes_pure _

/-! ### Whole windows -/

lemma BlamesBytes.whole {r : Reader α} (hr : r.BlamesBytes) {bs : Bytes} {e : DecodeError}
    (h : r.whole bs = .error e) : e.isInternal = false := by
  rw [Reader.whole] at h
  split at h
  · cases h
    rfl
  · split at h <;> cases h
    rfl
  · cases h
    exact hr _ _ ‹_›

lemma BlamesBytes.entriesAfter {r : Reader α} (hr : r.BlamesBytes) {seen : List α} {skip : Nat}
    {bs : Bytes} {e : DecodeError} (h : r.entriesAfter seen skip bs = .error e) :
    e.isInternal = false := by
  induction bs generalizing seen skip with
  | nil =>
    rw [Reader.entriesAfter] at h
    cases h
  | cons b bs ih =>
    cases skip with
    | succ skip => exact ih h
    | zero =>
      rw [Reader.entriesAfter] at h
      split at h
      · cases h
        rfl
      · exact ih h
      · cases h
        exact hr _ _ ‹_›

lemma BlamesBytes.entries {r : Reader α} (hr : r.BlamesBytes) {bs : Bytes} {e : DecodeError}
    (h : r.entries bs = .error e) : e.isInternal = false := by
  rw [Reader.entries] at h
  split at h
  · cases h
    rfl
  · exact hr.entriesAfter h

end Reader

/-! ### Headers -/

lemma RemainingLength.blamesBytes_readDigits (k : Nat) : (readDigits k).BlamesBytes := by
  induction k with
  | zero => exact Reader.blamesBytes_fail rfl
  | succ k ih =>
    refine Reader.blamesBytes_byte.bind fun b => ?_
    split
    · exact Reader.blamesBytes_pure _
    · exact ih.bind fun _ => Reader.blamesBytes_pure _

lemma FixedHeader.isInternal_of_ofFirstByte {b : UInt8} {e : DecodeError}
    (h : ofFirstByte b = .error e) : e.isInternal = false := by
  rw [ofFirstByte] at h
  split at h
  · cases h
    rfl
  · split at h
    · cases h
      rfl
    · split at h <;> cases h
      rfl

lemma FixedHeader.blamesBytes_read : read.BlamesBytes := by
  refine Reader.blamesBytes_byte.bind fun b => ?_
  split
  · exact Reader.blamesBytes_fail (isInternal_of_ofFirstByte ‹_›)
  · exact (RemainingLength.blamesBytes_readDigits _).bind fun _ => Reader.blamesBytes_pure _

lemma ConnectHeader.isInternal_of_ofFlags {name : String} {level flags : UInt8}
    {keepAlive : UInt16} {e : DecodeError} (h : ofFlags name level flags keepAlive = .error e) :
    e.isInternal = false := by
  simp only [ofFlags] at h
  split at h
  · cases h
    rfl
  · split at h
    · cases h
      rfl
    · split at h
      · cases h
        rfl
      · split at h <;> cases h
        rfl

lemma ConnectHeader.blamesBytes_read : read.BlamesBytes := by
  refine Reader.blamesBytes_text.bind fun name => Reader.blamesBytes_byte.bind fun level => ?_
  split
  · refine Reader.blamesBytes_byte.bind fun flags => ?_
    refine Reader.blamesBytes_word.bind fun keepAlive => ?_
    split
    · exact Reader.blamesBytes_fail (isInternal_of_ofFlags ‹_›)
    · exact Reader.blamesBytes_pure _
  · exact Reader.blamesBytes_fail rfl

lemma ConnAckHeader.blamesBytes_read : read.BlamesBytes := by
  intro bs e h
  rw [read.eq_def] at h
  split at h
  · split at h <;> cases h
    rfl
  · cases h

lemma PublishHeader.isInternal_of_topicFault? {topic : String} {fault : HeaderFault}
    (h : topicFault? topic = some fault) : fault.isInternal = false := by
  rw [topicFault?] at h
  split at h
  · cases h
    rfl
  · split at h <;> cases h
    rfl

lemma PublishHeader.blamesBytes_read (qos : QoS) : (read qos).BlamesBytes := by
  refine Reader.blamesBytes_text.bind fun topic => ?_
  split
  · exact Reader.blamesBytes_fail (isInternal_of_topicFault? ‹_›)
  · refine Reader.BlamesBytes.bind ?_ fun _ => Reader.blamesBytes_pure _
    rw [readPacketId]
    split
    · exact Reader.blamesBytes_word.bind fun _ => Reader.blamesBytes_pure _
    · exact Reader.blamesBytes_pure _

/-- The reader of variable headers knows of every kind that is said to have one. -/
lemma VariableHeader.blamesBytes_read {h : FixedHeader} (hv : h.kind.hasVariableHeader = true) :
    (read h).BlamesBytes := by
  rw [read]
  split <;> rename_i hk
  · exact ConnectHeader.blamesBytes_read.bind fun _ => Reader.blamesBytes_pure _
  · exact ConnAckHeader.blamesBytes_read.bind fun _ => Reader.blamesBytes_pure _
  · exact (PublishHeader.blamesBytes_read h.qos).bind fun _ => Reader.blamesBytes_pure _
  · rw [hk] at hv
    cases hv
  · rw [hk] at hv
    cases hv
  · rw [hk] at hv
    cases hv
  · exact Reader.blamesBytes_word.bind fun _ => Reader.blamesBytes_pure _

/-! ### Payloads -/

lemma ConnectPayload.blamesBytes_readIf {α : Type} {announced : Bool} {r : Reader α}
    (hr : r.BlamesBytes) : (readIf announced r).BlamesBytes := by
  rw [readIf]
  split
  · exact hr.bind fun _ => Reader.blamesBytes_pure _
  · exact Reader.blamesBytes_pure _

lemma ConnectPayload.blamesBytes_reader (h : ConnectHeader) : (reader h).BlamesBytes := by
  refine Reader.blamesBytes_text.bind fun clientId => ?_
  split
  · exact (blamesBytes_readIf Reader.blamesBytes_text).bind fun _ =>
      (blamesBytes_readIf Reader.blamesBytes_binary).bind fun _ =>
      (blamesBytes_readIf Reader.blamesBytes_text).bind fun _ =>
      (blamesBytes_readIf Reader.blamesBytes_binary).bind fun _ => Reader.blamesBytes_pure _
  · exact Reader.blamesBytes_fail rfl

lemma TopicSubscription.blamesBytes_reader : reader.BlamesBytes := by
  refine Reader.blamesBytes_text.bind fun filter => Reader.blamesBytes_byte.bind fun b => ?_
  split
  · exact Reader.blamesBytes_fail rfl
  · exact Reader.blamesBytes_pure _

lemma SubAckCode.blamesBytes_reader : reader.BlamesBytes := by
  refine Reader.blamesBytes_byte.bind fun b => ?_
  split
  · exact Reader.blamesBytes_fail rfl
  · exact Reader.blamesBytes_pure _

lemma VariableHeader.Fits.exists_connect {h : FixedHeader} {vh : VariableHeader} (hv : vh.Fits h)
    (hk : h.kind = .connect) : ∃ header, vh = .connect header := by
  cases vh with
  | connect header => exact ⟨header, rfl⟩
  | connAck header | publish header => simp [Fits, hk] at hv
  | packetId id => simp [Fits, hk, PacketKind.hasIdHeader] at hv

lemma map_eq_error_iff {ε α β : Type} {x : Except ε α} {f : α → β} {e : ε} :
    x.map f = .error e ↔ x = .error e := by
  cases x <;> simp [Except.map]

/-- The reader of payloads knows of every kind that is said to have one. -/
lemma Payload.isInternal_of_read {h : FixedHeader} {vh : VariableHeader} {bs : Bytes}
    {e : DecodeError} (hp : h.kind.hasPayload = true) (hv : vh.Fits h)
    (hr : read h vh bs = .error e) : e.isInternal = false := by
  rw [read.eq_def] at hr
  split at hr <;> rename_i hk
  · exact (ConnectPayload.blamesBytes_reader _).whole (map_eq_error_iff.mp hr)
  · cases hr
  · exact TopicSubscription.blamesBytes_reader.entries (map_eq_error_iff.mp hr)
  · exact SubAckCode.blamesBytes_reader.entries (map_eq_error_iff.mp hr)
  · exact Reader.blamesBytes_text.entries (map_eq_error_iff.mp hr)
  · rename_i hpublish hsubscribe hsubAck hunsubscribe
    cases hkind : h.kind with
    | connect =>
      obtain ⟨header, hheader⟩ := hv.exists_connect hkind
      exact (hk header hkind hheader).elim
    | publish => exact (hpublish hkind).elim
    | subscribe => exact (hsubscribe hkind).elim
    | subAck => exact (hsubAck hkind).elim
    | unsubscribe => exact (hunsubscribe hkind).elim
    | connAck | pubAck | pubRec | pubRel | pubComp | unsubAck | pingReq | pingResp | disconnect =>
      rw [hkind] at hp
      cases hp

/-! ### Packets -/

namespace Packet

variable {h : FixedHeader} {vh : VariableHeader} {pl : Payload}

/-- A fixed header makes a packet alone if no variable header is to follow it. -/
lemma exists_ofParts_bare (hv : h.kind.hasVariableHeader = false) :
    ∃ p, ofParts h none none = .ok p := by
  rw [ofParts]
  cases hk : h.kind with
  | pingReq | pingResp | disconnect => exact ⟨_, rfl⟩
  | connect | connAck | publish | pubAck | pubRec | pubRel | pubComp | subscribe | subAck
  | unsubscribe | unsubAck =>
    rw [hk] at hv
    cases hv

/-- A fixed header and a variable header make a packet if no payload is to follow them. -/
lemma exists_ofParts_header (hp : h.kind.hasPayload = false) (hv : vh.Fits h) :
    ∃ p, ofParts h (some vh) none = .ok p := by
  rw [ofParts]
  cases vh with
  | connect header | publish header =>
    rw [hv.1] at hp
    cases hp
  | connAck header =>
    rw [hv.1]
    exact ⟨_, rfl⟩
  | packetId id =>
    rw [VariableHeader.Fits] at hv
    cases hk : h.kind with
    | pubAck | pubRec | pubRel | pubComp | unsubAck => exact ⟨_, rfl⟩
    | connect | publish | subscribe | subAck | unsubscribe =>
      rw [hk] at hp
      cases hp
    | connAck | pingReq | pingResp | disconnect =>
      rw [hk] at hv
      cases hv

/-- A fixed header makes a packet with a variable header and a payload that it announces. -/
lemma exists_ofParts_payload (hv : vh.Fits h) (hp : pl.Fits h vh) :
    ∃ p, ofParts h (some vh) (some pl) = .ok p := by
  rw [ofParts]
  cases pl with
  | connect payload =>
    obtain ⟨hk, header, rfl, -⟩ := hp
    rw [hk]
    exact ⟨_, rfl⟩
  | publish message =>
    have hk : h.kind = .publish := hp
    cases vh <;> simp_all [VariableHeader.Fits, PacketKind.hasIdHeader, Body.ofParts?]
  | subscribe entries | subAck entries | unsubscribe entries =>
    have hk := hp.1
    cases vh <;> simp_all [VariableHeader.Fits, PacketKind.hasIdHeader, Body.ofParts?]

end Packet

end Mqtt
