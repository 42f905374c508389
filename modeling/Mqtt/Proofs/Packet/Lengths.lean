import Mqtt.Packet.Encoding
import Mqtt.Proofs.Wire.Recognition

/-!
# Lengths of packet bodies

The lengths that are computed from the fields of a packet are those of what its writers put out.
The fixed header is written before the body, so it is on this that its length field relies.
-/

namespace Mqtt

/-! ### Outputs of known length -/

namespace Output

/-- Unless there is an error, `n` bytes are put out. -/
def HasLength (o : Output) (n : Nat) : Prop :=
  ∀ bs, o = .of bs → bs.length = n

lemma hasLength_of (bs : Bytes) : (of bs).HasLength bs.length := by
  intro cs h
  rw [of_eq_of_iff.mp h]

lemma hasLength_fail (e : EncodeError) (n : Nat) : (fail e).HasLength n := by
  intro bs h
  exact absurd h (fail_ne_of e bs)

lemma HasLength.append {a b : Output} {m n : Nat} (ha : a.HasLength m) (hb : b.HasLength n) :
    (a ++ b).HasLength (m + n) := by
  intro bs h
  obtain ⟨x, y, rfl, hx, hy⟩ := append_eq_of_iff.mp h
  rw [List.length_append, ha x hx, hb y hy]

lemma hasLength_byte (b : UInt8) : (byte b).HasLength 1 :=
  hasLength_of _

lemma hasLength_word (w : UInt16) : (word w).HasLength 2 :=
  hasLength_of _

lemma hasLength_binary (bs : Bytes) : (binary bs).HasLength (fieldLength bs.length) := by
  rw [binary]
  split
  · exact (hasLength_word _).append (hasLength_of _)
  · exact hasLength_fail _ _

lemma hasLength_text (s : String) : (text s).HasLength (fieldLength s.utf8ByteSize) := by
  simp only [text]
  split
  · exact hasLength_fail _ _
  · rw [← Text.length_utf8]
    exact hasLength_binary _

lemma hasLength_concat {α : Type} {write : α → Output} {length : α → Nat}
    (h : ∀ a, (write a).HasLength (length a)) (as : List α) :
    (concat write as).HasLength (as.foldr (fun a n => length a + n) 0) := by
  induction as with
  | nil => exact hasLength_of []
  | cons a as ih => exact (h a).append ih

end Output

/-! ### Parts -/

lemma ConnectHeader.hasLength_write (h : ConnectHeader) : h.write.HasLength h.length :=
  (((Output.hasLength_text _).append (Output.hasLength_byte _)).append
    (Output.hasLength_byte _)).append (Output.hasLength_word _)

namespace ConnectPayload

lemma hasLength_writeIf_text (o : Option String) : (writeIf .text o).HasLength (textLength o) := by
  cases o with
  | none => exact Output.hasLength_of []
  | some s => exact Output.hasLength_text s

lemma hasLength_writeIf_binary (o : Option Bytes) :
    (writeIf .binary o).HasLength (binaryLength o) := by
  cases o with
  | none => exact Output.hasLength_of []
  | some bs => exact Output.hasLength_binary bs

lemma hasLength_write (p : ConnectPayload) : p.write.HasLength p.length :=
  ((((Output.hasLength_text _).append (hasLength_writeIf_text _)).append
    (hasLength_writeIf_binary _)).append (hasLength_writeIf_text _)).append
      (hasLength_writeIf_binary _)

end ConnectPayload

lemma ConnAckHeader.hasLength_write (h : ConnAckHeader) : h.write.HasLength length :=
  (Output.hasLength_byte _).append (Output.hasLength_byte _)

lemma PublishHeader.hasLength_write (h : PublishHeader) : h.write.HasLength h.length := by
  rw [write]
  split
  · exact Output.hasLength_fail _ _
  · refine (Output.hasLength_text _).append ?_
    cases h.packetId with
    | none => exact Output.hasLength_of []
    | some id => exact Output.hasLength_word id

lemma VariableHeader.hasLength_write (vh : VariableHeader) : vh.write.HasLength vh.length := by
  cases vh with
  | connect h => exact h.hasLength_write
  | connAck h => exact h.hasLength_write
  | publish h => exact h.hasLength_write
  | packetId id => exact Output.hasLength_word id

lemma TopicSubscription.hasLength_writeList (ss : List TopicSubscription) :
    (writeList ss).HasLength (listLength ss) :=
  Output.hasLength_concat (fun _ => (Output.hasLength_text _).append (Output.hasLength_byte _)) ss

lemma SubAckCode.hasLength_writeList (codes : List SubAckCode) :
    (writeList codes).HasLength codes.length := by
  rw [← List.length_map toByte]
  exact Output.hasLength_of _

lemma TopicFilter.hasLength_writeList (filters : List String) :
    (writeList filters).HasLength (listLength filters) :=
  Output.hasLength_concat Output.hasLength_text filters

/-! ### Bodies -/

namespace Body

lemma hasLength_writeEntries {α : Type} {kind : PacketKind} {id : UInt16} {entries : List α}
    {writeList : List α → Output} {n : Nat} (h : (writeList entries).HasLength n) :
    (writeEntries kind id entries writeList).HasLength (packetIdLength + n) := by
  rw [writeEntries]
  split
  · exact Output.hasLength_fail _ _
  · exact (Output.hasLength_word id).append h

/-- The body of a packet is as long as the packet's header says once it is put right. -/
theorem hasLength_write (b : Body) : b.write.HasLength b.length := by
  cases b with
  | connect h p =>
    rw [write]
    split
    · exact Output.hasLength_fail _ _
    · exact h.hasLength_write.append p.hasLength_write
  | connAck h => exact h.hasLength_write
  | publish h message => exact h.hasLength_write.append (Output.hasLength_of message)
  | subscribe id ss => exact hasLength_writeEntries (TopicSubscription.hasLength_writeList ss)
  | subAck id codes => exact hasLength_writeEntries (SubAckCode.hasLength_writeList codes)
  | unsubscribe id filters => exact hasLength_writeEntries (TopicFilter.hasLength_writeList filters)
  | pubAck id | pubRec id | pubRel id | pubComp id | unsubAck id => exact Output.hasLength_word id
  | pingReq | pingResp | disconnect => exact Output.hasLength_of []

end Body

end Mqtt
