import Mqtt.Proofs.Stream.Forms
import Mqtt.Proofs.Stream.Reentrancy

/-!
# Delivered packets

However the chunks are cut, and even where they arrive in the middle of a delivery, the packets that
decoders deliver are those that have a wire form (`Packet.delivered_iff`).
-/

namespace Mqtt

/-- The decoders that a new one may become. -/
inductive Decoder.Reached : Decoder → Prop where
  | new : Reached new
  | receive {decoder : Decoder} (h : Reached decoder) (arrivals : List (List Bytes))
      (chunk : Bytes) : Reached (decoder.receiveWith arrivals chunk).decoder

/-- Some decoder delivers the packet at some time. -/
def Packet.Delivered (p : Packet) : Prop :=
  ∃ decoder : Decoder, decoder.Reached ∧
    ∃ arrivals chunk, p ∈ (decoder.receiveWith arrivals chunk).packets

namespace Decoder

lemma exists_receive (decoder : Decoder) (arrivals : List (List Bytes)) (chunk : Bytes) :
    ∃ bs, (decoder.receiveWith arrivals chunk).decoder = (decoder.receive bs).decoder ∧
      (decoder.receiveWith arrivals chunk).packets = (decoder.receive bs).packets := by
  have hagrees := decoder.receiveWith_agrees_receive arrivals chunk
  exact ⟨_, hagrees.decoder, hagrees.packets⟩

lemma Reached.exists_receive_new {decoder : Decoder} (h : decoder.Reached) :
    ∃ bs, decoder = (Decoder.new.receive bs).decoder := by
  induction h with
  | new => exact ⟨[], by rw [settled_new]⟩
  | receive h arrivals chunk ih =>
    obtain ⟨bs, rfl⟩ := ih
    obtain ⟨more, hmore, -⟩ := exists_receive (Decoder.new.receive bs).decoder arrivals chunk
    exact ⟨bs ++ more, by rw [hmore, (receive_append Decoder.new bs more).decoder]⟩

end Decoder

namespace Packet

variable {p : Packet}

lemma Delivered.exists_receive_new (h : p.Delivered) :
    ∃ bs, p ∈ (Decoder.new.receive bs).packets := by
  obtain ⟨decoder, hd, arrivals, chunk, hp⟩ := h
  obtain ⟨bs, rfl⟩ := hd.exists_receive_new
  obtain ⟨more, -, hmore⟩ := Decoder.exists_receive (Decoder.new.receive bs).decoder arrivals chunk
  refine ⟨bs ++ more, ?_⟩
  rw [(Decoder.receive_append Decoder.new bs more).packets, ← hmore]
  exact List.mem_append_right _ hp

lemma Delivered.exists_form (h : p.Delivered) : ∃ field body, p.Form field body := by
  obtain ⟨bs, hp⟩ := h.exists_receive_new
  obtain ⟨frames, tail, rfl, hframes, htail⟩ := exists_framing bs
  obtain ⟨before, after, packets, rfl, hb, ha⟩ := Decoder.exists_accepted hframes htail
  obtain ⟨ds, hdrain, rfl, -⟩ := Decoder.drain_frames hb (after.flatten ++ tail)
  rw [Decoder.receive_new, List.flatten_append, List.append_assoc, hdrain,
    Received.packets_behind, Received.packets, ha, List.map_nil, List.append_nil] at hp
  have hform : ∀ q ∈ ds.map (·.packet), ∃ field body, q.Form field body := by
    refine ((List.forall₂_and_left _ _).mp (hb.imp fun q f hq => ⟨?_, hq⟩)).1
    obtain ⟨field, body, -, hform⟩ := Stage.completes_iff.mp hq
    exact ⟨field, body, hform⟩
  exact hform p hp

lemma Form.delivered {field body : Bytes} (h : p.Form field body) : p.Delivered := by
  have hp := Decoder.accepts_of_completes (Stage.completes_iff.mpr ⟨field, body, rfl, h⟩)
  refine ⟨.new, .new, [], p.header.firstByte :: (field ++ body), ?_⟩
  rw [← Decoder.receive, hp]
  exact List.mem_singleton_self p

/-- A packet is delivered, by whatever decoder, if it has a wire form and only then. -/
theorem delivered_iff : p.Delivered ↔ ∃ field body, p.Form field body := by
  constructor
  · exact Delivered.exists_form
  · rintro ⟨field, body, h⟩
    exact h.delivered

end Packet

end Mqtt
