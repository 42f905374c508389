import Mqtt.Proofs.Packet.Bodies
import Mqtt.Proofs.Packet.Lengths

/-!
# Wire forms of packets

A packet has a wire form for every remaining length field that says the length of its body. The
writer puts out the one with the shortest field, whatever length the packet's header claims
(`Packet.encode_eq_ok_iff`).
-/

namespace Mqtt

lemma Output.result_eq_ok_iff {o : Output} {bs : Bytes} : o.result = .ok bs ↔ o = .of bs := by
  obtain ⟨as, e⟩ := o
  cases e <;> simp [result, of]

lemma FixedHeader.write_eq_of_iff {h : FixedHeader} {bs : Bytes} : h.write = .of bs ↔
    hasRequiredQoS h.kind h.qos = true ∧ h.remainingLength ≤ RemainingLength.max ∧
      bs = h.firstByte :: RemainingLength.digits RemainingLength.maxDigits h.remainingLength := by
  rw [write]
  split <;> rename_i hqos
  · simp only [hqos, true_and, Output.append_eq_of_iff, Output.byte, Output.of_eq_of_iff,
      RemainingLength.write_eq_of_iff]
    constructor
    · rintro ⟨x, y, rfl, rfl, hn, rfl⟩
      exact ⟨hn, rfl⟩
    · rintro ⟨hn, rfl⟩
      exact ⟨_, _, rfl, rfl, hn, rfl⟩
  · simp [hqos]

namespace Packet

/-- The body belongs to the kind in the header, and an outcome with a name goes by it. -/
structure Proper (p : Packet) : Prop where
  kind : p.body.kind = p.header.kind
  code : p.body.HasProperCode

/-- Behind the first byte of the packet's header, `field` and `body` are a wire form of it. -/
structure Form (p : Packet) (field body : Bytes) : Prop where
  proper : p.Proper
  requiredQoS : FixedHeader.hasRequiredQoS p.header.kind p.header.qos = true
  rightPacketId : p.hasRightPacketId = true
  remainingLength : p.header.remainingLength = body.length
  field : RemainingLength.Field field body.length
  body : p.body.write = .of body

lemma Form.length_body {p : Packet} {field body : Bytes} (h : p.Form field body) :
    body.length = p.body.length :=
  p.body.hasLength_write body h.body

/-- What is written depends on the length of the body, not on the one that the header claims. -/
theorem encode_eq_ok_iff {p : Packet} {bs : Bytes} : p.encode = .ok bs ↔
    p.hasRightPacketId = true ∧ FixedHeader.hasRequiredQoS p.header.kind p.header.qos = true ∧
      p.body.length ≤ RemainingLength.max ∧ ∃ body, p.body.write = .of body ∧
        bs = p.header.firstByte ::
          (RemainingLength.digits RemainingLength.maxDigits p.body.length ++ body) := by
  rw [encode]
  split <;> rename_i hid
  · rw [Output.result_eq_ok_iff, Output.append_eq_of_iff]
    simp only [FixedHeader.write_eq_of_iff, hid, true_and]
    constructor
    · rintro ⟨x, body, rfl, ⟨hqos, hn, rfl⟩, hbody⟩
      exact ⟨hqos, hn, body, hbody, rfl⟩
    · rintro ⟨hqos, hn, body, hbody, rfl⟩
      exact ⟨_, body, rfl, ⟨hqos, hn, rfl⟩, hbody⟩
  · simp [hid]

/-- The form that is written, once the header says the length of the body. -/
lemma form_of_encode {p : Packet} {bs : Bytes} (hp : p.Proper) (h : p.encode = .ok bs) :
    ∃ field body, bs = p.header.firstByte :: (field ++ body) ∧
      ({ p with header := p.trueHeader } : Packet).Form field body := by
  obtain ⟨hid, hqos, hn, body, hbody, rfl⟩ := encode_eq_ok_iff.mp h
  have hlength := p.body.hasLength_write body hbody
  refine ⟨_, body, rfl, ⟨hp.kind, hp.code⟩, hqos, hid, hlength.symm, ?_, hbody⟩
  rw [hlength]
  exact RemainingLength.field_digits hn

/-- Written again, a form keeps everything but its field, which becomes the shortest. -/
lemma Form.encode {p : Packet} {field body : Bytes} (h : p.Form field body) :
    p.encode = .ok (p.header.firstByte ::
      (RemainingLength.digits RemainingLength.maxDigits body.length ++ body)) := by
  rw [encode_eq_ok_iff, ← h.length_body]
  exact ⟨h.rightPacketId, h.requiredQoS, h.field.le_max, body, h.body, rfl⟩

end Packet

end Mqtt
