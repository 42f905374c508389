import Mqtt.Proofs.Stream.Forms

/-!
# Headers of another kind

The encoder writes the header by the kind in the header and the body by the kind of the body, and
does not compare the two. Whatever it puts out is one frame, which is read by the kind in the header
or not at all: a packet is read back as one of its kind exactly if it stands behind a header of its
kind (`Packet.readsAs_kind_iff_of_encode`).
-/

namespace Mqtt

/-! ### Names of outcomes

An outcome of CONNACK that goes by a byte, though the byte has a name, is written like the outcome
of that name.
-/

/-- The body with the outcome of a CONNACK under its proper name. -/
def Body.named : Body → Body
  | .connAck h => .connAck { h with code := ConnectCode.ofByte h.code.toByte }
  | body       => body

namespace Body

@[simp] lemma kind_named (body : Body) : body.named.kind = body.kind := by
  cases body <;> rfl

@[simp] lemma length_named (body : Body) : body.named.length = body.length := by
  cases body <;> rfl

lemma hasProperCode_named (body : Body) : body.named.HasProperCode := by
  cases body with
  | connAck h =>
    refine ConnectCode.ofByte_toByte_iff.mp ?_
    rw [ConnectCode.toByte_ofByte]
  | connect | publish | pubAck | pubRec | pubRel | pubComp | subscribe | subAck | unsubscribe
  | unsubAck | pingReq | pingResp | disconnect => exact trivial

@[simp] lemma write_named (body : Body) : body.named.write = body.write := by
  cases body with
  | connAck h => simp only [named, write, ConnAckHeader.write, ConnectCode.toByte_ofByte]
  | connect | publish | pubAck | pubRec | pubRel | pubComp | subscribe | subAck | unsubscribe
  | unsubAck | pingReq | pingResp | disconnect => rfl

end Body

namespace Packet

/-- The packet with the outcome of a CONNACK under its proper name. -/
def named (p : Packet) : Packet :=
  { p with body := p.body.named }

lemma hasRightPacketId_named (p : Packet) : p.named.hasRightPacketId = p.hasRightPacketId := by
  obtain ⟨h, body⟩ := p
  cases body <;> rfl

lemma encode_named (p : Packet) : p.named.encode = p.encode := by
  rw [encode, encode, hasRightPacketId_named]
  simp only [trueHeader, named, Body.length_named, Body.write_named]

end Packet

/-! ### One frame -/

lemma FixedHeader.kind_eq_of_firstByte {h h' : FixedHeader} (hb : h.firstByte = h'.firstByte) :
    h.kind = h'.kind := by
  have hbyte := toNat_firstByte h
  have hbyte' := toNat_firstByte h'
  have hd := h.dup.toNat_le
  have hd' := h'.dup.toNat_le
  have hq := h.qos.level_le
  have hq' := h'.qos.level_le
  have hr := h.retain.toNat_le
  have hr' := h'.retain.toNat_le
  have hcode : h.kind.code = h'.kind.code := by
    rw [hb] at hbyte
    omega
  have hkind := PacketKind.ofCode?_code h.kind
  rw [hcode, PacketKind.ofCode?_code, Option.some.injEq] at hkind
  exact hkind.symm

namespace Decoder

/-- A new decoder makes one packet of the bytes, of the kind `kind`, without an error and without
keeping any byte. -/
structure ReadsAs (kind : PacketKind) (bs : Bytes) : Prop where
  error : (new.receive bs).error = none
  packets : ∃ p, (new.receive bs).packets = [p] ∧ p.body.kind = kind
  buffered : (new.receive bs).decoder.buffered = 0

lemma Accepts.readsAs {p : Packet} {bs : Bytes} (h : Accepts p bs) : ReadsAs p.body.kind bs := by
  rw [Accepts] at h
  refine ⟨?_, ⟨p, ?_, rfl⟩, ?_⟩ <;> rw [h] <;> rfl

lemma ReadsAs.eq {kind kind' : PacketKind} {bs : Bytes} (h : ReadsAs kind bs)
    (h' : ReadsAs kind' bs) : kind = kind' := by
  obtain ⟨p, hp, rfl⟩ := h.packets
  obtain ⟨p', hp', rfl⟩ := h'.packets
  rw [hp, List.cons.injEq] at hp'
  rw [hp'.1]

lemma Rejects.not_readsAs {e : DecodeError} {bs : Bytes} (h : Rejects e bs) (kind : PacketKind) :
    ¬ ReadsAs kind bs := by
  intro hreads
  have herror := hreads.error
  rw [show new.receive bs = _ from h] at herror
  cases herror

end Decoder

namespace Packet

variable {p : Packet} {bs : Bytes}

lemma frame_of_encode (h : p.encode = .ok bs) :
    Frame bs ∧ ∃ rest, bs = p.header.firstByte :: rest := by
  obtain ⟨-, -, hn, body, hbody, rfl⟩ := encode_eq_ok_iff.mp h
  have hlength := p.body.hasLength_write body hbody
  refine ⟨⟨_, _, body, rfl, ?_⟩, _, rfl⟩
  rw [hlength]
  exact RemainingLength.field_digits hn

/-- The first byte decides: the frame is a packet of the kind in the header, or none. -/
lemma readsAs_or_rejects_of_encode (h : p.encode = .ok bs) :
    Decoder.ReadsAs p.header.kind bs ∨ ∃ e, Decoder.Rejects e bs := by
  obtain ⟨hframe, rest, hfirst⟩ := frame_of_encode h
  rcases Stage.completes_or_fails_of_frame hframe with ⟨q, hq⟩ | ⟨e, he⟩
  · obtain ⟨field, body, hbs, hform⟩ := Stage.completes_iff.mp hq
    have hkind : q.header.kind = p.header.kind := by
      rw [hfirst, List.cons.injEq] at hbs
      exact FixedHeader.kind_eq_of_firstByte hbs.1.symm
    rw [← hkind, ← hform.proper.kind]
    exact .inl (Decoder.accepts_of_completes hq).readsAs
  · exact .inr ⟨e, Decoder.rejects_of_fails he⟩

lemma eq_kind_of_readsAs {kind : PacketKind} (h : p.encode = .ok bs)
    (hreads : Decoder.ReadsAs kind bs) : kind = p.header.kind := by
  rcases readsAs_or_rejects_of_encode h with hread | ⟨e, he⟩
  · exact hreads.eq hread
  · exact absurd hreads (he.not_readsAs kind)

lemma accepts_named_of_encode (hk : p.body.kind = p.header.kind) (h : p.encode = .ok bs) :
    Decoder.Accepts { p.named with header := p.trueHeader } bs := by
  have hproper : p.named.Proper := ⟨p.body.kind_named.trans hk, p.body.hasProperCode_named⟩
  obtain ⟨field, body, rfl, hform⟩ := form_of_encode hproper ((encode_named p).trans h)
  have htrue : p.named.trueHeader = p.trueHeader := by
    rw [trueHeader, trueHeader, named, Body.length_named]
  rw [htrue] at hform
  exact Decoder.accepts_of_completes (Stage.completes_iff.mpr ⟨field, body, rfl, hform⟩)

/-- What the encoder puts out is a packet of the kind in the header or an error, so that it is read
back as a packet of the kind that was written only if that is the kind in the header; and then it
always is. -/
theorem readsAs_kind_iff_of_encode (h : p.encode = .ok bs) :
    (Decoder.ReadsAs p.header.kind bs ∨ ∃ e, Decoder.Rejects e bs) ∧
      (Decoder.ReadsAs p.body.kind bs ↔ p.body.kind = p.header.kind) := by
  refine ⟨readsAs_or_rejects_of_encode h, eq_kind_of_readsAs h, fun hk => ?_⟩
  have hreads := (accepts_named_of_encode hk h).readsAs
  rwa [named, Body.kind_named] at hreads

/-- A SUBSCRIBE at QoS 0 behind the header of a PUBACK. -/
def subscribeAsPubAck : Packet :=
  ⟨FixedHeader.new .pubAck 0, .subscribe 1 [⟨"a", .atMostOnce⟩]⟩

lemma encode_subscribeAsPubAck :
    subscribeAsPubAck.encode = .ok [0x40, 0x06, 0x00, 0x01, 0x00, 0x01, 0x61, 0x00] := by
  decide +kernel

theorem readsAs_kind_iff_of_encode_subscribeAsPubAck :
    let bs : Bytes := [0x40, 0x06, 0x00, 0x01, 0x00, 0x01, 0x61, 0x00]
    subscribeAsPubAck.encode = .ok bs ∧
      (Decoder.ReadsAs .pubAck bs ∨ ∃ e, Decoder.Rejects e bs) ∧
      (Decoder.ReadsAs .subscribe bs ↔ PacketKind.subscribe = .pubAck) :=
  ⟨encode_subscribeAsPubAck, readsAs_kind_iff_of_encode encode_subscribeAsPubAck⟩

/-- The encoder lets packets through that no decoder makes of what it puts out. -/
theorem not_readsAs_subscribeAsPubAck :
    ¬ ∀ (p : Packet) (bs : Bytes), p.encode = .ok bs → Decoder.ReadsAs p.body.kind bs := by
  intro hall
  have hreads := hall subscribeAsPubAck _ encode_subscribeAsPubAck
  have hkind : PacketKind.subscribe = .pubAck :=
    eq_kind_of_readsAs encode_subscribeAsPubAck hreads
  cases hkind

end Packet

end Mqtt
