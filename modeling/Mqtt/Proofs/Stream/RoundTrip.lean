import Mqtt.Proofs.Stream.Forms

/-!
# Round trips

What the encoder puts out the decoder reads, packet for packet, and what the decoder accepts the
encoder puts out again, but for the remaining length field: of all fields that say a length, only
the shortest is ever written.
-/

namespace Mqtt

/-! ### From packets to bytes and back -/

namespace Decoder

lemma completes_of_encode {packets : List Packet} {wires : List Bytes}
    (hproper : ∀ p ∈ packets, p.Proper)
    (hencode : List.Forall₂ (fun p wire => p.encode = .ok wire) packets wires) :
    List.Forall₂ (Stage.Completes · .fixedHeader ·)
      (packets.map fun p => { p with header.remainingLength := p.body.length }) wires := by
  induction hencode with
  | nil => exact .nil
  | cons hp hps ih =>
    obtain ⟨field, body, hwire, hform⟩ := Packet.form_of_encode (hproper _ (by simp)) hp
    exact .cons (Stage.completes_iff.mpr ⟨field, body, hwire, hform⟩)
      (ih fun q hq => hproper q (by simp [hq]))

/-- Packets written one after the other are read as they were, in order, under the lengths that
their bodies really have, and leave the decoder as it was. -/
theorem receive_encoded {packets : List Packet} {wires : List Bytes}
    (hproper : ∀ p ∈ packets, p.Proper)
    (hencode : List.Forall₂ (fun p wire => p.encode = .ok wire) packets wires) :
    (new.receive wires.flatten).packets
        = packets.map (fun p => { p with header.remainingLength := p.body.length }) ∧
      (new.receive wires.flatten).error = none ∧ (new.receive wires.flatten).decoder = new := by
  obtain ⟨ds, hdrain, hpackets, -⟩ := drain_frames (completes_of_encode hproper hencode) []
  rw [List.append_nil, Stage.drain_nil] at hdrain
  rw [receive_new, hdrain, ← hpackets]
  exact ⟨by simp [Received.packets], rfl, rfl⟩

/-- The lengths that these headers claim are wrong, which nothing written shows. -/
theorem receive_encoded_subAck_pingReq :
    let subAck : Packet := ⟨FixedHeader.new .subAck 77, .subAck 1 [.granted .exactlyOnce, .failure]⟩
    let pingReq : Packet := ⟨FixedHeader.new .pingReq 5, .pingReq⟩
    (new.receive [0x90, 0x04, 0x00, 0x01, 0x02, 0x80, 0xC0, 0x00]).packets
        = [{ subAck with header.remainingLength := 4 },
          { pingReq with header.remainingLength := 0 }] ∧
      (new.receive [0x90, 0x04, 0x00, 0x01, 0x02, 0x80, 0xC0, 0x00]).error = none ∧
      (new.receive [0x90, 0x04, 0x00, 0x01, 0x02, 0x80, 0xC0, 0x00]).decoder = new := by
  intro subAck pingReq
  have hproper : ∀ p ∈ [subAck, pingReq], p.Proper := by
    simp only [List.forall_mem_cons]
    exact ⟨⟨rfl, trivial⟩, ⟨rfl, trivial⟩, by simp⟩
  have hsubAck : subAck.encode = .ok [0x90, 0x04, 0x00, 0x01, 0x02, 0x80] := rfl
  have hpingReq : pingReq.encode = .ok [0xC0, 0x00] := rfl
  exact receive_encoded hproper (.cons hsubAck (.cons hpingReq .nil))

end Decoder

/-! ### From bytes to a packet and back -/

namespace Stage

lemma ne_fixedHeader_of_advanced {stage next : Stage} {bs : Bytes} {used : Nat}
    (h : stage.step bs = .ok (.advanced next used)) : next ≠ .fixedHeader := by
  cases stage with
  | fixedHeader =>
    obtain ⟨fh, field, rest, rfl, hreq, hfield⟩ := exists_header_of_step h (by simp)
    rw [step_frame rest hreq hfield] at h
    split at h
    · cases h
      simp
    · split at h
      · obtain ⟨p, hp⟩ := finish_eq_ok h
        cases hp
      · cases h
  | variableHeader fh =>
    rintro rfl
    have hs := owing_step rfl h
    cases hs.2
  | payload fh vh owed =>
    rintro rfl
    have hs := owing_step rfl h
    cases hs.2

/-- Nothing is read, and nothing was there, where reading ends as it would have started. -/
lemma eq_nil_of_drain {stage : Stage} {bs : Bytes}
    (h : stage.drain bs = ⟨.live .fixedHeader [], [], none⟩) : stage = .fixedHeader ∧ bs = [] := by
  induction stage, bs using drain_induction with
  | insufficient stage bs hs =>
    rw [drain_insufficient hs] at h
    cases h
    exact ⟨rfl, rfl⟩
  | error stage bs e hs =>
    rw [drain_error hs] at h
    cases h
  | advanced stage bs next used hs ih =>
    rw [drain_advanced hs] at h
    exact absurd (ih h).1 (ne_fixedHeader_of_advanced hs)
  | complete stage bs packet used hs ih =>
    rw [drain_complete hs] at h
    cases congrArg Received.deliveries h

lemma completes_of_drain {stage : Stage} {bs : Bytes} {d : Delivery}
    (h : stage.drain bs = ⟨.live .fixedHeader [], [d], none⟩) : Completes d.packet stage bs := by
  induction stage, bs using drain_induction with
  | insufficient stage bs hs =>
    rw [drain_insufficient hs] at h
    cases h
  | error stage bs e hs =>
    rw [drain_error hs] at h
    cases h
  | advanced stage bs next used hs ih =>
    rw [drain_advanced hs] at h
    exact .advance hs (ih h)
  | complete stage bs packet used hs ih =>
    rw [drain_complete hs] at h
    cases hrest : fixedHeader.drain (bs.drop used) with
    | mk decoder deliveries error =>
      rw [hrest] at h
      simp only [Received.behind, Received.mk.injEq, List.singleton_append, List.cons.injEq] at h
      obtain ⟨rfl, ⟨rfl, rfl⟩, rfl⟩ := h
      have hnil := (eq_nil_of_drain hrest).2
      have ht : used ≤ bs.length ∧ (0 < used ∨ stage.rank = 1) := taken_step hs
      rw [List.drop_eq_nil_iff] at hnil
      rw [Nat.le_antisymm ht.1 hnil] at hs
      exact .last hs

end Stage

lemma QoS.isAcknowledged_iff {q : QoS} : q.isAcknowledged = true ↔ q ≠ .atMostOnce := by
  cases q <;> simp [isAcknowledged]

namespace Decoder

lemma eq_new_of_isClosed_eq_false {decoder : Decoder} (hc : decoder.isClosed = false)
    (hs : decoder.stage = .fixedHeader) (hb : decoder.buffered = 0) : decoder = new := by
  cases decoder with
  | closed => cases hc
  | live stage buffer =>
    rw [show stage = .fixedHeader from hs, show buffer = [] from List.eq_nil_of_length_eq_zero hb]
    rfl

/-- The bytes `first`, `field` and `body` make the packet `p`, which is written with the same first
byte and body behind the shortest field that says what `field` says. -/
structure Canonical (p : Packet) (first : UInt8) (field body : Bytes) : Prop where
  read : RemainingLength.Field field body.length
  written : p.encode = .ok
    (first :: (RemainingLength.digits RemainingLength.maxDigits body.length ++ body))
  writtenField :
    RemainingLength.Field (RemainingLength.digits RemainingLength.maxDigits body.length) body.length
  shortest : ∀ other, RemainingLength.Field other body.length →
    (RemainingLength.digits RemainingLength.maxDigits body.length).length ≤ other.length
  remainingLength : p.header.remainingLength = p.body.length
  kind : p.body.kind = p.header.kind
  connect : ∀ h payload, p.body = .connect h payload → h.check payload = .ok ()
  publish : ∀ h message, p.body = .publish h message →
    (h.packetId.isSome = true ↔ p.header.qos ≠ .atMostOnce)

lemma canonical_of_form {p : Packet} {field body : Bytes} (h : p.Form field body) :
    Canonical p p.header.firstByte field body where
  read := h.field
  written := h.encode
  writtenField := RemainingLength.field_digits h.field.le_max
  shortest other ho := RemainingLength.length_digits_le_of_digits ho.2 _
  remainingLength := h.remainingLength.trans h.length_body
  kind := h.proper.kind
  connect ch payload hb := by
    have hw := h.body
    rw [hb, Body.write_connect_eq_of_iff] at hw
    exact ConnectHeader.check_eq_ok_iff.mpr hw.1
  publish ph message hb := by
    have hid := h.rightPacketId
    simp only [Packet.hasRightPacketId, hb, beq_iff_eq] at hid
    rw [hid, QoS.isAcknowledged_iff]

lemma completes_of_receive {bs : Bytes} {p : Packet} (herror : (new.receive bs).error = none)
    (hpackets : (new.receive bs).packets = [p]) (hdecoder : (new.receive bs).decoder = new) :
    Stage.Completes p .fixedHeader bs := by
  rw [receive_new] at herror hpackets hdecoder
  obtain ⟨d, hd, rfl⟩ := List.map_eq_singleton_iff.mp hpackets
  have hdrain : Stage.fixedHeader.drain bs = ⟨(Stage.fixedHeader.drain bs).decoder,
      (Stage.fixedHeader.drain bs).deliveries, (Stage.fixedHeader.drain bs).error⟩ := rfl
  rw [hdecoder, hd, herror] at hdrain
  exact Stage.completes_of_drain hdrain

/-- What is accepted to its last byte as one packet is written again as it was, but for the
field. -/
theorem canonical_of_receive {bs : Bytes} {p : Packet} (herror : (new.receive bs).error = none)
    (hpackets : (new.receive bs).packets = [p]) (hbuffered : (new.receive bs).decoder.buffered = 0)
    (hstage : (new.receive bs).decoder.stage = .fixedHeader) :
    ∃ first field body, bs = first :: (field ++ body) ∧ Canonical p first field body := by
  have hclosed : (new.receive bs).decoder.isClosed = false := by
    rw [receive_new, isClosed_drain, ← receive_new, herror]
    rfl
  have hdecoder := eq_new_of_isClosed_eq_false hclosed hstage hbuffered
  have hcompletes := completes_of_receive herror hpackets hdecoder
  obtain ⟨field, body, rfl, hform⟩ := Stage.completes_iff.mp hcompletes
  exact ⟨_, field, body, rfl, canonical_of_form hform⟩

/-- A length of 3 in two digits, where one would do. -/
theorem canonical_of_receive_subAck :
    let bs : Bytes := [0x90, 0x83, 0x00, 0x00, 0x01, 0x02]
    let p : Packet := .subAck 1 [.granted .exactlyOnce]
    (new.receive bs).error = none ∧ (new.receive bs).packets = [p] ∧
      (new.receive bs).decoder.buffered = 0 ∧ (new.receive bs).decoder.stage = .fixedHeader ∧
      ∃ first field body, bs = first :: (field ++ body) ∧ Canonical p first field body := by
  intro bs p
  have hfield : RemainingLength.Field [0x83, 0x00] 3 :=
    ⟨by decide, .more (by decide) (.last (by decide))⟩
  have hform : p.Form [0x83, 0x00] [0x00, 0x01, 0x02] :=
    ⟨⟨rfl, trivial⟩, rfl, rfl, rfl, hfield, rfl⟩
  have hp : Accepts p bs := accepts_of_completes (Stage.completes_iff.mpr ⟨_, _, rfl, hform⟩)
  have herror : (new.receive bs).error = none := by rw [hp]
  have hpackets : (new.receive bs).packets = [p] := by rw [hp]; rfl
  have hbuffered : (new.receive bs).decoder.buffered = 0 := by rw [hp]; rfl
  have hstage : (new.receive bs).decoder.stage = .fixedHeader := by rw [hp]; rfl
  exact ⟨herror, hpackets, hbuffered, hstage,
    canonical_of_receive herror hpackets hbuffered hstage⟩

end Decoder

end Mqtt
