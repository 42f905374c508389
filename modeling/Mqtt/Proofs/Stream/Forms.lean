import Mqtt.Proofs.Packet.Forms
import Mqtt.Proofs.Stream.Frames

/-!
# Completing a packet by its wire form

The bytes that complete a packet from the first stage on are its wire forms and no others
(`Stage.completes_iff`). With this the loop is out of the way: what the decoder accepts and what the
encoder puts out are both told in terms of forms.
-/

namespace Mqtt

namespace Stage

variable {h : FixedHeader} {vh : VariableHeader} {p : Packet} {bs : Bytes}

lemma finish_eq_complete_iff {vh : Option VariableHeader} {pl : Option Payload} {used n : Nat} :
    finish h vh pl used = .ok (.complete p n) ↔ Packet.ofParts h vh pl = .ok p ∧ used = n := by
  rw [finish, map_eq_ok_iff]
  constructor
  · rintro ⟨q, hq, hs⟩
    cases hs
    exact ⟨hq, rfl⟩
  · rintro ⟨hp, rfl⟩
    exact ⟨p, hp, rfl⟩

/-! ### Complete windows

The stages after the first, where all the bytes that the packet lacks are there. -/

lemma step_payload : step bs (.payload h vh bs.length) = decodePayload h vh bs.length bs := by
  rw [step, needsMoreData, if_neg]
  · rfl
  · rw [Bytes.shorterThan_iff]
    omega

lemma step_variableHeader (hb : bs.length = h.remainingLength) :
    step bs (.variableHeader h) = decodeVariableHeader h bs := by
  rw [step, needsMoreData, if_neg]
  · rfl
  · rw [Bytes.shorterThan_iff]
    omega

lemma exists_done_of_step {s : Step} (hb : bs.length = h.remainingLength)
    (hs : step bs (.variableHeader h) = .ok s) : ∃ vh n, VariableHeader.read h bs = .done vh n := by
  simp only [step_variableHeader hb, decodeVariableHeader, ← hb, List.take_length, if_true] at hs
  split at hs
  · cases hs
  · cases hs
  · exact ⟨_, _, ‹_›⟩

lemma step_of_done {n : Nat} (hb : bs.length = h.remainingLength)
    (hr : VariableHeader.read h bs = .done vh n) : step bs (.variableHeader h) =
      if h.kind.hasPayload then .ok (.advanced (.payload h vh (bs.drop n).length) n)
      else if (bs.drop n).length = 0 then finish h (some vh) none n
      else .error .invalidPayloadBytes := by
  simp only [step_variableHeader hb, decodeVariableHeader, ← hb, List.take_length, hr,
    List.length_drop]

lemma completes_payload_iff : Completes p (.payload h vh bs.length) bs ↔
    ∃ pl, Payload.read h vh bs = .ok pl ∧ Packet.ofParts h (some vh) (some pl) = .ok p := by
  have hstep : step bs (.payload h vh bs.length) = _ := step_payload
  rw [decodePayload, List.take_length] at hstep
  constructor
  · intro hc
    cases hc with
    | last hs =>
      rw [hstep] at hs
      split at hs
      · cases hs
      · rename_i pl hpl
        exact ⟨pl, hpl, (finish_eq_complete_iff.mp hs).1⟩
    | advance hs hn =>
      rw [hstep] at hs
      split at hs
      · cases hs
      · obtain ⟨q, hq⟩ := finish_eq_ok hs
        cases hq
  · rintro ⟨pl, hpl, hp⟩
    rw [hpl] at hstep
    refine .last ?_
    rw [hstep]
    exact finish_eq_complete_iff.mpr ⟨hp, rfl⟩

lemma completes_variableHeader_iff (hb : bs.length = h.remainingLength)
    (hv : h.kind.hasVariableHeader = true) : Completes p (.variableHeader h) bs ↔
      ∃ vh pl, Parses h vh pl bs ∧ Packet.ofParts h vh pl = .ok p := by
  constructor
  · intro hc
    cases hc with
    | last hs =>
      obtain ⟨vh, n, hr⟩ := exists_done_of_step hb hs
      rw [step_of_done hb hr] at hs
      split at hs <;> rename_i hp
      · cases hs
      · split at hs
        · obtain ⟨hparts, rfl⟩ := finish_eq_complete_iff.mp hs
          exact ⟨some vh, none, .header (Bool.eq_false_iff.mpr hp) hr, hparts⟩
        · cases hs
    | advance hs hn =>
      obtain ⟨vh, n, hr⟩ := exists_done_of_step hb hs
      rw [step_of_done hb hr] at hs
      split at hs <;> rename_i hp
      · cases hs
        obtain ⟨pl, hpl, hparts⟩ := completes_payload_iff.mp hn
        exact ⟨some vh, some pl, .payload hp hr hpl, hparts⟩
      · split at hs
        · obtain ⟨q, hq⟩ := finish_eq_ok hs
          cases hq
        · cases hs
  · rintro ⟨vh, pl, hparses, hparts⟩
    cases hparses with
    | bare hnone =>
      rw [hv] at hnone
      cases hnone
    | header hp hr =>
      refine .last ?_
      rw [step_of_done hb hr, if_neg (by simp [hp]), if_pos (by simp)]
      exact finish_eq_complete_iff.mpr ⟨hparts, rfl⟩
    | payload hp hr hpl =>
      have hs := step_of_done hb hr
      rw [if_pos hp] at hs
      exact .advance hs (completes_payload_iff.mpr ⟨_, hpl, hparts⟩)

lemma completes_frame_iff {field body : Bytes}
    (hreq : FixedHeader.hasRequiredQoS h.kind h.qos = true)
    (hfield : RemainingLength.Field field h.remainingLength) :
    Completes p .fixedHeader (h.firstByte :: (field ++ body)) ↔ body.length = h.remainingLength ∧
      ∃ vh pl, Parses h vh pl body ∧ Packet.ofParts h vh pl = .ok p := by
  have hlength : (h.firstByte :: (field ++ body)).length = field.length + 1 + body.length := by
    simp
    omega
  have hdrop : (h.firstByte :: (field ++ body)).drop (field.length + 1) = body := by simp
  have hstep := step_frame body hreq hfield
  constructor
  · intro hc
    cases hc with
    | last hs =>
      rw [hstep] at hs
      split at hs <;> rename_i hv
      · cases hs
      · split at hs <;> rename_i hz
        · obtain ⟨hparts, hused⟩ := finish_eq_complete_iff.mp hs
          have hbody : body = [] := List.eq_nil_of_length_eq_zero (by omega)
          rw [hbody]
          exact ⟨hz.symm, none, none, .bare (Bool.eq_false_iff.mpr hv), hparts⟩
        · cases hs
    | advance hs hn =>
      rw [hstep] at hs
      split at hs <;> rename_i hv
      · cases hs
        rw [hdrop] at hn
        have hb := hn.length_eq rfl
        exact ⟨hb, (completes_variableHeader_iff hb hv).mp hn⟩
      · split at hs
        · obtain ⟨q, hq⟩ := finish_eq_ok hs
          cases hq
        · cases hs
  · rintro ⟨hb, vh, pl, hparses, hparts⟩
    have hsome := hparses.isSome_eq
    cases hv : h.kind.hasVariableHeader with
    | true =>
      rw [if_pos hv] at hstep
      refine .advance hstep ?_
      rw [hdrop]
      exact (completes_variableHeader_iff hb hv).mpr ⟨vh, pl, hparses, hparts⟩
    | false =>
      rw [hv, Option.isSome_eq_false_iff, Option.isNone_iff_eq_none] at hsome
      subst hsome
      cases hparses
      have hz : h.remainingLength = 0 := hb.symm
      rw [if_neg (by simp [hv]), if_pos hz] at hstep
      refine .last ?_
      rw [hstep, hlength]
      exact finish_eq_complete_iff.mpr ⟨hparts, rfl⟩

/-- A packet is completed by its wire forms. -/
theorem completes_iff : Completes p .fixedHeader bs ↔
    ∃ field body, bs = p.header.firstByte :: (field ++ body) ∧ p.Form field body := by
  constructor
  · intro hc
    have htaken : ∃ s, fixedHeader.step bs = .ok s ∧ s ≠ .insufficient := by
      cases hc with
      | last hs => exact ⟨_, hs, by simp⟩
      | advance hs hn => exact ⟨_, hs, by simp⟩
    obtain ⟨s, hs, hne⟩ := htaken
    obtain ⟨h, field, body, rfl, hreq, hfield⟩ := exists_header_of_step hs hne
    obtain ⟨hb, vh, pl, hparses, hparts⟩ := (completes_frame_iff hreq hfield).mp hc
    obtain ⟨rfl, hk, rfl, rfl⟩ := Packet.ofParts_eq_ok_iff.mp hparts
    obtain ⟨hid, hcode, hbody⟩ := (Packet.parses_iff hk).mp hparses
    rw [← hb] at hfield
    exact ⟨field, body, rfl, ⟨hk, hcode⟩, hreq, hid, hb.symm, hfield, hbody⟩
  · rintro ⟨field, body, rfl, hf⟩
    have hparses := (Packet.parses_iff hf.proper.kind).mpr
      ⟨hf.rightPacketId, hf.proper.code, hf.body⟩
    rw [completes_frame_iff hf.requiredQoS (by rw [hf.remainingLength]; exact hf.field)]
    exact ⟨hf.remainingLength.symm, _, _, hparses,
      Packet.ofParts_eq_ok_iff.mpr ⟨rfl, hf.proper.kind, rfl, rfl⟩⟩

end Stage

end Mqtt
