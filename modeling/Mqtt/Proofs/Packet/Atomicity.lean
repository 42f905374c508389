import Mqtt.Proofs.Packet.Forms

/-!
# Whole or not at all

The length field of a packet is computed and written before its body, and the writer of a body may
fail midway. Nevertheless a packet is put out whole or not at all: behind the bytes that are there
already comes a header of the length computed for it and a body of the length it announces, or
nothing (`Packet.wholeOrNothing`).
-/

namespace Mqtt

/-! ### Length of the fixed header -/

namespace RemainingLength

/-- The digits that are written are as many as were counted. -/
lemma length_digits {n : Nat} (hn : n ≤ max) : (digits maxDigits n).length = digitCount n := by
  rw [max] at hn
  rw [maxDigits, digitCount]
  split
  · rw [digits_succ_of_lt (by omega), List.length_singleton]
  · rw [digits_succ_of_ge (by omega), List.length_cons]
    split
    · rw [digits_succ_of_lt (by omega), List.length_singleton]
    · rw [digits_succ_of_ge (by omega), List.length_cons]
      split
      · rw [digits_succ_of_lt (by omega), List.length_singleton]
      · rw [digits_succ_of_ge (by omega), List.length_cons, digits_succ_of_lt (by omega),
          List.length_singleton]

lemma hasLength_write (n : Nat) : (write n).HasLength (digitCount n) := by
  intro bs h
  obtain ⟨hn, rfl⟩ := write_eq_of_iff.mp h
  exact length_digits hn

end RemainingLength

lemma FixedHeader.hasLength_write (h : FixedHeader) : h.write.HasLength h.length := by
  rw [write]
  split
  · exact (Output.hasLength_byte _).append (RemainingLength.hasLength_write _)
  · exact Output.hasLength_fail _ _

/-! ### Packets -/

namespace Packet

/-- The same packet, under a header that claims the length `n` for its body. -/
def claiming (n : Nat) (p : Packet) : Packet :=
  { p with header.remainingLength := n }

/-- What comes of writing `p` behind other bytes, whatever they are and whatever length its header
claims. -/
inductive WholeOrNothing (p : Packet) : Prop where
  | nothing (e : EncodeError)
      (h : ∀ before n, (p.claiming n).encodeAfter before = ⟨before, some e⟩)
  | whole (header body : Bytes) (hheader : p.trueHeader.write = .of header)
      (hbody : p.body.write = .of body) (hlength : header.length = p.trueHeader.length)
      (hannounced : body.length = p.body.length) (hmax : p.body.length ≤ RemainingLength.max)
      (h : ∀ before n, (p.claiming n).encodeAfter before = .of (before ++ (header ++ body)))

/-- The length that a header claims makes no difference, for it is put right before it is
written. -/
lemma encode_claiming (p : Packet) (n : Nat) : (p.claiming n).encode = p.encode := rfl

/-- Every packet is written whole or not at all, in so many bytes as were computed for its header
and its body. -/
theorem wholeOrNothing (p : Packet) : p.WholeOrNothing := by
  cases he : p.encode with
  | error e =>
    refine .nothing e fun before n => ?_
    rw [encodeAfter, encode_claiming, he]
  | ok bs =>
    obtain ⟨hid, hqos, hmax, body, hbody, rfl⟩ := encode_eq_ok_iff.mp he
    have hheader := FixedHeader.write_eq_of_iff (h := p.trueHeader).mpr ⟨hqos, hmax, rfl⟩
    refine .whole _ body hheader hbody (p.trueHeader.hasLength_write _ hheader)
      (p.body.hasLength_write body hbody) hmax fun before n => ?_
    rw [encodeAfter, encode_claiming, he]
    rfl

/-- The writer of the body gets as far as the second filter, and nothing of it is left. -/
example : (unsubscribe 1 ["a", "\x00"]).body.write = ⟨[0, 1, 0, 1, 97], some .invalidUtf8String⟩ ∧
    (unsubscribe 1 ["a", "\x00"]).encodeAfter [0xFF] = ⟨[0xFF], some .invalidUtf8String⟩ := by
  decide

end Packet

end Mqtt
