import Mathlib.Tactic.Lemma
import Mqtt.Packet.Parts

/-!
# Stable readers

A reader is stable if more bytes never change its mind: what it answers of a window, unless that
is too short, it answers of every longer window. Every reader of a field or a header is stable,
values and errors alike. This is what lets a decoder act on the bytes it has without waiting for
those that may follow.
-/

namespace Mqtt

namespace Reader

variable {α β : Type}

/-- An answer other than "too short" is kept when the window grows. -/
def Stable (r : Reader α) : Prop :=
  ∀ bs more, r bs ≠ .short → r (bs ++ more) = r bs

/-- A window from which a value is read is too short without the value's last byte: any other answer
would be kept, and take more bytes than there are. -/
lemma Stable.short_of_front {r : Reader α} (hs : r.Stable) (hb : r.Bounded) {front bs : Bytes}
    {a : α} {n : Nat} (h : r bs = .done a n) (hfront : front <+: bs) (hn : front.length < n) :
    r front = .short := by
  by_cases hshort : r front = .short
  · exact hshort
  · obtain ⟨more, rfl⟩ := hfront
    rw [hs front more hshort] at h
    exact absurd (hb _ _ _ h) (Nat.not_le.mpr hn)

/-! ### Sequences -/

lemma stable_pure (a : α) : (pure a : Reader α).Stable := by
  intro bs more _
  rfl

lemma stable_fail (e : DecodeError) : (fail e : Reader α).Stable := by
  intro bs more _
  rfl

/-- A sequence is stable if its steps are: the first one takes nothing that follows the window, so
the second one sees a longer rest. -/
lemma Stable.bind {r : Reader α} {f : α → Reader β} (hr : r.Stable) (hb : r.Bounded)
    (hf : ∀ a, (f a).Stable) : (r >>= f).Stable := by
  intro bs more h
  change r.andThen f bs ≠ _ at h
  change r.andThen f (bs ++ more) = r.andThen f bs
  simp only [andThen] at h ⊢
  cases hrb : r bs with
  | short => simp [hrb] at h
  | malformed e =>
    have hra := hr bs more (by simp [hrb])
    rw [hra, hrb]
  | done a n =>
    have hra := hr bs more (by simp [hrb])
    have hn : n ≤ bs.length := hb _ _ _ hrb
    rw [hra, hrb]
    simp only [hrb] at h
    simp only [List.drop_append_of_le_length hn]
    have hfa : f a (bs.drop n) ≠ .short := by
      intro hs
      exact h (by rw [hs]; rfl)
    rw [hf a (bs.drop n) more hfa]

/-! ### Fields -/

lemma stable_byte : byte.Stable := by
  intro bs more h
  cases bs with
  | nil => exact absurd rfl h
  | cons b bs => rfl

lemma stable_word : word.Stable := by
  intro bs more h
  match bs with
  | [] => exact absurd rfl h
  | [_] => exact absurd rfl h
  | _ :: _ :: _ => rfl

lemma stable_take (n : Nat) : (take n).Stable := by
  intro bs more h
  rw [take] at h
  rw [take, take]
  split at h
  · exact absurd rfl h
  · rename_i hs
    rw [Bytes.shorterThan_iff] at hs
    have hl : ¬ Bytes.shorterThan (bs ++ more) n = true := by
      rw [Bytes.shorterThan_iff, List.length_append]
      omega
    have hs' : ¬ Bytes.shorterThan bs n = true := by rwa [Bytes.shorterThan_iff]
    rw [if_neg hl, if_neg hs', List.take_append_of_le_length (by omega)]

lemma stable_binary : binary.Stable :=
  stable_word.bind progress_word.bounded fun _ => stable_take _

lemma stable_text : text.Stable := by
  refine stable_binary.bind progress_binary.bounded fun bs => ?_
  split
  · exact stable_fail _
  · split
    · exact stable_fail _
    · exact stable_pure _

end Reader

/-! ### Headers -/

lemma RemainingLength.stable_readDigits (k : Nat) : (readDigits k).Stable := by
  induction k with
  | zero => exact Reader.stable_fail _
  | succ k ih =>
    refine Reader.stable_byte.bind Reader.progress_byte.bounded fun b => ?_
    split
    · exact Reader.stable_pure _
    · exact ih.bind (bounded_readDigits k) fun _ => Reader.stable_pure _

lemma FixedHeader.stable_read : read.Stable := by
  refine Reader.stable_byte.bind Reader.progress_byte.bounded fun b => ?_
  split
  · exact Reader.stable_fail _
  · exact (RemainingLength.stable_readDigits _).bind RemainingLength.bounded_read
      fun _ => Reader.stable_pure _

lemma ConnectHeader.stable_read : read.Stable := by
  refine Reader.stable_text.bind Reader.progress_text.bounded fun name =>
    Reader.stable_byte.bind Reader.progress_byte.bounded fun level => ?_
  split
  · refine Reader.stable_byte.bind Reader.progress_byte.bounded fun flags =>
      Reader.stable_word.bind Reader.progress_word.bounded fun keepAlive => ?_
    split
    · exact Reader.stable_fail _
    · exact Reader.stable_pure _
  · exact Reader.stable_fail _

lemma ConnAckHeader.stable_read : read.Stable := by
  intro bs more h
  match bs with
  | [] => exact absurd rfl h
  | [_] => exact absurd rfl h
  | _ :: _ :: _ => rfl

lemma PublishHeader.stable_readPacketId (qos : QoS) : (readPacketId qos).Stable := by
  rw [readPacketId]
  split
  · exact Reader.stable_word.bind Reader.progress_word.bounded fun _ => Reader.stable_pure _
  · exact Reader.stable_pure _

lemma PublishHeader.stable_read (qos : QoS) : (read qos).Stable := by
  refine Reader.stable_text.bind Reader.progress_text.bounded fun topic => ?_
  split
  · exact Reader.stable_fail _
  · exact (stable_readPacketId qos).bind (bounded_readPacketId qos) fun _ => Reader.stable_pure _

lemma VariableHeader.stable_read (h : FixedHeader) : (read h).Stable := by
  rw [read]
  split
  · exact ConnectHeader.stable_read.bind ConnectHeader.progress_read.bounded
      fun _ => Reader.stable_pure _
  · exact ConnAckHeader.stable_read.bind ConnAckHeader.progress_read.bounded
      fun _ => Reader.stable_pure _
  · exact (PublishHeader.stable_read h.qos).bind (PublishHeader.progress_read h.qos).bounded
      fun _ => Reader.stable_pure _
  · exact Reader.stable_fail _
  · exact Reader.stable_fail _
  · exact Reader.stable_fail _
  · exact Reader.stable_word.bind Reader.progress_word.bounded fun _ => Reader.stable_pure _

end Mqtt
