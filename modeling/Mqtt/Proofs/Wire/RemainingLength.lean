import Mqtt.Packet.FixedHeader
import Mqtt.Proofs.Wire.Recognition

/-!
# Remaining length and fixed header

`RemainingLength.Digits` says, without reading or writing anything, which digits say which length.
The reader accepts all of them, at most four, and the writer puts out the shortest. The fixed header
is such a field behind a first byte that stands for exactly one kind with its flags.
-/

namespace Mqtt

namespace RemainingLength

/-- `Digits ds n`: the digits `ds` to base 128, the least significant one first, say `n`. The last
one and no other has its high bit clear. -/
inductive Digits : Bytes → Nat → Prop where
  | last {d : UInt8} (hd : d.toNat < 128) : Digits [d] d.toNat
  | more {d : UInt8} {ds : Bytes} {n : Nat} (hd : 128 ≤ d.toNat) (hds : Digits ds n) :
      Digits (d :: ds) (d.toNat - 128 + 128 * n)

/-- The bytes `ds` are a remaining length field that says `n`. -/
def Field (ds : Bytes) (n : Nat) : Prop :=
  ds.length ≤ maxDigits ∧ Digits ds n

lemma Digits.length_pos {ds : Bytes} {n : Nat} (h : Digits ds n) : 0 < ds.length := by
  cases h <;> simp

/-- How many lengths `k` digits can say. -/
def capacity : Nat → Nat
  | 0     => 1
  | k + 1 => 128 * capacity k

lemma capacity_mono {j k : Nat} (h : j ≤ k) : capacity j ≤ capacity k := by
  induction h with
  | refl => exact Nat.le_refl _
  | step h ih =>
    rw [capacity]
    omega

lemma Digits.lt_capacity {ds : Bytes} {n : Nat} (h : Digits ds n) : n < capacity ds.length := by
  induction h with
  | last hd => exact hd
  | more hd hds ih =>
    rename_i d ds n
    have := d.toNat_lt
    rw [List.length_cons, capacity]
    omega

lemma Field.le_max {ds : Bytes} {n : Nat} (h : Field ds n) : n ≤ max :=
  Nat.le_of_lt_succ (Nat.lt_of_lt_of_le h.2.lt_capacity (capacity_mono h.1))

/-! ### Reading -/

lemma recognizes_readDigits (k : Nat) :
    (readDigits k).Recognizes fun n ds => ds.length ≤ k ∧ Digits ds n := by
  induction k with
  | zero =>
    refine (Reader.recognizes_fail _).congr fun n ds => ?_
    simp only [false_iff, not_and]
    intro hl hd
    have := hd.length_pos
    omega
  | succ k ih =>
    refine (Reader.recognizes_byte.bind (q := fun b n ds =>
      (b.toNat < 128 ∧ n = b.toNat ∧ ds = []) ∨ (128 ≤ b.toNat ∧ ds.length ≤ k ∧
        ∃ m, Digits ds m ∧ n = b.toNat - 128 + 128 * m)) fun b => ?_).congr fun n ds => ?_
    · split <;> rename_i hb
      · refine (Reader.recognizes_pure _).congr fun n ds => ?_
        constructor
        · rintro ⟨rfl, rfl⟩
          exact .inl ⟨hb, rfl, rfl⟩
        · rintro (⟨-, rfl, rfl⟩ | ⟨hb', -⟩)
          · exact ⟨rfl, rfl⟩
          · omega
      · refine (ih.bind fun rest => Reader.recognizes_pure _).congr fun n ds => ?_
        constructor
        · rintro ⟨m, x, y, rfl, ⟨hl, hm⟩, rfl, rfl⟩
          rw [List.append_nil]
          exact .inr ⟨by omega, hl, m, hm, rfl⟩
        · rintro (⟨hb', -⟩ | ⟨-, hl, m, hm, rfl⟩)
          · omega
          · exact ⟨m, ds, [], by simp, ⟨hl, hm⟩, rfl, rfl⟩
    · simp only [Output.byte, Output.of_eq_of_iff]
      constructor
      · rintro ⟨b, x, y, rfl, rfl, ⟨hb, rfl, rfl⟩ | ⟨hb, hl, m, hm, rfl⟩⟩
        · exact ⟨by simp, .last hb⟩
        · exact ⟨by simpa using hl, .more hb hm⟩
      · rintro ⟨hl, hd⟩
        cases hd with
        | last hb => exact ⟨_, _, [], rfl, rfl, .inl ⟨hb, rfl, rfl⟩⟩
        | more hb hm => exact ⟨_, _, _, rfl, rfl, .inr ⟨hb, by simpa using hl, _, hm, rfl⟩⟩

lemma recognizes_read : read.Recognizes fun n ds => Field ds n :=
  recognizes_readDigits maxDigits

/-! ### Writing -/

lemma digits_succ_of_lt {k n : Nat} (hn : n < 128) : digits (k + 1) n = [UInt8.ofNat n] := by
  rw [digits, if_pos hn]

lemma digits_succ_of_ge {k n : Nat} (hn : 128 ≤ n) :
    digits (k + 1) n = UInt8.ofNat (n % 128 + 128) :: digits k (n / 128) := by
  rw [digits, if_neg (Nat.not_lt.mpr hn)]

lemma length_digits_le (k n : Nat) : (digits k n).length ≤ k := by
  induction k generalizing n with
  | zero => simp [digits]
  | succ k ih =>
    by_cases hn : n < 128
    · simp [digits_succ_of_lt hn]
    · rw [digits_succ_of_ge (by omega), List.length_cons]
      exact Nat.succ_le_succ (ih (n / 128))

/-- The digits written say the number. -/
lemma digits_digits {k n : Nat} (hn : n < capacity k) (hk : 0 < k) : Digits (digits k n) n := by
  induction k generalizing n with
  | zero => omega
  | succ k ih =>
    by_cases hlt : n < 128
    · rw [digits_succ_of_lt hlt]
      have hd : (UInt8.ofNat n).toNat = n := by
        rw [UInt8.toNat_ofNat']
        omega
      have := Digits.last (d := UInt8.ofNat n) (by omega)
      rwa [hd] at this
    · have hk' : 0 < k := by
        rcases Nat.eq_zero_or_pos k with rfl | h
        · rw [capacity, capacity] at hn
          omega
        · exact h
      have hd : (UInt8.ofNat (n % 128 + 128)).toNat = n % 128 + 128 := by
        rw [UInt8.toNat_ofNat']
        omega
      have hdiv : n / 128 < capacity k := by
        rw [capacity] at hn
        omega
      rw [digits_succ_of_ge (by omega)]
      have := Digits.more (d := UInt8.ofNat (n % 128 + 128)) (by omega) (ih hdiv hk')
      rwa [hd, show n % 128 + 128 - 128 + 128 * (n / 128) = n by omega] at this

/-- No digits that say the number are fewer than those written. -/
lemma length_digits_le_of_digits {ds : Bytes} {n : Nat} (h : Digits ds n) (k : Nat) :
    (digits k n).length ≤ ds.length := by
  induction h generalizing k with
  | last hd =>
    cases k with
    | zero => simp [digits]
    | succ k => simp [digits_succ_of_lt hd]
  | more hd hds ih =>
    rename_i d ds n
    cases k with
    | zero => simp [digits]
    | succ k =>
      by_cases hlt : d.toNat - 128 + 128 * n < 128
      · simp [digits_succ_of_lt hlt]
      · have := d.toNat_lt
        rw [digits_succ_of_ge (by omega), List.length_cons, List.length_cons,
          show (d.toNat - 128 + 128 * n) / 128 = n by omega]
        exact Nat.succ_le_succ (ih k)

lemma field_digits {n : Nat} (hn : n ≤ max) : Field (digits maxDigits n) n :=
  ⟨length_digits_le _ _, digits_digits (Nat.lt_succ_of_le hn) (by decide)⟩

lemma write_eq_of_iff {n : Nat} {bs : Bytes} :
    write n = .of bs ↔ n ≤ max ∧ bs = digits maxDigits n := by
  rw [write]
  split <;> rename_i hn
  · simp [hn, eq_comm]
  · simp [hn]

end RemainingLength

/-! ### First byte -/

lemma testBit_eq_of_toNat {n i : Nat} {b : Bool} (h : n >>> i % 2 = b.toNat) :
    n.testBit i = b := by
  rw [Nat.shiftRight_eq_div_pow, ← Nat.toNat_testBit] at h
  cases hn : n.testBit i <;> cases b <;> simp [hn] at h ⊢

lemma QoS.level_le (q : QoS) : q.level ≤ 2 := by
  cases q <;> decide

lemma PacketKind.code_le (k : PacketKind) : k.code ≤ 14 := by
  cases k <;> decide

namespace FixedHeader

lemma toNat_firstByte (h : FixedHeader) :
    h.firstByte.toNat
      = h.kind.code * 16 + h.dup.toNat * 8 + h.qos.level * 2 + h.retain.toNat := by
  have hk := h.kind.code_le
  have hq := h.qos.level_le
  have hd := h.dup.toNat_le
  have hr := h.retain.toNat_le
  rw [firstByte, UInt8.toNat_ofNat']
  omega

/-- A byte is read as the header whose first byte it is. -/
lemma ofFirstByte_eq_ok_iff {b : UInt8} {h : FixedHeader} :
    ofFirstByte b = .ok h ↔
      h.firstByte = b ∧ hasRequiredQoS h.kind h.qos = true ∧ h.remainingLength = 0 := by
  constructor
  · intro hb
    rw [ofFirstByte] at hb
    split at hb
    · cases hb
    · rename_i kind hk
      split at hb
      · cases hb
      · rename_i qos hq
        split at hb <;> rename_i hreq
        · cases hb
          refine ⟨?_, hreq, rfl⟩
          rw [← UInt8.toNat_inj, toNat_firstByte]
          simp only [PacketKind.code_of_ofCode? hk, QoS.level_of_ofLevel? hq, Nat.toNat_testBit]
          omega
        · cases hb
  · rintro ⟨rfl, hreq, hn⟩
    have hbyte := toNat_firstByte h
    have hk := h.kind.code_le
    have hq := h.qos.level_le
    have hd := h.dup.toNat_le
    have hr := h.retain.toNat_le
    rw [ofFirstByte, show h.firstByte.toNat / 16 = h.kind.code by omega,
      show h.firstByte.toNat / 2 % 4 = h.qos.level by omega]
    simp only [PacketKind.ofCode?_code, QoS.ofLevel?_level, hreq, if_true]
    rw [testBit_eq_of_toNat (i := 3) (b := h.dup) (by omega),
      testBit_eq_of_toNat (i := 0) (b := h.retain) (by omega), ← hn]

/-- A fixed header is a first byte that it says, and a field that says its length. -/
lemma recognizes_read : read.Recognizes fun h front => ∃ ds, front = h.firstByte :: ds ∧
    hasRequiredQoS h.kind h.qos = true ∧ RemainingLength.Field ds h.remainingLength := by
  refine (Reader.recognizes_byte.bind (q := fun b h ds =>
    h.firstByte = b ∧ hasRequiredQoS h.kind h.qos = true ∧
      RemainingLength.Field ds h.remainingLength) fun b => ?_).congr fun h front => ?_
  · split <;> rename_i hb
    · refine (Reader.recognizes_fail _).congr fun h ds => ?_
      simp only [false_iff]
      rintro ⟨hfirst, hreq, -⟩
      rw [(ofFirstByte_eq_ok_iff (h := { h with remainingLength := 0 })).mpr
        ⟨hfirst, hreq, rfl⟩] at hb
      cases hb
    · rename_i h₀
      refine (RemainingLength.recognizes_read.bind fun n => Reader.recognizes_pure _).congr
        fun h ds => ?_
      constructor
      · rintro ⟨n, x, y, rfl, hx, rfl, rfl⟩
        obtain ⟨hfirst, hreq, -⟩ := ofFirstByte_eq_ok_iff.mp hb
        rw [List.append_nil]
        exact ⟨hfirst, hreq, hx⟩
      · rintro ⟨hfirst, hreq, hds⟩
        rw [(ofFirstByte_eq_ok_iff (h := { h with remainingLength := 0 })).mpr
          ⟨hfirst, hreq, rfl⟩] at hb
        cases hb
        exact ⟨h.remainingLength, ds, [], by simp, hds, rfl, rfl⟩
  · simp only [Output.byte, Output.of_eq_of_iff]
    constructor
    · rintro ⟨b, x, ds, rfl, rfl, rfl, hreq, hds⟩
      exact ⟨ds, rfl, hreq, hds⟩
    · rintro ⟨ds, rfl, hreq, hds⟩
      exact ⟨_, _, ds, rfl, rfl, rfl, hreq, hds⟩

end FixedHeader

end Mqtt
