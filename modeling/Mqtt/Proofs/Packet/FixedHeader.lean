import Mathlib.Data.Nat.Digits.Defs
import Mqtt.Proofs.Packet.Atomicity
import Mqtt.Proofs.Wire.Stability

/-!
# Fixed headers on the wire

A fixed header is written in a number of bytes known beforehand, and read back from just these
bytes: fewer of them are too few, and those that follow make no difference. Its length field may be
padded when it is read, but is written in the fewest digits there are. `RemainingLength.ReadsAs` and
`RemainingLength.WritesAs` say what comes of every window and of every length without reading or
writing anything; `FixedHeader.roundTrips_shortest` puts field and header together.
-/

namespace Mqtt

namespace RemainingLength

variable {bs ds : Bytes} {n k : Nat}

/-! ### Digits and their value -/

/-- The last byte has its high bit clear, and no other byte has. -/
def Terminated (ds : Bytes) : Prop :=
  ∃ front last, ds = front ++ [last] ∧ (∀ d ∈ front, 128 ≤ d.toNat) ∧ last.toNat < 128

/-- What digits to base 128 say, the least significant one first; high bits say nothing. -/
def value (ds : Bytes) : Nat :=
  Nat.ofDigits 128 (ds.map fun d => d.toNat % 128)

lemma value_cons (d : UInt8) (ds : Bytes) : value (d :: ds) = d.toNat % 128 + 128 * value ds :=
  Nat.ofDigits_cons

lemma terminated_cons_iff {d : UInt8} :
    Terminated (d :: ds) ↔ (d.toNat < 128 ∧ ds = []) ∨ (128 ≤ d.toNat ∧ Terminated ds) := by
  constructor
  · rintro ⟨front, last, hds, hfront, hlast⟩
    cases front with
    | nil =>
      cases hds
      exact .inl ⟨hlast, rfl⟩
    | cons e front =>
      cases hds
      exact .inr ⟨hfront _ (by simp), front, last, rfl, fun d hd => hfront d (by simp [hd]), hlast⟩
  · rintro (⟨hd, rfl⟩ | ⟨hd, front, last, rfl, hfront, hlast⟩)
    · exact ⟨[], d, rfl, by simp, hd⟩
    · exact ⟨d :: front, last, rfl, List.forall_mem_cons.mpr ⟨hd, hfront⟩, hlast⟩

/-- Digits, as they are read one after the other, are bytes that end where they should, and say
their value. -/
lemma digits_iff : Digits ds n ↔ Terminated ds ∧ value ds = n := by
  induction ds generalizing n with
  | nil =>
    constructor
    · intro h
      cases h
    · rintro ⟨⟨front, last, hds, -⟩, -⟩
      simp at hds
  | cons d ds ih =>
    rw [terminated_cons_iff, value_cons]
    have hd := d.toNat_lt
    constructor
    · intro h
      cases h with
      | last hlast =>
        refine ⟨.inl ⟨hlast, rfl⟩, ?_⟩
        rw [value, List.map_nil, Nat.ofDigits_nil]
        omega
      | more hmore hds =>
        obtain ⟨hterminated, rfl⟩ := ih.mp hds
        exact ⟨.inr ⟨hmore, hterminated⟩, by omega⟩
    · rintro ⟨⟨hlast, rfl⟩ | ⟨hmore, hds⟩, rfl⟩
      · rw [value, List.map_nil, Nat.ofDigits_nil, Nat.mul_zero, Nat.mod_eq_of_lt hlast]
        exact .last hlast
      · rw [show d.toNat % 128 = d.toNat - 128 by omega]
        exact .more hmore (ih.mpr ⟨hds, rfl⟩)

/-- As many digits as others that say the same are the same digits. -/
lemma Digits.eq_of_length_eq {ds' : Bytes} (h : Digits ds n) (h' : Digits ds' n)
    (hl : ds'.length = ds.length) : ds' = ds := by
  induction h generalizing ds' with
  | @last d hd =>
    obtain ⟨d', rfl⟩ := List.length_eq_one_iff.mp hl
    generalize hm : d.toNat = m at h'
    cases h' with
    | last hd' => rw [UInt8.toNat_inj.mp hm]
    | more hd' hds => cases hds
  | @more d ds n hd hds ih =>
    generalize hm : d.toNat - 128 + 128 * n = m at h'
    cases h' with
    | last hd' =>
      rw [List.length_singleton, List.length_cons] at hl
      have := hds.length_pos
      omega
    | @more d' ds' n' hd' hds' =>
      have hlt := d.toNat_lt
      have hlt' := d'.toNat_lt
      obtain rfl : n' = n := by omega
      rw [UInt8.toNat_inj.mp (show d'.toNat = d.toNat by omega), ih hds' (by simpa using hl)]

/-! ### Reading a length -/

/-- What a window is read as. -/
inductive ReadsAs (bs : Bytes) : Reading Nat → Prop where
  | short (hlength : bs.length < maxDigits) (hmore : ∀ b ∈ bs, 128 ≤ b.toNat) : ReadsAs bs .short
  | exceeded (hlength : maxDigits ≤ bs.length) (hmore : ∀ b ∈ bs.take maxDigits, 128 ≤ b.toNat) :
      ReadsAs bs (.malformed .remainingLengthExceeded)
  | done {ds rest : Bytes} (hbs : bs = ds ++ rest) (hds : Terminated ds)
      (hlength : ds.length ≤ maxDigits) (hmax : value ds ≤ max) :
      ReadsAs bs (.done (value ds) ds.length)

lemma readDigits_of_more (h : ∀ b ∈ bs.take k, 128 ≤ b.toNat) :
    readDigits k bs =
      if bs.length < k then .short else .malformed .remainingLengthExceeded := by
  induction k generalizing bs with
  | zero => rfl
  | succ k ih =>
    cases bs with
    | nil => rfl
    | cons b bs =>
      rw [List.take_succ_cons, List.forall_mem_cons] at h
      have hbyte : Reader.byte (b :: bs) = .done b 1 := rfl
      rw [readDigits, Reader.bind_of_done hbyte, if_neg (by omega)]
      change Reading.after 1 ((readDigits k).andThen _ bs) = _
      rw [Reader.andThen, ih h.2]
      by_cases hl : bs.length < k
      · rw [if_pos hl, if_pos (by simpa using hl)]
        rfl
      · rw [if_neg hl, if_neg (by simpa using hl)]
        rfl

/-- Either the first bytes all go on, or they start with digits that end. -/
lemma more_or_terminated (k : Nat) (bs : Bytes) : (∀ b ∈ bs.take k, 128 ≤ b.toNat) ∨
    ∃ ds rest, bs = ds ++ rest ∧ Terminated ds ∧ ds.length ≤ k := by
  induction k generalizing bs with
  | zero => exact .inl (by simp)
  | succ k ih =>
    cases bs with
    | nil => exact .inl (by simp)
    | cons b bs =>
      by_cases hb : b.toNat < 128
      · exact .inr ⟨[b], bs, rfl, terminated_cons_iff.mpr (.inl ⟨hb, rfl⟩), by simp⟩
      · rw [Nat.not_lt] at hb
        rcases ih bs with hmore | ⟨ds, rest, rfl, hds, hl⟩
        · exact .inl (by rw [List.take_succ_cons]; exact List.forall_mem_cons.mpr ⟨hb, hmore⟩)
        · exact .inr ⟨b :: ds, rest, rfl, terminated_cons_iff.mpr (.inr ⟨hb, hds⟩),
            by simpa using hl⟩

lemma ReadsAs.read_eq {reading : Reading Nat} (h : ReadsAs bs reading) : read bs = reading := by
  cases h with
  | short hlength hmore =>
    rw [read, readDigits_of_more fun b hb => hmore b (List.mem_of_mem_take hb), if_pos hlength]
  | exceeded hlength hmore =>
    rw [read, readDigits_of_more hmore, if_neg (Nat.not_lt.mpr hlength)]
  | done hbs hds hlength hmax =>
    rw [hbs]
    exact recognizes_read.read ⟨hlength, digits_iff.mpr ⟨hds, rfl⟩⟩ _

lemma exists_readsAs (bs : Bytes) : ∃ reading, ReadsAs bs reading := by
  rcases more_or_terminated maxDigits bs with hmore | ⟨ds, rest, hbs, hds, hlength⟩
  · by_cases hl : bs.length < maxDigits
    · rw [List.take_of_length_le (Nat.le_of_lt hl)] at hmore
      exact ⟨_, .short hl hmore⟩
    · exact ⟨_, .exceeded (Nat.not_lt.mp hl) hmore⟩
  · have hfield : Field ds (value ds) := ⟨hlength, digits_iff.mpr ⟨hds, rfl⟩⟩
    exact ⟨_, .done hbs hds hlength hfield.le_max⟩

lemma read_eq_iff {reading : Reading Nat} : read bs = reading ↔ ReadsAs bs reading := by
  constructor
  · rintro rfl
    obtain ⟨reading, h⟩ := exists_readsAs bs
    rwa [h.read_eq]
  · exact ReadsAs.read_eq

/-! ### Writing a length -/

/-- The digits say `n`, and no others say it that are fewer or as many. -/
structure Shortest (n : Nat) (ds : Bytes) : Prop where
  terminated : Terminated ds
  value : value ds = n
  least : ∀ ds', Terminated ds' → RemainingLength.value ds' = n → ds.length ≤ ds'.length
  unique : ∀ ds', Terminated ds' → RemainingLength.value ds' = n → ds'.length = ds.length → ds' = ds

/-- What a length is written as. -/
inductive WritesAs (n : Nat) : Output → Prop where
  | digits {ds : Bytes} (hn : n ≤ max) (hds : Shortest n ds) (hlength : ds.length = digitCount n) :
      WritesAs n (.of ds)
  | exceeded (hn : max < n) : WritesAs n (.fail (.remainingLengthExceeded n))

lemma shortest_digits (hn : n ≤ max) : Shortest n (digits maxDigits n) := by
  have hdigits := (field_digits hn).2
  obtain ⟨hterminated, hvalue⟩ := digits_iff.mp hdigits
  refine ⟨hterminated, hvalue, fun ds' ht hv => ?_, fun ds' ht hv hl => ?_⟩
  · exact length_digits_le_of_digits (digits_iff.mpr ⟨ht, hv⟩) maxDigits
  · exact hdigits.eq_of_length_eq (digits_iff.mpr ⟨ht, hv⟩) hl

lemma writesAs_write (n : Nat) : WritesAs n (write n) := by
  rw [write]
  split <;> rename_i hn
  · exact .digits hn (shortest_digits hn) (length_digits hn)
  · exact .exceeded (Nat.not_le.mp hn)

end RemainingLength

/-! ### Fixed headers -/

namespace FixedHeader

variable {h : FixedHeader} {bs : Bytes}

lemma two_le_of_read {n : Nat} (hr : read bs = .done h n) : 2 ≤ n := by
  obtain ⟨hn, ds, hds, -, -, hdigits⟩ := (recognizes_read _ _ _).mp hr
  have hpos := hdigits.length_pos
  have hl := congrArg List.length hds
  rw [List.length_take_of_le hn, List.length_cons] at hl
  omega

/-- One byte for the kind and the flags, and as many as there may be digits. -/
lemma length_lt_of_read_short (hr : read bs = .short) :
    bs.length < 1 + RemainingLength.maxDigits := by
  rw [read, Reader.bind_eq_short_iff] at hr
  cases bs with
  | nil => decide
  | cons b bs =>
    rcases hr with hbyte | ⟨_, _, hbyte, hr⟩ <;> cases hbyte
    cases hb : ofFirstByte b with
    | error e =>
      simp only [hb] at hr
      cases hr
    | ok h =>
      simp only [hb, List.drop_succ_cons, List.drop_zero] at hr
      rcases Reader.bind_eq_short_iff.mp hr with hshort | ⟨n, used, -, hpure⟩
      · cases RemainingLength.read_eq_iff.mp hshort with
        | short hlength hmore =>
          rw [List.length_cons]
          omega
      · cases hpure

/-- What comes of writing a header, and of reading what was written. -/
structure RoundTrips (h : FixedHeader) : Prop where
  /-- A header can be written if its length can and its kind does not ask for another QoS. -/
  written : (∃ bs, h.write = .of bs) ↔ h.remainingLength ≤ RemainingLength.max ∧
    (h.kind.requiresQoSOne = true → h.qos = .atLeastOnce)
  length : ∀ bs, h.write = .of bs → bs.length = h.length
  /-- It is read back, whatever follows it. -/
  read : ∀ bs, h.write = .of bs → ∀ rest, read (bs ++ rest) = .done h h.length
  /-- Any part of it is too short. -/
  waits : ∀ bs, h.write = .of bs → ∀ front, front <+: bs → front ≠ bs →
    FixedHeader.read front = .short

lemma hasRequiredQoS_iff {kind : PacketKind} {qos : QoS} :
    hasRequiredQoS kind qos = true ↔ (kind.requiresQoSOne = true → qos = .atLeastOnce) := by
  cases hk : kind.requiresQoSOne <;> simp [hasRequiredQoS, hk]

lemma read_append (hw : h.write = .of bs) (rest : Bytes) :
    read (bs ++ rest) = .done h bs.length := by
  obtain ⟨hqos, hn, rfl⟩ := write_eq_of_iff.mp hw
  exact recognizes_read.read ⟨_, rfl, hqos, RemainingLength.field_digits hn⟩ rest

lemma read_front (hw : h.write = .of bs) {front : Bytes} (hfront : front <+: bs)
    (hne : front ≠ bs) : read front = .short := by
  have hread : read bs = .done h bs.length := by
    simpa using read_append hw []
  have hlength : front.length < bs.length := by
    refine Nat.lt_of_le_of_ne hfront.length_le fun hl => hne ?_
    exact hfront.eq_of_length hl
  exact stable_read.short_of_front progress_read.bounded hread hfront hlength

lemma roundTrips (h : FixedHeader) : h.RoundTrips where
  written := by
    rw [← hasRequiredQoS_iff]
    constructor
    · rintro ⟨bs, hw⟩
      obtain ⟨hqos, hn, -⟩ := write_eq_of_iff.mp hw
      exact ⟨hn, hqos⟩
    · rintro ⟨hn, hqos⟩
      exact ⟨_, write_eq_of_iff.mpr ⟨hqos, hn, rfl⟩⟩
  length := h.hasLength_write
  read bs hw rest := by
    rw [← h.hasLength_write bs hw]
    exact read_append hw rest
  waits bs hw front hfront hne := read_front hw hfront hne

/-- A fixed header is written, if at all, in as many bytes as were counted for it, and is read back
from these and from no part of them. Its length field is read in whatever digits it comes, unless
there are too many of them, and written in the fewest. -/
theorem roundTrips_shortest : (∀ h : FixedHeader, h.RoundTrips) ∧
    (∀ bs reading, RemainingLength.read bs = reading ↔ RemainingLength.ReadsAs bs reading) ∧
    ∀ n, RemainingLength.WritesAs n (RemainingLength.write n) := by
  refine ⟨roundTrips, fun bs reading => ?_, fun n => ?_⟩
  · exact RemainingLength.read_eq_iff
  · exact RemainingLength.writesAs_write n

/-- Digits may be padded with zeros: 2 is read from two bytes, and written in one. -/
example : RemainingLength.read [0x82, 0x00, 0xFF] = .done 2 2 ∧
    RemainingLength.write 2 = .of [0x02] := ⟨rfl, rfl⟩

end FixedHeader

end Mqtt
