import Mqtt.Bytes
import Mqtt.Error

/-!
# Readers

A reader takes a value off the front of a window of bytes. It answers that the window ends before
the value does, or with the value and the number of bytes it takes, or with the error that no
longer window can mend. Readers are composed in sequence by `do`.

`Reader.Bounded` and `Reader.Progress` say that a reader never takes more than the window holds,
and never nothing; both pass from the steps of a sequence to the whole.
-/

namespace Mqtt

/-- What comes of reading a value from the front of a window. -/
inductive Reading (α : Type) where
  /-- The window ends before the value does. -/
  | short
  /-- The value, and the number of bytes it takes. -/
  | done (value : α) (used : Nat)
  /-- The window starts with no such value, whatever follows it. -/
  | malformed (error : DecodeError)

/-- A reading that starts after `n` bytes already taken. -/
def Reading.after {α : Type} (n : Nat) : Reading α → Reading α
  | .short       => .short
  | .done a m    => .done a (n + m)
  | .malformed e => .malformed e

/-- A way to read a value from the front of a window. -/
def Reader (α : Type) := Bytes → Reading α

namespace Reader

variable {α β : Type}

/-- Read a value, then go on with a reader that may depend on it. -/
def andThen (r : Reader α) (f : α → Reader β) : Reader β := fun bs =>
  match r bs with
  | .short       => .short
  | .done a n    => (f a (bs.drop n)).after n
  | .malformed e => .malformed e

instance : Monad Reader where
  pure a := fun _ => .done a 0
  bind   := andThen

/-- Refuse the window. -/
def fail (e : DecodeError) : Reader α := fun _ => .malformed e

/-! ### Single values -/

/-- One byte. -/
def byte : Reader UInt8
  | []     => .short
  | b :: _ => .done b 1

/-- Two bytes, the more significant one first. -/
def word : Reader UInt16
  | hi :: lo :: _ => .done (UInt16.ofNat (hi.toNat * 256 + lo.toNat)) 2
  | _             => .short

/-- The next `n` bytes. -/
def take (n : Nat) : Reader Bytes := fun bs =>
  if Bytes.shorterThan bs n then .short else .done (bs.take n) n

/-! ### Progress -/

/-- The reader never takes more bytes than the window holds. -/
def Bounded (r : Reader α) : Prop :=
  ∀ bs a n, r bs = .done a n → n ≤ bs.length

/-- The reader takes at least one byte, and no more than the window holds. -/
def Progress (r : Reader α) : Prop :=
  ∀ bs a n, r bs = .done a n → 0 < n ∧ n ≤ bs.length

theorem Progress.bounded {r : Reader α} (h : r.Progress) : r.Bounded :=
  fun _ _ _ hr => (h _ _ _ hr).2

theorem bounded_pure (a : α) : (pure a : Reader α).Bounded := by
  intro bs b n h
  cases h
  exact Nat.zero_le _

theorem bounded_fail (e : DecodeError) : (fail e : Reader α).Bounded := by
  intro bs b n h
  cases h

theorem progress_byte : byte.Progress := by
  intro bs b n h
  cases bs <;> simp_all [byte]
  omega

theorem progress_word : word.Progress := by
  intro bs b n h
  unfold word at h
  split at h <;> simp_all
  omega

theorem bounded_take (k : Nat) : (take k).Bounded := by
  intro bs b n h
  unfold take at h
  split at h <;> rename_i hk
  · cases h
  · cases h
    rw [Bytes.shorterThan_iff] at hk
    omega

theorem Bounded.bind {r : Reader α} {f : α → Reader β} (hr : r.Bounded)
    (hf : ∀ a, (f a).Bounded) : (r >>= f).Bounded := by
  intro bs b n h
  change r.andThen f bs = _ at h
  unfold andThen at h
  split at h
  · cases h
  · rename_i a m hm
    have hm := hr _ _ _ hm
    cases hfa : f a (bs.drop m) <;> simp [hfa, Reading.after] at h
    have hk := hf a _ _ _ hfa
    rw [List.length_drop] at hk
    omega
  · cases h

theorem Progress.bind {r : Reader α} {f : α → Reader β} (hr : r.Progress)
    (hf : ∀ a, (f a).Bounded) : (r >>= f).Progress := by
  intro bs b n h
  refine ⟨?_, Bounded.bind hr.bounded hf _ _ _ h⟩
  change r.andThen f bs = _ at h
  unfold andThen at h
  split at h
  · cases h
  · rename_i a m hm
    have hm := hr _ _ _ hm
    cases hfa : f a (bs.drop m) <;> simp [hfa, Reading.after] at h
    omega
  · cases h

/-! ### Whole windows -/

/-- Read a value that takes the whole window. -/
def whole (r : Reader α) (bs : Bytes) : Except DecodeError α :=
  match r bs with
  | .short       => .error .invalidPayloadBytes
  | .done a n    => if n = bs.length then .ok a else .error .invalidPayloadBytes
  | .malformed e => .error e

/-- Step over `skip` bytes and read values from there until the window is used up, after those in
`seen` (last first). -/
def entriesAfter (r : Reader α) (seen : List α) : Nat → Bytes → Except DecodeError (List α)
  | _, []              => .ok seen.reverse
  | skip + 1, _ :: bs  => entriesAfter r seen skip bs
  | 0, b :: bs         =>
    match r (b :: bs) with
    | .short       => .error .invalidPayloadBytes
    | .done a used => entriesAfter r (a :: seen) (used - 1) bs
    | .malformed e => .error e

/-- Read a list of values that takes the whole window, which must not be empty. -/
def entries (r : Reader α) (bs : Bytes) : Except DecodeError (List α) :=
  if bs.isEmpty then .error .invalidPayloadBytes else entriesAfter r [] 0 bs

theorem entriesAfter_skip (r : Reader α) (seen : List α) (skip : Nat) (bs : Bytes) :
    entriesAfter r seen skip bs = entriesAfter r seen 0 (bs.drop skip) := by
  induction bs generalizing skip with
  | nil => cases skip <;> rfl
  | cons b bs ih =>
    cases skip with
    | zero => rfl
    | succ skip => simp [entriesAfter, ih skip]

/-- After an entry, reading goes on with the bytes that follow it. -/
theorem entriesAfter_done {r : Reader α} (hr : r.Progress) {seen : List α} {bs : Bytes} {a : α}
    {used : Nat} (h : r bs = .done a used) :
    entriesAfter r seen 0 bs = entriesAfter r (a :: seen) 0 (bs.drop used) := by
  have hp := hr _ _ _ h
  cases bs with
  | nil => simp at hp; omega
  | cons b bs =>
    obtain ⟨n, rfl⟩ : ∃ n, used = n + 1 := ⟨used - 1, by omega⟩
    simp only [entriesAfter, h, Nat.add_sub_cancel, List.drop_succ_cons]
    exact entriesAfter_skip r _ n bs

end Reader

end Mqtt
