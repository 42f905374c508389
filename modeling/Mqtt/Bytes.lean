/-!
# Bytes

The byte strings that every other module reads and writes.
-/

namespace Mqtt

/-- A run of bytes, first byte first. -/
abbrev Bytes := List UInt8

namespace Bytes

/-- Whether there are fewer than `n` bytes; looks at no more than `n` of them. -/
def shorterThan : Bytes → Nat → Bool
  | _, 0           => false
  | [], _ + 1      => true
  | _ :: bs, n + 1 => shorterThan bs n

theorem shorterThan_iff {bs : Bytes} {n : Nat} : shorterThan bs n = true ↔ bs.length < n := by
  induction n generalizing bs with
  | zero => simp [shorterThan]
  | succ n ih =>
    cases bs with
    | nil => simp [shorterThan]
    | cons b bs => simp [shorterThan, ih]

end Bytes

end Mqtt
