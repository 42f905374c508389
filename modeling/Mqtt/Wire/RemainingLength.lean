import Mqtt.Wire.Output
import Mqtt.Wire.Reader

/-!
# Remaining length

The length of the rest of a packet, in one to four digits to base 128, the least significant one
first. Every digit but the last has its high bit set.
-/

namespace Mqtt.RemainingLength

/-- The greatest length that four digits can say. -/
def max : Nat := 268435455

/-- The greatest number of digits. -/
def maxDigits : Nat := 4

/-- Read a length of at most `k` digits. -/
def readDigits : Nat → Reader Nat
  | 0     => Reader.fail .remainingLengthExceeded
  | k + 1 => do
    let b ← Reader.byte
    if b.toNat < 128 then
      pure b.toNat
    else do
      let rest ← readDigits k
      pure (b.toNat - 128 + 128 * rest)

/-- Read a length. -/
def read : Reader Nat := readDigits maxDigits

/-- The shortest form of `n` in at most `k` digits. -/
def digits : Nat → Nat → Bytes
  | 0, _     => []
  | k + 1, n =>
    if n < 128 then [UInt8.ofNat n] else UInt8.ofNat (n % 128 + 128) :: digits k (n / 128)

/-- Write a length. -/
def write (n : Nat) : Output :=
  if n ≤ max then .of (digits maxDigits n) else .fail (.remainingLengthExceeded n)

/-- The number of digits of a length. -/
def digitCount (n : Nat) : Nat :=
  if n < 128 then 1 else if n < 16384 then 2 else if n < 2097152 then 3 else 4

theorem bounded_readDigits (k : Nat) : (readDigits k).Bounded := by
  induction k with
  | zero => exact Reader.bounded_fail _
  | succ k ih =>
    refine Reader.progress_byte.bounded.bind fun b => ?_
    split
    · exact Reader.bounded_pure _
    · exact ih.bind fun _ => Reader.bounded_pure _

theorem bounded_read : read.Bounded :=
  bounded_readDigits maxDigits

end Mqtt.RemainingLength
