import Mqtt.Text.Utf8
import Mqtt.Wire.Output
import Mqtt.Wire.Reader

/-!
# Fields

The fields packets are made of: bytes, words, and binary data and texts behind a two-byte length.
-/

namespace Mqtt

/-- The longest binary data or text a field can hold. -/
def maxFieldLength : Nat := 65535

/-- The length of a field that holds `n` bytes behind their two-byte length. -/
def fieldLength (n : Nat) : Nat := 2 + n

/-! ### Reading -/

namespace Reader

/-- Binary data behind its length. -/
def binary : Reader Bytes := do
  let n ← word
  take n.toNat

/-- A text behind its length: UTF-8 without U+0000, the only character with a zero byte. -/
def text : Reader String := do
  let bs ← binary
  match Text.ofUtf8? bs with
  | none   => fail .invalidUtf8String
  | some s => if bs.contains 0 then fail .invalidUtf8String else pure s

/-- The length of the binary data or text that a window starts with, if it is there. -/
def peekLength : Bytes → Option Nat
  | hi :: lo :: _ => some (hi.toNat * 256 + lo.toNat)
  | _             => none

theorem progress_binary : binary.Progress :=
  progress_word.bind fun _ => bounded_take _

theorem progress_text : text.Progress := by
  refine progress_binary.bind fun bs => ?_
  split
  · exact bounded_fail _
  · split
    · exact bounded_fail _
    · exact bounded_pure _

end Reader

/-! ### Writing -/

namespace Output

/-- One byte. -/
def byte (b : UInt8) : Output := of [b]

/-- Two bytes, the more significant one first. -/
def word (w : UInt16) : Output :=
  of [UInt8.ofNat (w.toNat / 256), UInt8.ofNat (w.toNat % 256)]

/-- Binary data behind its length. -/
def binary (bs : Bytes) : Output :=
  if bs.length ≤ maxFieldLength then word (UInt16.ofNat bs.length) ++ of bs
  else fail (.exceedsMaxStringLength bs.length)

/-- A text behind its length, which must not contain U+0000. -/
def text (s : String) : Output :=
  let bs := Text.utf8 s
  if bs.contains 0 then fail .invalidUtf8String else binary bs

end Output

end Mqtt
