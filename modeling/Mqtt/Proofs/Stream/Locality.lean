import Mqtt.Proofs.Stream.Precheck

/-!
# Locality of the headers

A reader is local if what it answers depends on the bytes it takes and on no others: these alone give
the same value, fewer of them give none, and those that follow make no difference, to a value as to an
error. A reader that is stable and recognizes a form is local (`Reader.Recognizes.isLocal`), and so
are the readers of the headers. `isLocal_headers` adds how much a variable header takes: as much as it
would be written in, and no less than the bound that is looked up before it is read.
-/

namespace Mqtt

/-- What the reader makes of a window is settled by the bytes it takes. -/
structure Reader.Local {α : Type} (r : Reader α) : Prop where
  /-- No more is taken than there is. -/
  bounded : ∀ bs a n, r bs = .done a n → n ≤ bs.length
  /-- What follows makes no difference. -/
  followed : ∀ bs a n, r bs = .done a n → ∀ more, r (bs ++ more) = .done a n
  /-- What was not taken is not needed. -/
  cut : ∀ bs a n, r bs = .done a n → r (bs.take n) = .done a n
  /-- All that was taken is needed. -/
  waits : ∀ bs a n, r bs = .done a n → ∀ front, front <+: bs → front.length < n → r front = .short
  /-- What follows mends no error. -/
  refuses : ∀ bs e, r bs = .malformed e → ∀ more, r (bs ++ more) = .malformed e

lemma Reader.Recognizes.isLocal {α : Type} {r : Reader α} {form : α → Bytes → Prop}
    (hr : r.Recognizes form) (hs : r.Stable) : r.Local := by
  have hbounded : r.Bounded := fun bs a n h => ((hr bs a n).mp h).1
  constructor
  case bounded => exact hbounded
  case followed =>
    intro bs a n h more
    rw [hs bs more (by rw [h]; exact nofun), h]
  case cut =>
    intro bs a n h
    obtain ⟨hn, hform⟩ := (hr bs a n).mp h
    rw [hr, List.take_take, Nat.min_self, List.length_take_of_le hn]
    exact ⟨Nat.le_refl n, hform⟩
  case waits =>
    intro bs a n h front hfront hn
    exact hs.short_of_front hbounded h hfront hn
  case refuses =>
    intro bs e h more
    rw [hs bs more (by rw [h]; exact nofun), h]

/-- The reader of fixed headers is local, and so is that of variable headers under every fixed header.
A variable header takes as many bytes as it would be written in, which are just those it was read
from, and the bound on its length that is looked up in the window is not above that. -/
theorem isLocal_headers : FixedHeader.read.Local ∧ ∀ h : FixedHeader,
    (VariableHeader.read h).Local ∧ ∀ bs vh n, VariableHeader.read h bs = .done vh n →
      vh.write = .of (bs.take n) ∧ n = vh.length ∧ VariableHeader.minLength h bs ≤ n := by
  refine ⟨FixedHeader.recognizes_read.isLocal FixedHeader.stable_read, fun h => ⟨?_, ?_⟩⟩
  · exact (VariableHeader.recognizes_read h).isLocal (VariableHeader.stable_read h)
  · intro bs vh n hread
    obtain ⟨hn, -, hwrite⟩ := (VariableHeader.recognizes_read h _ _ _).mp hread
    have hlength := VariableHeader.hasLength_write vh _ hwrite
    rw [List.length_take_of_le hn] at hlength
    exact ⟨hwrite, hlength, VariableHeader.minLength_le_of_read hread⟩

/-- A fixed header may take more bytes than it would be written in, as its length may be padded. -/
example : ∃ h, FixedHeader.read [0xC0, 0x80, 0x00] = .done h 3 ∧ h.length = 2 :=
  ⟨_, rfl, rfl⟩

end Mqtt
