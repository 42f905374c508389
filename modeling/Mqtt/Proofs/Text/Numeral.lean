import Mathlib.Data.Nat.Digits.Defs
import Mathlib.Tactic.Lemma
import Mathlib.Tactic.Ring
import Mqtt.Text.Numeral

/-!
# Numerals and their values

`Numeral.Says` tells which texts are numerals and what they say, of any length and without a bound.
The parser gives the value of a numeral if it is within the bound, and otherwise tells that it is too
large, however long the numeral is and wherever it leaves the bound.
-/

namespace Mqtt.Text.Numeral

variable {bound : Nat} {cs ds : List Char} {n : Nat}

/-- What digits say to base 10, the most significant one first. -/
def value (ds : List Char) : Nat :=
  Nat.ofDigits 10 (ds.reverse.map fun d => d.toNat - '0'.toNat)

/-- `Says cs n`: the characters `cs` are one digit or more, with or without a plus sign in front of
them, that say `n`. -/
inductive Says : List Char → Nat → Prop where
  | unsigned {ds : List Char} (hne : ds ≠ []) (hds : ∀ d ∈ ds, d.isDigit = true) :
      Says ds (value ds)
  | signed {ds : List Char} (hne : ds ≠ []) (hds : ∀ d ∈ ds, d.isDigit = true) :
      Says ('+' :: ds) (value ds)

lemma value_cons (d : Char) (ds : List Char) :
    value (d :: ds) = (d.toNat - 48) * 10 ^ ds.length + value ds := by
  rw [value, List.reverse_cons, List.map_append, Nat.ofDigits_append, List.map_singleton,
    Nat.ofDigits_singleton, List.length_map, List.length_reverse, ← value, Nat.add_comm,
    Nat.mul_comm]
  rfl

/-- Digits behind a numeral within the bound: every one of them moves it up by a place, so once it
has left the bound it stays outside. -/
lemma digits_eq (hds : ∀ d ∈ ds, d.isDigit = true) (hn : n ≤ bound) :
    digits bound n ds =
      if n * 10 ^ ds.length + value ds ≤ bound then .ok (n * 10 ^ ds.length + value ds)
      else .error .tooLarge := by
  induction ds generalizing n with
  | nil => simp [digits, value, hn]
  | cons d ds ih =>
    rw [List.forall_mem_cons] at hds
    have hvalue : n * 10 ^ (d :: ds).length + value (d :: ds) =
        (10 * n + (d.toNat - 48)) * 10 ^ ds.length + value ds := by
      rw [value_cons, List.length_cons]
      ring
    rw [hvalue, digits, if_pos hds.1]
    by_cases hnext : 10 * n + (d.toNat - 48) ≤ bound
    · rw [← ih hds.2 hnext]
      exact if_pos hnext
    · have hle : 10 * n + (d.toNat - 48) ≤
          (10 * n + (d.toNat - 48)) * 10 ^ ds.length + value ds :=
        Nat.le_add_right_of_le (Nat.le_mul_of_pos_right _ (Nat.pow_pos (by decide)))
      rw [if_neg (Nat.not_le.mpr (Nat.lt_of_lt_of_le (Nat.not_le.mp hnext) hle))]
      exact if_neg hnext

lemma digits_zero (hds : ∀ d ∈ ds, d.isDigit = true) :
    digits bound 0 ds = if value ds ≤ bound then .ok (value ds) else .error .tooLarge := by
  rw [digits_eq hds (Nat.zero_le bound), Nat.zero_mul, Nat.zero_add]

/-- A numeral is read as its value, or is too large. -/
theorem Says.parse_eq (h : Says cs n) :
    parse bound cs = if n ≤ bound then .ok n else .error .tooLarge := by
  cases h with
  | unsigned hne hds =>
    rw [← digits_zero hds]
    -- no digit is a plus sign
    rw [parse.eq_def]
    split
    · exact absurd rfl hne
    · exact absurd (hds '+' List.mem_cons_self) (by decide)
    · rfl
  | @signed ds hne hds =>
    obtain ⟨d, ds, rfl⟩ := List.exists_cons_of_ne_nil hne
    exact digits_zero hds

end Mqtt.Text.Numeral
