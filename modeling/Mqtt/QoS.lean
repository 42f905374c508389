/-!
# Quality of service

The three delivery guarantees of a message, ordered from the weakest to the strongest.
-/

namespace Mqtt

/-- Delivery guarantee of a message. -/
inductive QoS where
  | atMostOnce
  | atLeastOnce
  | exactlyOnce
deriving DecidableEq

namespace QoS

/-- The level that stands for a guarantee on the wire. -/
def level : QoS → Nat
  | .atMostOnce  => 0
  | .atLeastOnce => 1
  | .exactlyOnce => 2

/-- The guarantee of a level; there is none above 2. -/
def ofLevel? : Nat → Option QoS
  | 0 => some .atMostOnce
  | 1 => some .atLeastOnce
  | 2 => some .exactlyOnce
  | _ => none

/-- The wording of a guarantee. -/
def name : QoS → String
  | .atMostOnce  => "at most once"
  | .atLeastOnce => "at least once"
  | .exactlyOnce => "exactly once"

/-- Whether messages at this guarantee carry a packet identifier. -/
def isAcknowledged : QoS → Bool
  | .atMostOnce => false
  | _           => true

instance : LE QoS := ⟨fun p q => p.level ≤ q.level⟩

instance (p q : QoS) : Decidable (p ≤ q) := inferInstanceAs (Decidable (p.level ≤ q.level))

instance : Min QoS := ⟨fun p q => if p ≤ q then p else q⟩

theorem ofLevel?_level (q : QoS) : ofLevel? q.level = some q := by
  cases q <;> rfl

theorem level_of_ofLevel? {n : Nat} {q : QoS} (h : ofLevel? n = some q) : q.level = n := by
  unfold ofLevel? at h
  split at h <;> cases h <;> rfl

end QoS

end Mqtt
