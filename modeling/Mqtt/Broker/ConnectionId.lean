/-!
# Connection identifiers

Every connection has a number of its own, in the order in which connections are opened.
-/

namespace Mqtt

/-- Number of a connection. -/
structure ConnectionId where
  value : UInt64
deriving DecidableEq

namespace ConnectionId

/-- The written form of an identifier. -/
def name (c : ConnectionId) : String := "#" ++ toString c.value.toNat

/-- Whether one identifier is not above another. -/
def le (c d : ConnectionId) : Bool := c.value ≤ d.value

end ConnectionId

/-- Source of identifiers: the one to hand out next. -/
structure ConnectionIds where
  upcoming : ConnectionId
deriving DecidableEq

namespace ConnectionIds

/-- A source that has handed out none; it starts with 1. -/
def new : ConnectionIds := ⟨⟨1⟩⟩

/-- The next identifier, and the source after it. -/
def generate (ids : ConnectionIds) : ConnectionId × ConnectionIds :=
  (ids.upcoming, ⟨⟨ids.upcoming.value + 1⟩⟩)

/-- The next `n` identifiers. -/
def generateMany (ids : ConnectionIds) : Nat → List ConnectionId
  | 0     => []
  | n + 1 => ids.generate.1 :: ids.generate.2.generateMany n

end ConnectionIds

end Mqtt
