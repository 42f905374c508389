import Mqtt.Bytes

/-!
# Outboxes

The bounded queue of what is to be sent to a connection. An item that meets a full queue is lost,
and with it the queue's sending end: what is queued stays, and nothing is queued after it. When the
receiving end is gone, items are lost and the queue stays as it is.
-/

namespace Mqtt

/-- What a connection is asked to do. -/
inductive Outbound where
  /-- Write these bytes. -/
  | packet (bytes : Bytes)
  /-- Close, once everything before has been written. -/
  | close
deriving DecidableEq

/-- Queue of a connection. -/
structure Outbox where
  items : List Outbound
  /-- Whether the sending end is still held, so that more may come. -/
  isOpen : Bool
  /-- Whether the receiving end is still held. -/
  isAttached : Bool
deriving DecidableEq

namespace Outbox

/-- The greatest number of items in a queue. -/
def capacity : Nat := 1000

/-- An empty queue with both ends held. -/
def new : Outbox := ⟨[], true, true⟩

/-- Queue an item. -/
def push (item : Outbound) (box : Outbox) : Outbox :=
  if !box.isOpen || !box.isAttached then box
  else if box.items.length < capacity then { box with items := box.items ++ [item] }
  else { box with isOpen := false }

/-- Drop the sending end. -/
def hangUp (box : Outbox) : Outbox := { box with isOpen := false }

/-- Drop the receiving end, and with it what is queued. -/
def detach (box : Outbox) : Outbox := { box with items := [], isAttached := false }

/-- Take everything out of the queue. -/
def drain (box : Outbox) : List Outbound × Outbox := (box.items, { box with items := [] })

end Outbox

end Mqtt
