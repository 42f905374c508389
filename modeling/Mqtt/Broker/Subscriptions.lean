import Mqtt.Broker.ConnectionId
import Mqtt.QoS

/-!
# Subscriptions

Who is subscribed to which topic filter, and at which QoS. A filter matches the topic of the very
same name. The subscribers of a filter are kept in the order in which they subscribed, and a filter
without subscribers is not kept at all.
-/

namespace Mqtt

/-- A connection and the QoS granted to it. -/
structure Subscriber where
  connection : ConnectionId
  granted : QoS
deriving DecidableEq

namespace Subscriber

/-- Grant `qos` to `c`: at its old place if it has one, else after all others. -/
def grant (c : ConnectionId) (qos : QoS) : List Subscriber → List Subscriber
  | []        => [⟨c, qos⟩]
  | s :: rest => if s.connection = c then ⟨c, qos⟩ :: rest else s :: grant c qos rest

/-- Withdraw what is granted to `c`. -/
def withdraw (c : ConnectionId) (subscribers : List Subscriber) : List Subscriber :=
  subscribers.filter fun s => s.connection ≠ c

end Subscriber

/-- The subscribers of each filter that has some. -/
structure Subscriptions where
  filters : List (String × List Subscriber)
deriving DecidableEq

namespace Subscriptions

/-- No subscriptions. -/
def empty : Subscriptions := ⟨[]⟩

/-- The subscribers of the filter `topic`, in order. -/
def subscribersIn (topic : String) : List (String × List Subscriber) → List Subscriber
  | []             => []
  | (t, ss) :: rest => if t = topic then ss else subscribersIn topic rest

/-- The subscribers of the filter `topic`, in order. -/
def subscribers (table : Subscriptions) (topic : String) : List Subscriber :=
  subscribersIn topic table.filters

/-- Change the subscribers of `topic`, dropping the filter if none are left. -/
def edit (topic : String) (f : List Subscriber → List Subscriber) :
    List (String × List Subscriber) → List (String × List Subscriber)
  | [] =>
    match f [] with
    | []      => []
    | s :: ss => [(topic, s :: ss)]
  | (t, ss) :: rest =>
    if t = topic then
      match f ss with
      | []       => rest
      | s :: ss' => (topic, s :: ss') :: rest
    else (t, ss) :: edit topic f rest

/-- Subscribe `c` to `topic` at `qos`, in place of the QoS it had there. -/
def subscribe (topic : String) (c : ConnectionId) (qos : QoS) (table : Subscriptions) :
    Subscriptions :=
  ⟨edit topic (Subscriber.grant c qos) table.filters⟩

/-- Whether `c` is subscribed to `topic`. -/
def isSubscribed (table : Subscriptions) (topic : String) (c : ConnectionId) : Bool :=
  (table.subscribers topic).any fun s => s.connection = c

/-- End the subscription of `c` to `topic`, if there is one. -/
def unsubscribe (topic : String) (c : ConnectionId) (table : Subscriptions) : Subscriptions :=
  ⟨edit topic (Subscriber.withdraw c) table.filters⟩

/-- End all subscriptions of `c`. -/
def removeConnection (c : ConnectionId) (table : Subscriptions) : Subscriptions :=
  ⟨(table.filters.map fun (t, ss) => (t, Subscriber.withdraw c ss)).filter
    fun (_, ss) => !ss.isEmpty⟩

/-- The number of subscriptions of `c`. -/
def countOf (table : Subscriptions) (c : ConnectionId) : Nat :=
  table.filters.foldr (fun (_, ss) n => (ss.countP fun s => s.connection = c) + n) 0

/-- The number of filters with subscribers. -/
def size (table : Subscriptions) : Nat := table.filters.length

/-- Whether there are no subscriptions. -/
def isEmpty (table : Subscriptions) : Bool := table.filters.isEmpty

end Subscriptions

end Mqtt
