import Mqtt.Broker.Router
import Mqtt.Proofs.Broker.Subscriptions

/-!
# Requests for subscriptions

What a SUBSCRIBE and an UNSUBSCRIBE do to the QoS granted for a topic: they are dealt with request
by request (`Router.heedAll`), so that the last one that names the topic decides
(`Router.granted_heedAll_self`), and nobody else is concerned.
-/

namespace Mqtt

lemma QoS.min_le_right (p q : QoS) : min p q ≤ q := by
  cases p <;> cases q <;> decide

/-! ### Lists of requests -/

/-- What a packet asks for, topic by topic: to be subscribed at some QoS or, as `none`, no more. -/
def Packet.requests (packet : Packet) : List (String × Option QoS) :=
  match packet.body with
  | .subscribe _ requested => requested.map fun s => (s.filter, some s.qos)
  | .unsubscribe _ filters => filters.map fun t => (t, none)
  | _                      => []

/-- What the last of some requests that names `t` asks for, if there is one. -/
def lastRequest (t : String) (requests : List (String × Option QoS)) : Option (Option QoS) :=
  (requests.reverse.find? (·.1 = t)).map (·.2)

@[simp] lemma lastRequest_nil (t : String) : lastRequest t [] = none := rfl

lemma lastRequest_append (t : String) (earlier later : List (String × Option QoS)) :
    lastRequest t (earlier ++ later) = (lastRequest t later).or (lastRequest t earlier) := by
  rw [lastRequest, List.reverse_append, List.find?_append, Option.map_or]
  rfl

lemma lastRequest_cons (t : String) (request : String × Option QoS)
    (later : List (String × Option QoS)) : lastRequest t (request :: later) =
      (lastRequest t later).or (if request.1 = t then some request.2 else none) := by
  rw [← List.singleton_append, lastRequest_append]
  congr 1
  by_cases h : request.1 = t <;> simp [lastRequest, h]

namespace Router

variable {r r' : Router} {c d : ConnectionId} {t : String}

/-- What is granted once a request has been dealt with, or `old` if there was no request. -/
def answered (r : Router) (request : Option (Option QoS)) (old : Option QoS) : Option QoS :=
  match request with
  | none         => old
  | some request => request.map (min · r.maxQoS)

@[simp] lemma answered_none (old : Option QoS) : r.answered none old = old := rfl

lemma answered_congr (h : r'.maxQoS = r.maxQoS) {request : Option (Option QoS)}
    {old : Option QoS} : r'.answered request old = r.answered request old := by
  rw [answered.eq_def, answered.eq_def, h]

lemma answered_or (later earlier : Option (Option QoS)) (old : Option QoS) :
    r.answered (later.or earlier) old = r.answered later (r.answered earlier old) := by
  cases later <;> rfl

/-! ### Granted QoS -/

/-- The QoS granted to `c` for messages to `t`, if it is subscribed. -/
def granted (r : Router) (t : String) (c : ConnectionId) : Option QoS :=
  Subscriber.grantedTo c (r.subscriptions.subscribers t)

lemma mem_subscribers_iff (hw : r.subscriptions.WellFormed) {s : Subscriber} :
    s ∈ r.subscriptions.subscribers t ↔ r.granted t s.connection = some s.granted :=
  Subscriber.mem_iff_grantedTo (hw.distinct_subscribers t)

lemma granted_removeConnection (hw : r.subscriptions.WellFormed)
    (h : r'.subscriptions = r.subscriptions.removeConnection d) :
    r'.granted t c = if c = d then none else r.granted t c := by
  rw [granted, h, Subscriptions.subscribers_removeConnection hw]
  split <;> rename_i hc
  · subst hc
    exact Subscriber.grantedTo_withdraw_self
  · exact Subscriber.grantedTo_withdraw_of_ne hc

lemma granted_noteClosed (hw : r.subscriptions.WellFormed) :
    (r.noteClosed d).granted t c = if c = d then none else r.granted t c :=
  granted_removeConnection hw rfl

lemma granted_shut (hw : r.subscriptions.WellFormed) :
    (r.shut d).1.granted t c = if c = d then none else r.granted t c :=
  granted_removeConnection hw rfl

/-! ### Dealing with requests -/

/-- The router once it has dealt with a request of `c`. -/
def heed (c : ConnectionId) (request : String × Option QoS) (r : Router) : Router :=
  match request.2 with
  | some qos =>
    { r with subscriptions := r.subscriptions.subscribe request.1 c (min qos r.maxQoS) }
  | none     => { r with subscriptions := r.subscriptions.unsubscribe request.1 c }

/-- The router once it has dealt with requests of `c`, in order. -/
def heedAll (c : ConnectionId) (r : Router) : List (String × Option QoS) → Router
  | []                  => r
  | request :: requests => (r.heed c request).heedAll c requests

section

variable {request : String × Option QoS}

lemma phase_heed : (r.heed c request).phase d = r.phase d := by
  rw [heed]
  split <;> rfl

lemma maxQoS_heed : (r.heed c request).maxQoS = r.maxQoS := by
  rw [heed]
  split <;> rfl

lemma wellFormed_heed (hw : r.subscriptions.WellFormed) :
    (r.heed c request).subscriptions.WellFormed := by
  rw [heed]
  split
  · exact hw.subscribe
  · exact hw.unsubscribe

lemma granted_heed (hw : r.subscriptions.WellFormed) : (r.heed c request).granted t d =
    if request.1 = t ∧ d = c then request.2.map (min · r.maxQoS) else r.granted t d := by
  obtain ⟨filter, qos⟩ := request
  cases qos with
  | some qos =>
    rw [granted, heed, Subscriptions.subscribers_subscribe hw]
    by_cases ht : filter = t
    · by_cases hd : d = c <;> simp [ht, hd, granted]
    · simp [ht, Ne.symm ht, granted]
  | none =>
    rw [granted, heed, Subscriptions.subscribers_unsubscribe hw]
    by_cases ht : filter = t
    · by_cases hd : d = c <;> simp [ht, hd, granted]
    · simp [ht, Ne.symm ht, granted]

lemma wellFormed_heedAll (hw : r.subscriptions.WellFormed) (requests : List (String × Option QoS)) :
    (r.heedAll c requests).subscriptions.WellFormed := by
  induction requests generalizing r with
  | nil => exact hw
  | cons request requests ih => exact ih (wellFormed_heed hw)

lemma granted_heedAll_of_ne (hw : r.subscriptions.WellFormed) (h : d ≠ c)
    (requests : List (String × Option QoS)) :
    (r.heedAll c requests).granted t d = r.granted t d := by
  induction requests generalizing r with
  | nil => rfl
  | cons request requests ih =>
    rw [heedAll, ih (wellFormed_heed hw), granted_heed hw, if_neg fun hd => h hd.2]

/-- Of the requests about a topic, the last one counts. -/
theorem granted_heedAll_self (hw : r.subscriptions.WellFormed)
    (requests : List (String × Option QoS)) : (r.heedAll c requests).granted t c =
      r.answered (lastRequest t requests) (r.granted t c) := by
  induction requests generalizing r with
  | nil => rfl
  | cons request requests ih =>
    rw [heedAll, ih (wellFormed_heed hw), granted_heed hw, lastRequest_cons, answered_or,
      answered_congr maxQoS_heed]
    by_cases ht : request.1 = t <;> simp [ht, answered]

end

/-! ### Subscribing and unsubscribing -/

section

variable {id : UInt16}

lemma subscribe_eq_heedAll (requested : List TopicSubscription) : (r.subscribe c id requested).1 =
    r.heedAll c (requested.map fun s => (s.filter, some s.qos)) := by
  induction requested generalizing r with
  | nil => rfl
  | cons s requested ih => exact ih (r := r.heed c (s.filter, some s.qos))

lemma unsubscribe_eq_heedAll (filters : List String) :
    (r.unsubscribe c id filters).1 = r.heedAll c (filters.map fun t => (t, none)) := by
  induction filters generalizing r with
  | nil => rfl
  | cons filter filters ih => exact ih (r := r.heed c (filter, none))

end

end Router

end Mqtt
