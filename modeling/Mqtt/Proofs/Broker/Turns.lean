import Mqtt.Proofs.Broker.Requests

/-!
# Turns of the router

Everything that handling one event may bring about, case by case (`Router.Turn`,
`Router.turn_step`), and what it means for the phase of a connection and for the QoS granted to it.
Every invariant of the router is proved by these cases.
-/

namespace Mqtt

/-- Whether a packet of this kind ends a session: the client says so, or must not send it. -/
def PacketKind.endsSession : PacketKind → Bool
  | .connect | .disconnect | .connAck | .subAck | .unsubAck | .pingResp => true
  | _                                                                   => false

/-- Whether a packet of this kind belongs to the delivery of a message. -/
def PacketKind.isDeliveryStep : PacketKind → Bool
  | .pubAck | .pubRec | .pubRel | .pubComp => true
  | _                                      => false

namespace Router

variable {r r' : Router} {event : Event} {actions : List Action} {c d : ConnectionId} {t : String}

lemma isConnected_iff : r.isConnected c = true ↔ ∃ id, r.phase c = some (.connected id) := by
  rw [isConnected]
  split <;> simp_all

lemma step_of_isConnected {packet : Packet} (h : r.isConnected c = true) :
    r.step (.packet c packet) = r.serve c packet := by
  obtain ⟨id, hid⟩ := isConnected_iff.mp h
  rw [step, dispatch, hid]

/-- Handling an event takes the router `r` to another one, with the actions of this turn. -/
inductive Turn (r : Router) : Event → Router → List Action → Prop where
  | opened (c : ConnectionId) : Turn r (.opened c) (r.noteOpened c) []
  | closed (c : ConnectionId) : Turn r (.closed c) (r.noteClosed c) []
  | dropped {c : ConnectionId} {packet : Packet}
      (hc : r.phase c = none ∨ r.phase c = some .closed) : Turn r (.packet c packet) r []
  | accepted {c : ConnectionId} {packet : Packet} {header : ConnectHeader}
      {payload : ConnectPayload} (hc : r.phase c = some .awaitingConnect)
      (hp : packet.body = .connect header payload)
      (hcheck : r.check (payload.userName.getD "") (payload.password.getD []) = true) :
      Turn r (.packet c packet) { r with phases := r.phases.set c (.connected payload.clientId) }
        [.send c (.connAck false .accepted)]
  | refused {c : ConnectionId} {packet : Packet} {header : ConnectHeader}
      {payload : ConnectPayload} (hc : r.phase c = some .awaitingConnect)
      (hp : packet.body = .connect header payload)
      (hcheck : r.check (payload.userName.getD "") (payload.password.getD []) = false) :
      Turn r (.packet c packet) (r.shut c).1
        [.send c (.connAck false .badUserNameOrPassword), .close c]
  | premature {c : ConnectionId} {packet : Packet} (hc : r.phase c = some .awaitingConnect)
      (hp : packet.body.kind ≠ .connect) : Turn r (.packet c packet) (r.shut c).1 [.close c]
  | ended {c : ConnectionId} {packet : Packet} (hc : r.isConnected c = true)
      (hp : packet.body.kind.endsSession = true) :
      Turn r (.packet c packet) (r.shut c).1 [.close c]
  | ignored {c : ConnectionId} {packet : Packet} (hc : r.isConnected c = true)
      (hp : packet.body.kind.isDeliveryStep = true) : Turn r (.packet c packet) r []
  | pinged {c : ConnectionId} {packet : Packet} (hc : r.isConnected c = true)
      (hp : packet.body = .pingReq) : Turn r (.packet c packet) r [.send c .pingResp]
  | published {c : ConnectionId} {packet : Packet} {h : PublishHeader} {message : Bytes}
      (hc : r.isConnected c = true) (hp : packet.body = .publish h message) :
      Turn r (.packet c packet) r (r.publish c packet.header.qos h message).2
  | subscribed {c : ConnectionId} {packet : Packet} {id : UInt16}
      {requested : List TopicSubscription} (hc : r.isConnected c = true)
      (hp : packet.body = .subscribe id requested) :
      Turn r (.packet c packet) (r.subscribe c id requested).1
        [.send c (.subAck id (requested.map fun s => .granted (r.grantedQoS s)))]
  | unsubscribed {c : ConnectionId} {packet : Packet} {id : UInt16} {filters : List String}
      (hc : r.isConnected c = true) (hp : packet.body = .unsubscribe id filters) :
      Turn r (.packet c packet) (r.unsubscribe c id filters).1 [.send c (.unsubAck id)]

lemma turn_serve {packet : Packet} (hc : r.isConnected c = true) :
    Turn r (.packet c packet) (r.serve c packet).1 (r.serve c packet).2 := by
  cases hp : packet.body with
  | publish h message => rw [serve, hp]; exact .published hc hp
  | subscribe id requested => rw [serve, hp]; exact .subscribed hc hp
  | unsubscribe id filters => rw [serve, hp]; exact .unsubscribed hc hp
  | pingReq => rw [serve, hp]; exact .pinged hc hp
  | pubAck id | pubRec id | pubRel id | pubComp id =>
    rw [serve, hp]
    exact .ignored hc (by rw [hp]; rfl)
  | connect h payload | disconnect | connAck h | subAck id codes | unsubAck id | pingResp =>
    rw [serve, hp]
    exact .ended hc (by rw [hp]; rfl)

lemma turn_connect {packet : Packet} {header : ConnectHeader} {payload : ConnectPayload}
    (hc : r.phase c = some .awaitingConnect) (hp : packet.body = .connect header payload) :
    Turn r (.packet c packet) (r.connect c payload).1 (r.connect c payload).2 := by
  rw [connect, hc]
  dsimp only
  split <;> rename_i hcheck
  · exact .accepted hc hp hcheck
  · exact .refused hc hp (Bool.eq_false_iff.mpr hcheck)

/-- A step is one of the turns. -/
theorem turn_step (r : Router) (event : Event) :
    Turn r event (r.step event).1 (r.step event).2 := by
  cases event with
  | opened c => exact .opened c
  | closed c => exact .closed c
  | packet c packet =>
    change Turn r (.packet c packet) (r.dispatch c packet).1 (r.dispatch c packet).2
    rw [dispatch]
    split
    · exact .dropped (.inl ‹_›)
    · exact .dropped (.inr ‹_›)
    · exact turn_serve (isConnected_iff.mpr ⟨_, ‹_›⟩)
    · split
      · exact turn_connect ‹_› ‹_›
      · refine .premature ‹_› fun hk => ?_
        cases hp : packet.body <;> simp_all [Body.kind]

/-! ### Phases -/

lemma phase_noteOpened : (r.noteOpened d).phase c =
    if c = d then some .awaitingConnect else r.phase c := by
  split <;> rename_i h
  · subst h; exact Roster.find?_set_self ..
  · exact Roster.find?_set_of_ne h ..

lemma phase_noteClosed : (r.noteClosed d).phase c = if c = d then none else r.phase c := by
  split <;> rename_i h
  · subst h; exact Roster.find?_remove_self ..
  · exact Roster.find?_remove_of_ne h ..

lemma phase_shut : (r.shut d).1.phase c =
    if c = d then (r.phase c).map fun _ => .closed else r.phase c := by
  split <;> rename_i h
  · subst h; exact Roster.find?_modify_self ..
  · exact Roster.find?_modify_of_ne h ..

lemma phase_set {p : Phase} : ({ r with phases := r.phases.set d p } : Router).phase c =
    if c = d then some p else r.phase c := by
  split <;> rename_i h
  · subst h; exact Roster.find?_set_self ..
  · exact Roster.find?_set_of_ne h ..

lemma isConnected_congr (h : r'.phase c = r.phase c) :
    r'.isConnected c = r.isConnected c := by
  rw [isConnected, isConnected, h]

/-- Only the connection that an event happens to changes its phase. -/
lemma Turn.phase_of_ne (turn : Turn r event r' actions) (h : event.connection ≠ c) :
    r'.phase c = r.phase c := by
  cases turn with
  | opened d => exact phase_noteOpened.trans (if_neg h.symm)
  | closed d => exact phase_noteClosed.trans (if_neg h.symm)
  | accepted hd hp hcheck => exact phase_set.trans (if_neg h.symm)
  | refused | premature | ended => exact phase_shut.trans (if_neg h.symm)
  | dropped | ignored | pinged | published | subscribed | unsubscribed => rfl

/-- The highest QoS never changes. -/
lemma Turn.maxQoS_eq (turn : Turn r event r' actions) : r'.maxQoS = r.maxQoS := by
  cases turn <;> rfl

/-! ### Subscriptions -/

lemma Turn.wellFormed (turn : Turn r event r' actions) (hw : r.subscriptions.WellFormed) :
    r'.subscriptions.WellFormed := by
  cases turn with
  | closed | refused | premature | ended => exact hw.removeConnection
  | subscribed hd hp =>
    rw [subscribe_eq_heedAll]
    exact wellFormed_heedAll hw _
  | unsubscribed hd hp =>
    rw [unsubscribe_eq_heedAll]
    exact wellFormed_heedAll hw _
  | opened | dropped | accepted | ignored | pinged | published => exact hw

/-- Only the connection that an event happens to changes what is granted to it. -/
lemma Turn.granted_of_ne (turn : Turn r event r' actions) (hw : r.subscriptions.WellFormed)
    (h : event.connection ≠ c) : r'.granted t c = r.granted t c := by
  cases turn with
  | closed d => exact (granted_noteClosed hw).trans (if_neg h.symm)
  | refused | premature | ended => exact (granted_shut hw).trans (if_neg h.symm)
  | subscribed hd hp =>
    rw [subscribe_eq_heedAll]
    exact granted_heedAll_of_ne hw h.symm _
  | unsubscribed hd hp =>
    rw [unsubscribe_eq_heedAll]
    exact granted_heedAll_of_ne hw h.symm _
  | opened | dropped | accepted | ignored | pinged | published => rfl

end Router

end Mqtt
