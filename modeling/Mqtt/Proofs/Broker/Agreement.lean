import Mqtt.Proofs.Broker.Conversation

/-!
# Two routers side by side

How far a connection comes and what it is answered does not depend on the table of subscriptions,
and nothing depends on how far other connections have come. So two routers that agree on some
connections (`Router.AgreeOn`) do the same for these whenever the same happens to them
(`Router.AgreeOn.step`): on the control plane in any case, and in all respects if they have the same
subscriptions.
-/

namespace Mqtt

/-! ### The control plane -/

/-- Whether packets of this kind answer a request of a client, other than to publish. -/
def PacketKind.isControl : PacketKind → Bool
  | .connAck | .subAck | .unsubAck | .pingResp => true
  | _                                          => false

/-- Whether the action closes a connection, or sends a CONNACK, SUBACK, UNSUBACK or PINGRESP. -/
def Action.isControl : Action → Bool
  | .send _ packet => packet.body.kind.isControl
  | .close _       => true

namespace Router

variable {r r' s : Router} {event : Event} {actions : List Action} {c : ConnectionId}
  {packet : Packet}

/-- Publishing is no matter of the control plane. -/
lemma isControl_publish {qos : QoS} {h : PublishHeader} {message : Bytes} {action : Action}
    (ha : action ∈ (r.publish c qos h message).2) : action.isControl = false := by
  rcases mem_publish ha with ⟨packet, levels, hack, rfl⟩ | ⟨t, -, -, rfl⟩
  · obtain ⟨i, rfl | rfl⟩ := acknowledgement_cases hack <;> rfl
  · rfl

/-- Whoever does not cause an event is not concerned by it on the control plane. -/
lemma Turn.isControl_of_ne (turn : Turn r event r' actions) {action : Action}
    (ha : action ∈ actions) (hc : event.connection ≠ action.connection) :
    action.isControl = false := by
  obtain ⟨qos, h, message, t, -, rfl⟩ := turn.forward_of_ne ha hc
  rfl

/-! ### Agreement -/

/-- The two routers have the same rules, and agree on how far the connections in question have
come. -/
structure AgreeOn (known : ConnectionId → Prop) (r s : Router) : Prop where
  check : r.check = s.check
  maxQoS : r.maxQoS = s.maxQoS
  phase : ∀ c, known c → r.phase c = s.phase c

/-- What two routers come to that have agreed so far: they agree still, and have done the same on
the control plane; and in all respects, if they had the same subscriptions. -/
structure SameOutcome (known : ConnectionId → Prop) (r s : Router)
    (outcome other : Router × List Action) : Prop where
  agree : AgreeOn known outcome.1 other.1
  control : outcome.2.filter Action.isControl = other.2.filter Action.isControl
  subscriptions : r.subscriptions = s.subscriptions →
    outcome.1.subscriptions = other.1.subscriptions
  actions : r.subscriptions = s.subscriptions → outcome.2 = other.2

namespace AgreeOn

variable {known : ConnectionId → Prop}

lemma refl (known : ConnectionId → Prop) (r : Router) : AgreeOn known r r :=
  ⟨rfl, rfl, fun _ _ => rfl⟩

lemma symm (h : AgreeOn known r s) : AgreeOn known s r where
  check := h.check.symm
  maxQoS := h.maxQoS.symm
  phase c hc := (h.phase c hc).symm

lemma trans (h : AgreeOn known r' r) (hs : AgreeOn known r s) : AgreeOn known r' s where
  check := h.check.trans hs.check
  maxQoS := h.maxQoS.trans hs.maxQoS
  phase c hc := (h.phase c hc).trans (hs.phase c hc)

lemma check_eq (h : AgreeOn known r s) (userName : String) (password : Bytes) :
    r.check userName password = s.check userName password := by
  rw [h.check]

lemma grantedQoS_eq (h : AgreeOn known r s) : r.grantedQoS = s.grantedQoS := by
  funext requested
  rw [grantedQoS, grantedQoS, h.maxQoS]

lemma set (h : AgreeOn known r s) {p : Phase} : AgreeOn known
    { r with phases := r.phases.set c p } { s with phases := s.phases.set c p } where
  check := h.check
  maxQoS := h.maxQoS
  phase d hd := by rw [phase_set, phase_set, h.phase d hd]

lemma noteClosed (h : AgreeOn known r s) :
    SameOutcome known r s (r.noteClosed c, []) (s.noteClosed c, []) where
  agree := ⟨h.check, h.maxQoS, fun d hd => by
    rw [phase_noteClosed, phase_noteClosed, h.phase d hd]⟩
  control := rfl
  subscriptions hsub := congrArg (·.removeConnection c) hsub
  actions _ := rfl

lemma shut (h : AgreeOn known r s) : SameOutcome known r s (r.shut c) (s.shut c) where
  agree := ⟨h.check, h.maxQoS, fun d hd => by rw [phase_shut, phase_shut, h.phase d hd]⟩
  control := rfl
  subscriptions hsub := congrArg (·.removeConnection c) hsub
  actions _ := rfl

lemma idle (h : AgreeOn known r s) : SameOutcome known r s (r, actions) (s, actions) :=
  ⟨h, rfl, id, fun _ => rfl⟩

lemma connect (h : AgreeOn known r s) (hc : known c) {payload : ConnectPayload} :
    SameOutcome known r s (r.connect c payload) (s.connect c payload) := by
  rw [Router.connect, Router.connect, h.phase c hc, h.check_eq]
  split
  · split
    · exact ⟨h.set, rfl, id, fun _ => rfl⟩
    · exact { h.shut with control := rfl, actions := fun _ => rfl }
  · exact h.idle

lemma subscribe (h : AgreeOn known r s) {id : UInt16} {requested : List TopicSubscription} :
    SameOutcome known r s (r.subscribe c id requested) (s.subscribe c id requested) := by
  have hactions : (r.subscribe c id requested).2 = (s.subscribe c id requested).2 := by
    rw [Router.subscribe, Router.subscribe, h.grantedQoS_eq]
  refine ⟨⟨h.check, h.maxQoS, h.phase⟩, congrArg _ hactions, fun hsub => ?_, fun _ => hactions⟩
  rw [Router.subscribe, Router.subscribe, h.grantedQoS_eq, hsub]

lemma unsubscribe (h : AgreeOn known r s) {id : UInt16} {filters : List String} :
    SameOutcome known r s (r.unsubscribe c id filters) (s.unsubscribe c id filters) where
  agree := ⟨h.check, h.maxQoS, h.phase⟩
  control := rfl
  subscriptions hsub := by rw [Router.unsubscribe, Router.unsubscribe, hsub]
  actions _ := rfl

lemma publish (h : AgreeOn known r s) {qos : QoS} {header : PublishHeader} {message : Bytes} :
    SameOutcome known r s (r.publish c qos header message) (s.publish c qos header message) where
  agree := h
  control := by
    have hnone : ∀ r : Router, (r.publish c qos header message).2.filter Action.isControl = [] :=
      fun r => List.filter_eq_nil_iff.mpr fun action ha => by simp [isControl_publish ha]
    rw [hnone, hnone]
  subscriptions := id
  actions hsub := by rw [Router.publish, Router.publish, hsub]

lemma serve (h : AgreeOn known r s) :
    SameOutcome known r s (r.serve c packet) (s.serve c packet) := by
  rw [Router.serve, Router.serve]
  cases packet.body with
  | publish header message => exact h.publish
  | subscribe id requested => exact h.subscribe
  | unsubscribe id filters => exact h.unsubscribe
  | pingReq | pubAck id | pubRec id | pubRel id | pubComp id => exact h.idle
  | connect header payload | disconnect | connAck header | subAck id codes | unsubAck id
  | pingResp => exact h.shut

lemma dispatch (h : AgreeOn known r s) (hc : known c) :
    SameOutcome known r s (r.dispatch c packet) (s.dispatch c packet) := by
  rw [Router.dispatch, Router.dispatch, h.phase c hc]
  split
  · exact h.idle
  · exact h.idle
  · exact h.serve
  · split
    · exact h.connect hc
    · exact h.shut

/-- Routers that agree on a connection come to the same when an event happens to it. -/
theorem step (h : AgreeOn known r s) (hc : known event.connection) :
    SameOutcome known r s (r.step event) (s.step event) := by
  cases event with
  | opened c => exact ⟨h.set, rfl, id, fun _ => rfl⟩
  | packet c packet => exact h.dispatch hc
  | closed c => exact h.noteClosed

end AgreeOn

/-- Routers agree on the connections that an event does not happen to. -/
lemma Turn.agreeOn (turn : Turn r event r' actions) {known : ConnectionId → Prop}
    (hk : ¬ known event.connection) : AgreeOn known r' r where
  check := by cases turn <;> rfl
  maxQoS := turn.maxQoS_eq
  phase c hc := turn.phase_of_ne fun he => hk (he ▸ hc)

end Router

end Mqtt
