import Mqtt.Proofs.Broker.Conversation
import Mqtt.Proofs.Stream.Delivered

/-!
# Delivery of messages

The router keeps a table of subscriptions, which it edits as requests come in. Who is sent a
message can be told without the table, from the history alone: what counts is the last request that
names the topic, among those a client made while it had a session
(`Router.publishesTo_of_lastRequest`).
-/

namespace Mqtt

/-- The packet that is sent, if it is a PUBLISH for `c`. -/
def Action.publishTo? (c : ConnectionId) : Action → Option Packet
  | .send d packet => if d = c ∧ packet.body.kind = .publish then some packet else none
  | .close _       => none

namespace Router

variable {r r' : Router} {event : Event} {events : List Event} {actions : List Action}
  {b c : ConnectionId} {t : String}

/-! ### The history of requests -/

/-- What `c` asks for by an event, if it has a session. -/
def requestsAt (c : ConnectionId) (r : Router) (event : Event) : List (String × Option QoS) :=
  match event with
  | .packet d packet => if d = c ∧ r.isConnected c = true then packet.requests else []
  | _                => []

/-- What `c` asks for while the events are handled, in order. -/
def requestsOf (c : ConnectionId) (r : Router) : List Event → List (String × Option QoS)
  | []              => []
  | event :: events => r.requestsAt c event ++ (r.step event).1.requestsOf c events

lemma requestsAt_of_ne (h : event.connection ≠ c) : r.requestsAt c event = [] := by
  cases event with
  | packet d packet => exact if_neg fun hd => h hd.1
  | opened | closed => rfl

lemma requestsAt_of_not_isConnected (h : ¬ r.isConnected c = true) :
    r.requestsAt c event = [] := by
  cases event with
  | packet d packet => exact if_neg fun hd => h hd.2
  | opened | closed => rfl

/-- A turn grants nothing to a client without a session, and does not open one with grants. -/
lemma Turn.granted_of_not_isConnected (turn : Turn r event r' actions)
    (hw : r.subscriptions.WellFormed) (hs : r.Settled c) (hc : ¬ r.isConnected c = true) :
    r'.granted t c = r.granted t c := by
  by_cases he : event.connection = c
  · subst he
    have hnone := hs.granted_eq_none (Bool.eq_false_iff.mpr hc) t
    cases turn with
    | closed d => exact ((granted_noteClosed hw).trans (if_pos rfl)).trans hnone.symm
    | refused hd | premature hd => exact ((granted_shut hw).trans (if_pos rfl)).trans hnone.symm
    | opened | dropped | accepted => rfl
    | ended hd | ignored hd | pinged hd | published hd | subscribed hd | unsubscribed hd =>
      exact absurd hd hc
  · exact turn.granted_of_ne hw he

lemma requestsAt_packet {packet : Packet} (h : r.isConnected c = true) :
    r.requestsAt c (.packet c packet) = packet.requests :=
  if_pos ⟨rfl, h⟩

/-- While a client has a session, what is granted to it follows its requests. -/
lemma Turn.granted_of_isConnected (turn : Turn r event r' actions) (hw : r.subscriptions.WellFormed)
    (hc : r.isConnected c = true) (hc' : r'.isConnected c = true) :
    r'.granted t c = r.answered (lastRequest t (r.requestsAt c event)) (r.granted t c) := by
  by_cases he : event.connection = c
  · subst he
    have hp := Ignores.not_isConnected (r := r') (c := event.connection)
    cases turn with
    | opened d => rfl
    | closed d => exact absurd hc' (hp (.inl (phase_noteClosed.trans (if_pos rfl))))
    | dropped hd => exact absurd hc (Ignores.not_isConnected hd)
    | accepted hd | refused hd | premature hd =>
      rw [Event.connection, isConnected_eq_false_of_phase hd (by simp)] at hc
      cases hc
    | ended hd hbody =>
      obtain ⟨id, hid⟩ := isConnected_iff.mp hd
      exact absurd hc' (hp (ignores_shut (by simp [hid])))
    | ignored hd hbody =>
      rw [Event.connection, requestsAt_packet hd, Packet.requests]
      split <;> rename_i h <;> simp_all [Body.kind, PacketKind.isDeliveryStep]
    | pinged hd hbody | published hd hbody =>
      rw [Event.connection, requestsAt_packet hd, Packet.requests, hbody]
      rfl
    | subscribed hd hbody =>
      rw [Event.connection, requestsAt_packet hd, Packet.requests, hbody, subscribe_eq_heedAll]
      exact granted_heedAll_self hw _
    | unsubscribed hd hbody =>
      rw [Event.connection, requestsAt_packet hd, Packet.requests, hbody, unsubscribe_eq_heedAll]
      exact granted_heedAll_self hw _
  · rw [requestsAt_of_ne he, turn.granted_of_ne hw he]
    rfl

lemma Ignores.not_isConnected_run (hi : r.Ignores c) (ho : .opened c ∉ events) :
    ¬ (r.run events).1.isConnected c = true := by
  induction events generalizing r with
  | nil => exact hi.not_isConnected
  | cons event events ih =>
    rw [List.mem_cons, not_or] at ho
    exact ih ((turn_step r event).ignores hi (Ne.symm ho.1)) ho.2

/-- Who has a session after some events, and had one before them, has had it all the time. -/
lemma isConnected_step_of_run (hw : r.subscriptions.WellFormed) (hs : r.Settled c)
    (ho : r.OpensOnce c (event :: events)) (hc : r.isConnected c = true)
    (hrun : (r.run (event :: events)).1.isConnected c = true) :
    (r.step event).1.isConnected c = true := by
  obtain ⟨id, hid⟩ := isConnected_iff.mp hc
  have hnot := ho.not_mem_of_phase (by simp [hid])
  rw [List.mem_cons, not_or] at hnot
  rcases (turn_step r event).output_of_connected hw hs hc (Ne.symm hnot.1) with ⟨hc', -⟩ | ⟨hi, -⟩
  · exact hc'
  · exact absurd hrun (hi.not_isConnected_run hnot.2)

/-- What is granted to a client that has a session follows the requests in the events. -/
theorem granted_run (hw : r.subscriptions.WellFormed) (hs : r.Settled c)
    (ho : r.OpensOnce c events) (hc : (r.run events).1.isConnected c = true) :
    (r.run events).1.granted t c =
      r.answered (lastRequest t (r.requestsOf c events)) (r.granted t c) := by
  induction events generalizing r with
  | nil => rfl
  | cons event events ih =>
    have turn := turn_step r event
    have hs' := turn.settled hw hs ho.phase_eq_none
    have hrest := ih (turn.wellFormed hw) hs' (ho.tail turn) hc
    -- A session that is there in the end has not been lost on the way, so this request counts.
    have hstep : (r.step event).1.granted t c =
        r.answered (lastRequest t (r.requestsAt c event)) (r.granted t c) := by
      by_cases hold : r.isConnected c = true
      · exact turn.granted_of_isConnected hw hold (isConnected_step_of_run hw hs ho hold hc)
      · rw [requestsAt_of_not_isConnected hold, lastRequest_nil, answered_none]
        exact turn.granted_of_not_isConnected hw hs hold
    rw [run_cons, requestsOf, lastRequest_append, answered_or, ← hstep]
    exact hrest.trans (answered_congr turn.maxQoS_eq)

/-! ### Forwarding -/

/-- The PUBLISH packets among what is sent to `c`. -/
def publishesTo (c : ConnectionId) (actions : List Action) : List Packet :=
  actions.filterMap (Action.publishTo? c)

section Forwarding

variable {qos : QoS} {h : PublishHeader} {message : Bytes} {packet : Packet} {s : Subscriber}

lemma publishesTo_append {more : List Action} :
    publishesTo c (actions ++ more) = publishesTo c actions ++ publishesTo c more :=
  List.filterMap_append

lemma kind_of_acknowledgement {id : Option UInt16} {levels : List QoS}
    (ha : acknowledgement id levels = some packet) : packet.body.kind ≠ .publish := by
  obtain ⟨i, rfl | rfl⟩ := acknowledgement_cases ha <;>
    simp [Packet.pubAck, Packet.pubRec, Packet.ofId, Body.kind]

lemma publishesTo_acknowledgement {id : Option UInt16} {levels : List QoS} :
    publishesTo c ((acknowledgement id levels).map (Action.send b)).toList = [] := by
  refine List.filterMap_eq_nil_iff.mpr fun action ha => ?_
  obtain ⟨packet, hp, rfl⟩ := Option.map_eq_some_iff.mp (Option.mem_toList.mp ha)
  exact if_neg fun hd => kind_of_acknowledgement hp hd.2

lemma publishTo?_forward : (Action.send s.connection (forward qos h message s)).publishTo? c =
    if s.connection = c then some (forward qos h message s) else none :=
  if_congr (and_iff_left rfl) rfl rfl

lemma publishesTo_forwards {subscribers : List Subscriber} :
    publishesTo c (subscribers.map fun s => .send s.connection (forward qos h message s)) =
      (subscribers.filter (·.connection = c)).map (forward qos h message) := by
  induction subscribers with
  | nil => rfl
  | cons s rest ih =>
    rw [publishesTo] at ih ⊢
    rw [List.map_cons, List.filterMap_cons, publishTo?_forward, ih]
    by_cases hc : s.connection = c <;> simp [hc]

/-- A message is forwarded at most once to each connection, and only if it is subscribed. -/
lemma publishesTo_publish (hw : r.subscriptions.WellFormed) :
    publishesTo c (r.publish b qos h message).2 =
      (((r.granted h.topic c).map (Subscriber.mk c)).toList.filter (isServed h.packetId)).map
        (forward qos h message) := by
  rw [publish, publishesTo_append, publishesTo_acknowledgement, publishesTo_forwards,
    List.filter_comm, Subscriber.filter_connection_eq (hw.distinct_subscribers h.topic)]
  rfl

/-! ### Wire forms of forwarded messages -/

lemma isServed_iff : isServed h.packetId s = true ↔
    s.granted = .atMostOnce ∨ h.packetId.isSome = true := by
  rw [isServed]
  cases s.granted <;> simp [QoS.isAcknowledged]

/-- A message is forwarded above QoS 0 with the identifier that it came with. -/
lemma hasRightPacketId_forward (hs : isServed h.packetId s = true) :
    (forward qos h message s).hasRightPacketId = true := by
  change ((if (forwardQoS qos s).isAcknowledged then h.packetId else none).isSome
    == (forwardQoS qos s).isAcknowledged) = true
  rcases isServed_iff.mp hs with hgranted | hid
  · have hqos : (forwardQoS qos s).isAcknowledged = false := by
      rw [forwardQoS, hgranted]
      cases qos <;> rfl
    simp [hqos]
  · split <;> rename_i hq <;> simp [hid, hq]

/-- The body that is forwarded can be written if the one that came in can, and is no longer. -/
lemma exists_write_forward {body : Bytes} (hb : (Body.publish h message).write = .of body) :
    ∃ bs, (forward qos h message s).body.write = .of bs := by
  obtain ⟨front, rest, rfl, hfront, hrest⟩ := Output.append_eq_of_iff.mp hb
  obtain ⟨hfault, hfront⟩ := PublishHeader.write_eq_of_iff.mp hfront
  obtain ⟨topic, id, rfl, htopic, -⟩ := Output.append_eq_of_iff.mp hfront
  obtain ⟨id', hid'⟩ : ∃ bs, PublishHeader.writePacketId
      (if (forwardQoS qos s).isAcknowledged then h.packetId else none) = .of bs := by
    split
    · cases h.packetId <;> exact ⟨_, rfl⟩
    · exact ⟨_, rfl⟩
  refine ⟨topic ++ id' ++ rest, Output.append_eq_of_iff.mpr ⟨_, _, rfl, ?_, hrest⟩⟩
  exact PublishHeader.write_eq_of_iff.mpr
    ⟨hfault, Output.append_eq_of_iff.mpr ⟨_, _, rfl, htopic, hid'⟩⟩

lemma length_forward_le :
    (forward qos h message s).body.length ≤ (Body.publish h message).length := by
  change PublishHeader.length ⟨h.topic, if _ then _ else _⟩ + _ ≤ h.length + _
  simp only [PublishHeader.length]
  split <;> simp

/-- Whatever came from a decoder and is forwarded has a wire form. -/
lemma exists_encode_forward (hp : packet.Delivered) (hb : packet.body = .publish h message)
    (hs : isServed h.packetId s = true) :
    ∃ wire, (forward packet.header.qos h message s).encode = .ok wire := by
  obtain ⟨field, body, hform⟩ := hp.exists_form
  have hwrite := hform.body
  have hle := hform.field.le_max
  rw [hform.length_body, hb] at hle
  rw [hb] at hwrite
  obtain ⟨bs, hbs⟩ : ∃ bs, (forward packet.header.qos h message s).body.write = .of bs :=
    exists_write_forward hwrite
  exact ⟨_, Packet.encode_eq_ok_iff.mpr ⟨hasRightPacketId_forward hs, rfl,
    length_forward_le.trans hle, bs, hbs, rfl⟩⟩

end Forwarding

/-! ### Who is sent a message -/

/-- After some events `c` is owed a message under the header `h`: it has a session, and the last
thing it asked for about the topic is to be subscribed, at the QoS `requested`; a subscription above
QoS 0 is served only with a packet identifier. -/
structure Awaits (check : CredentialCheck) (maxQoS : QoS) (events : List Event) (h : PublishHeader)
    (c : ConnectionId) (requested : QoS) : Prop where
  session : ((new check maxQoS).run events).1.isConnected c = true
  request : lastRequest h.topic ((new check maxQoS).requestsOf c events) = some (some requested)
  identified : min requested maxQoS = .atMostOnce ∨ h.packetId.isSome = true

/-- `forwarded` carries the message on, at the given QoS. -/
structure Forwards (h : PublishHeader) (message : Bytes) (qos : QoS) (forwarded : Packet) :
    Prop where
  header : forwarded.header = ⟨.publish, false, qos, false, forwarded.body.length⟩
  body : forwarded.body =
    .publish ⟨h.topic, if qos = .atMostOnce then none else h.packetId⟩ message
  wire : ∃ wire, forwarded.encode = .ok wire

section Delivery

variable {check : CredentialCheck} {maxQoS : QoS} {packet : Packet} {h : PublishHeader}
  {message : Bytes}

lemma step_publish (hb : r.isConnected b = true) (hbody : packet.body = .publish h message) :
    r.step (.packet b packet) = r.publish b packet.header.qos h message := by
  rw [step_of_isConnected hb, serve, hbody]

lemma forwards_forward {requested : QoS} (hp : packet.Delivered)
    (hbody : packet.body = .publish h message)
    (hid : requested = .atMostOnce ∨ h.packetId.isSome = true) :
    Forwards h message (min packet.header.qos requested)
      (forward packet.header.qos h message ⟨c, requested⟩) := by
  refine ⟨rfl, ?_, exists_encode_forward hp hbody (isServed_iff.mpr hid)⟩
  change Body.publish ⟨h.topic, if (min packet.header.qos requested).isAcknowledged then _ else _⟩ _
    = _
  cases min packet.header.qos requested <;> rfl

/-- What is granted after a run of a new router follows the requests alone. -/
lemma granted_run_new (ho : ∀ d, events.count (.opened d) ≤ 1)
    (hc : ((new check maxQoS).run events).1.isConnected c = true) :
    ((new check maxQoS).run events).1.granted t c =
      (lastRequest t ((new check maxQoS).requestsOf c events)).bind
        (·.map (min · maxQoS)) := by
  rw [granted_run Subscriptions.wellFormed_empty (settled_of_reachable .new c)
    (opensOnce_new (ho c)) hc]
  cases lastRequest t ((new check maxQoS).requestsOf c events) <;> rfl

/-- Who is sent a published message, how often and how, is told by the history of requests. -/
theorem publishesTo_of_lastRequest (ho : ∀ d, events.count (.opened d) ≤ 1)
    (hb : ((new check maxQoS).run events).1.isConnected b = true) (hp : packet.Delivered)
    (hbody : packet.body = .publish h message) (c : ConnectionId) :
    (∀ requested, Awaits check maxQoS events h c requested → ∃ forwarded,
      publishesTo c (((new check maxQoS).run events).1.step (.packet b packet)).2 = [forwarded] ∧
        Forwards h message (min packet.header.qos (min requested maxQoS)) forwarded) ∧
    ((∀ requested, ¬ Awaits check maxQoS events h c requested) →
      publishesTo c (((new check maxQoS).run events).1.step (.packet b packet)).2 = []) := by
  have hreach : Reachable check maxQoS ((new check maxQoS).run events).1 :=
    Reachable.new.run fun d => opensOnce_new (ho d)
  have hgranted := @granted_run_new events c h.topic check maxQoS ho
  rw [step_publish hb hbody, publishesTo_publish (wellFormed_of_reachable hreach)]
  constructor
  · intro requested ha
    rw [hgranted ha.session, ha.request]
    refine ⟨forward packet.header.qos h message ⟨c, min requested maxQoS⟩, ?_,
      forwards_forward hp hbody ha.identified⟩
    have hserved : isServed h.packetId ⟨c, min requested maxQoS⟩ = true :=
      isServed_iff.mpr ha.identified
    simp [hserved]
  · intro hnone
    rw [List.map_eq_nil_iff, List.filter_eq_nil_iff]
    intro s hs hserved
    obtain ⟨qos, hq, rfl⟩ := Option.map_eq_some_iff.mp (Option.mem_toList.mp hs)
    have hc := (settled_of_reachable hreach c _ _ hq).1
    rw [hgranted hc] at hq
    obtain ⟨request, hrequest, hq⟩ := Option.bind_eq_some_iff.mp hq
    obtain ⟨requested, rfl, rfl⟩ := Option.map_eq_some_iff.mp hq
    exact hnone requested ⟨hc, hrequest, isServed_iff.mp hserved⟩

/-- The last request of one client is a subscription, that of another one is not. -/
theorem publishesTo_of_lastRequest_two :
    let events : List Event :=
      [.opened ⟨1⟩, .opened ⟨2⟩, .opened ⟨3⟩,
        .packet ⟨1⟩ (ConnectRequest.new "x" 0).packet,
        .packet ⟨2⟩ (ConnectRequest.new "y" 0).packet,
        .packet ⟨3⟩ (ConnectRequest.new "z" 0).packet,
        .packet ⟨3⟩ (.subscribe 1 [⟨"a", .exactlyOnce⟩]),
        .packet ⟨2⟩ (.subscribe 1 [⟨"a", .atMostOnce⟩, ⟨"b", .atMostOnce⟩]),
        .packet ⟨2⟩ (.unsubscribe 2 ["a", "b"]),
        .packet ⟨2⟩ (.subscribe 3 [⟨"a", .atMostOnce⟩, ⟨"a", .exactlyOnce⟩]),
        .packet ⟨3⟩ (.unsubscribe 2 ["a"])]
    let r := ((new .anyone .atLeastOnce).run events).1
    let h : PublishHeader := ⟨"a", some 5⟩
    let packet : Packet :=
      ((Packet.publish "a" .exactlyOnce (some 5) [0xFF]).withRetain true).withDup true
    (∀ d, events.count (.opened d) ≤ 1) ∧ r.isConnected ⟨1⟩ = true ∧ packet.Delivered ∧
      Awaits .anyone .atLeastOnce events h ⟨2⟩ .exactlyOnce ∧
      (∀ requested, ¬ Awaits .anyone .atLeastOnce events h ⟨3⟩ requested) ∧
      (∃ forwarded, publishesTo ⟨2⟩ (r.step (.packet ⟨1⟩ packet)).2 = [forwarded] ∧
        Forwards h [0xFF] .atLeastOnce forwarded) ∧
      publishesTo ⟨3⟩ (r.step (.packet ⟨1⟩ packet)).2 = [] := by
  intro events r h packet
  have ho : ∀ d, events.count (.opened d) ≤ 1 := fun d =>
    List.nodup_iff_count_le_one.mp (by decide) _
  have hb : r.isConnected ⟨1⟩ = true := rfl
  have hp : packet.Delivered := by
    have hfield : RemainingLength.Field [0x06] 6 := ⟨by decide, .last (by decide)⟩
    have hform : packet.Form [0x06] [0x00, 0x01, 0x61, 0x00, 0x05, 0xFF] :=
      ⟨⟨rfl, trivial⟩, rfl, rfl, rfl, hfield, rfl⟩
    exact hform.delivered
  have hawaits : Awaits .anyone .atLeastOnce events h ⟨2⟩ .exactlyOnce := ⟨rfl, rfl, .inr rfl⟩
  have hnot : ∀ requested, ¬ Awaits .anyone .atLeastOnce events h ⟨3⟩ requested := by
    rintro requested ⟨-, hrequest, -⟩
    cases hrequest
  have hsent := publishesTo_of_lastRequest ho hb hp rfl
  exact ⟨ho, hb, hp, hawaits, hnot, (hsent ⟨2⟩).1 _ hawaits, (hsent ⟨3⟩).2 hnot⟩

end Delivery

end Router

end Mqtt
