import Mqtt.Proofs.Broker.Delivery
import Mqtt.Proofs.Packet.Building
import Mqtt.Proofs.Packet.FixedHeader
import Mqtt.Proofs.Stream.RoundTrip

/-!
# Wire forms of what the router sends

A packet without wire form would be dropped on its way out, and nobody would hear of it. This never
happens: as long as the packets that come in were delivered by decoders, those that go out could
have been delivered by decoders as well (`Router.delivered_of_run`). So nothing is lost, and what
goes out to a connection is read there as it was sent (`Router.receive_sentTo`).
-/

namespace Mqtt

/-! ### Packets written as they stand -/

namespace Packet

variable {p : Packet} {wire : Bytes}

/-- A packet whose header tells the truth is delivered if it can be written. -/
lemma delivered_of_encode (hp : p.Proper) (hl : p.header.remainingLength = p.body.length)
    (he : p.encode = .ok wire) : p.Delivered := by
  obtain ⟨field, body, -, hform⟩ := form_of_encode hp he
  have hheader : p.trueHeader = p.header := by rw [trueHeader, ← hl]
  rw [hheader] at hform
  exact hform.delivered

/-- A packet whose header goes with its body is delivered if the body can be written, and is not too
long. -/
lemma Consistent.delivered {bs : Bytes} (hp : p.Consistent) (hid : p.hasRightPacketId = true)
    (hc : p.body.HasProperCode) (hl : p.body.length ≤ RemainingLength.max)
    (hw : p.body.write = .of bs) : p.Delivered := by
  have hqos : FixedHeader.hasRequiredQoS p.header.kind p.header.qos = true :=
    FixedHeader.hasRequiredQoS_iff.mpr hp.qos
  exact delivered_of_encode ⟨hp.kind.symm, hc⟩ hp.remainingLength
    (encode_eq_ok_iff.mpr ⟨hid, hqos, hl, bs, hw, rfl⟩)

lemma Delivered.exists_encode (h : p.Delivered) : ∃ wire, p.encode = .ok wire := by
  obtain ⟨field, body, hform⟩ := h.exists_form
  exact ⟨_, hform.encode⟩

lemma Delivered.proper (h : p.Delivered) : p.Proper := by
  obtain ⟨field, body, hform⟩ := h.exists_form
  exact hform.proper

lemma Delivered.remainingLength_eq (h : p.Delivered) :
    p.header.remainingLength = p.body.length := by
  obtain ⟨field, body, hform⟩ := h.exists_form
  exact hform.remainingLength.trans hform.length_body

end Packet

/-! ### Replies -/

/-- The answer to some requests, header and body: each of them is granted at its place, at no more
than the highest QoS. -/
def Router.answer (maxQoS : QoS) (id : UInt16) (requested : List TopicSubscription) : Packet where
  header := ⟨.subAck, false, .atMostOnce, false, 2 + requested.length⟩
  body := .subAck id (requested.map fun s => .granted (min s.qos maxQoS))

lemma Router.subAck_eq_answer (maxQoS : QoS) (id : UInt16) (requested : List TopicSubscription) :
    Packet.subAck id (requested.map fun s => .granted (min s.qos maxQoS)) =
      answer maxQoS id requested := by
  rw [Packet.subAck, List.length_map, answer]
  rfl

lemma delivered_connAck {code : ConnectCode} (h : ∀ b, code ≠ .other b) :
    (Packet.connAck false code).Delivered := by
  have hcode : (Body.connAck ⟨false, code⟩).HasProperCode := fun b hb => absurd hb (h b)
  have hlength : 2 ≤ RemainingLength.max := by decide
  exact (Packet.Construction.connAck false code).consistent.delivered rfl hcode hlength rfl

lemma delivered_pingResp : Packet.pingResp.Delivered :=
  Packet.Construction.pingResp.consistent.delivered rfl trivial (by decide) rfl

lemma delivered_unsubAck (id : UInt16) : (Packet.unsubAck id).Delivered :=
  (Packet.Construction.unsubAck id).consistent.delivered rfl trivial
    (by decide : 2 ≤ RemainingLength.max) rfl

lemma TopicSubscription.length_le_listLength (ss : List TopicSubscription) :
    ss.length ≤ listLength ss := by
  induction ss with
  | nil => exact Nat.le_refl 0
  | cons s ss ih =>
    change ss.length + 1 ≤ s.length + listLength ss
    simp only [TopicSubscription.length]
    omega

/-- Each request takes more bytes than the answer to it, so that a SUBACK fits where the SUBSCRIBE
did; neither of them is empty. -/
lemma delivered_subAck {packet : Packet} {id : UInt16} {requested : List TopicSubscription}
    (hp : packet.Delivered) (hbody : packet.body = .subscribe id requested)
    (code : TopicSubscription → SubAckCode) :
    (Packet.subAck id (requested.map code)).Delivered := by
  obtain ⟨field, body, hform⟩ := hp.exists_form
  have hle := hform.field.le_max
  rw [hform.length_body, hbody] at hle
  have hwrite := hform.body
  rw [hbody, Body.write, Body.writeEntries_eq_of_iff] at hwrite
  have hlength : (Body.subAck id (requested.map code)).length ≤ RemainingLength.max := by
    have hcount := TopicSubscription.length_le_listLength requested
    simp only [Body.length, List.length_map] at hle ⊢
    omega
  obtain ⟨bs, hbs⟩ : ∃ bs, (Body.subAck id (requested.map code)).write = .of bs := by
    rw [Body.write]
    exact ⟨_, Body.writeEntries_eq_of_iff.mpr ⟨by simpa using hwrite.1, rfl⟩⟩
  exact (Packet.Construction.subAck id _).consistent.delivered rfl trivial hlength hbs

namespace Router

variable {r r' : Router} {event : Event} {events : List Event} {actions : List Action}
  {c : ConnectionId} {packet : Packet}

lemma delivered_acknowledgement {id : Option UInt16} {levels : List QoS}
    (h : acknowledgement id levels = some packet) : packet.Delivered := by
  have hlength : 2 ≤ RemainingLength.max := by decide
  obtain ⟨i, rfl | rfl⟩ := acknowledgement_cases h
  · exact (Packet.Construction.pubAck i).consistent.delivered rfl trivial hlength rfl
  · exact (Packet.Construction.pubRec i).consistent.delivered rfl trivial hlength rfl

lemma delivered_forward {h : PublishHeader} {message : Bytes} {s : Subscriber}
    (hp : packet.Delivered) (hbody : packet.body = .publish h message)
    (hs : isServed h.packetId s = true) : (forward packet.header.qos h message s).Delivered := by
  obtain ⟨wire, hwire⟩ := exists_encode_forward hp hbody hs
  exact Packet.delivered_of_encode ⟨rfl, trivial⟩ rfl hwire

end Router

/-! ### Turns and runs -/

/-- If a packet came in, a decoder delivered it. -/
def Event.IsDelivered : Event → Prop
  | .packet _ p           => p.Delivered
  | .opened _ | .closed _ => True

/-- The packet that is sent, if it is for `c`. -/
def Action.packetTo? (c : ConnectionId) : Action → Option Packet
  | .send d packet => if d = c then some packet else none
  | .close _       => none

/-- The bytes that go out. -/
def Transmission.wire : Transmission → Bytes
  | .bytes _ bs => bs
  | .close _    => []

namespace Router

variable {r r' : Router} {event : Event} {events : List Event} {actions : List Action}
  {c : ConnectionId} {packet : Packet}

/-- What is sent in answer to a delivered packet could have been delivered itself. -/
lemma Turn.delivered_of_send (turn : Turn r event r' actions) (he : event.IsDelivered)
    (ha : .send c packet ∈ actions) : packet.Delivered := by
  cases turn with
  | accepted =>
    cases List.mem_singleton.mp ha
    exact delivered_connAck (by simp)
  | refused =>
    rcases List.mem_cons.mp ha with ha | ha
    · cases ha
      exact delivered_connAck (by simp)
    · cases List.mem_singleton.mp ha
  | pinged =>
    cases List.mem_singleton.mp ha
    exact delivered_pingResp
  | subscribed hd hbody =>
    cases List.mem_singleton.mp ha
    exact delivered_subAck he hbody _
  | unsubscribed =>
    cases List.mem_singleton.mp ha
    exact delivered_unsubAck _
  | published hd hbody =>
    rcases mem_publish ha with ⟨_, levels, hack, hsend⟩ | ⟨s, -, hserved, hsend⟩
    · cases hsend
      exact delivered_acknowledgement hack
    · cases hsend
      exact delivered_forward he hbody hserved
  | premature | ended => cases List.mem_singleton.mp ha
  | opened | closed | dropped | ignored => cases ha

lemma delivered_of_run (hd : ∀ event ∈ events, event.IsDelivered)
    (ha : .send c packet ∈ (r.run events).2) : packet.Delivered := by
  induction events generalizing r with
  | nil => cases ha
  | cons event events ih =>
    simp only [List.forall_mem_cons] at hd
    rw [run_cons] at ha
    rcases List.mem_append.mp ha with ha | ha
    · exact (turn_step r event).delivered_of_send hd.1 ha
    · exact ih hd.2 ha

/-! ### Bytes -/

lemma exists_transmission? {action : Action}
    (h : ∀ d packet, .send d packet ∈ actions → packet.Delivered) (ha : action ∈ actions) :
    ∃ t, action.transmission? = some t := by
  cases action with
  | send d p =>
    obtain ⟨wire, hwire⟩ := (h d p ha).exists_encode
    exact ⟨.bytes d wire, by rw [Action.transmission?, hwire]⟩
  | close d => exact ⟨.close d, rfl⟩

lemma mem_filterMap_packetTo?_iff :
    packet ∈ actions.filterMap (·.packetTo? c) ↔ .send c packet ∈ actions := by
  rw [List.mem_filterMap]
  constructor
  · rintro ⟨action, ha, hp⟩
    cases action with
    | send d p =>
      obtain ⟨rfl, rfl⟩ : d = c ∧ p = packet := by simpa [Action.packetTo?] using hp
      exact ha
    | close d => cases hp
  · intro ha
    exact ⟨_, ha, if_pos rfl⟩

/-- The bytes that go out to `c` are the wire forms of the packets that are sent to it. -/
lemma exists_wires (h : ∀ d packet, .send d packet ∈ actions → packet.Delivered)
    (c : ConnectionId) : ∃ wires,
      List.Forall₂ (fun p wire => p.encode = .ok wire) (actions.filterMap (·.packetTo? c)) wires ∧
        (outputTo c actions).flatMap Transmission.wire = wires.flatten := by
  induction actions with
  | nil => exact ⟨[], .nil, rfl⟩
  | cons action actions ih =>
    obtain ⟨wires, hwires, hbytes⟩ := ih fun d p hp => h d p (List.mem_cons_of_mem _ hp)
    by_cases hc : action.connection = c
    · subst hc
      cases action with
      | send d p =>
        obtain ⟨wire, hwire⟩ := (h d p List.mem_cons_self).exists_encode
        refine ⟨wire :: wires, ?_, ?_⟩
        · simpa [Action.packetTo?, Action.connection] using And.intro hwire hwires
        · rw [Action.connection, outputTo_cons_send hwire, List.flatMap_cons, List.flatten_cons]
          exact congrArg _ hbytes
      | close d =>
        refine ⟨wires, by simpa [Action.packetTo?] using hwires, ?_⟩
        rw [Action.connection, outputTo_cons_close, List.flatMap_cons]
        exact hbytes
    · refine ⟨wires, ?_, by rw [outputTo_cons_of_ne hc, hbytes]⟩
      cases action with
      | send d p => simpa [Action.packetTo?, show d ≠ c from hc] using hwires
      | close d => simpa [Action.packetTo?] using hwires

/-- Whatever state the router is in, and whatever delivered packets come in, every packet that is
sent has a wire form, so that every action is carried out; and the bytes that go out to a connection
are read as the packets that were sent to it, without an error and to the last byte. -/
theorem receive_sentTo (r : Router) (hd : ∀ event ∈ events, event.IsDelivered) :
    let actions := (r.run events).2
    (∀ c packet, .send c packet ∈ actions → ∃ wire, packet.encode = .ok wire) ∧
      (∀ action ∈ actions, ∃ t, action.transmission? = some t) ∧
      ∀ c,
        let received := Decoder.new.receive ((r.sentTo c events).flatMap Transmission.wire)
        received.packets = actions.filterMap (·.packetTo? c) ∧
          received.error = none ∧ received.decoder = .new := by
  intro actions
  have hsent : ∀ c packet, .send c packet ∈ actions → packet.Delivered := fun c packet ha =>
    delivered_of_run hd ha
  refine ⟨fun c packet ha => (hsent c packet ha).exists_encode, ?_, ?_⟩
  · intro action ha
    exact exists_transmission? hsent ha
  · intro c received
    obtain ⟨wires, hwires, hbytes⟩ := exists_wires hsent c
    have hp : ∀ p ∈ actions.filterMap (·.packetTo? c), p.Delivered := fun p hp =>
      hsent c p (mem_filterMap_packetTo?_iff.mp hp)
    have htrue : ∀ p ∈ actions.filterMap (·.packetTo? c),
        ({ p with header.remainingLength := p.body.length } : Packet) = p := by
      intro p hm
      rw [← (hp p hm).remainingLength_eq]
    have hreceived : received = Decoder.new.receive wires.flatten := by
      rw [← hbytes]
      rfl
    obtain ⟨hpackets, herror, hdecoder⟩ :=
      Decoder.receive_encoded (fun p hm => (hp p hm).proper) hwires
    rw [hreceived, hpackets, List.map_congr_left htrue, List.map_id']
    exact ⟨rfl, herror, hdecoder⟩

/-- A client is sent its own message back, at a lower QoS than it asked for. -/
theorem receive_sentTo_self :
    let connect : Packet := (ConnectRequest.new "x" 0).packet
    let subscribe : Packet := .subscribe 7 [⟨"b", .atMostOnce⟩, ⟨"a", .exactlyOnce⟩]
    let publish : Packet := (Packet.publish "a" .exactlyOnce (some 5) [0xFF]).withRetain true
    let events : List Event := [.opened ⟨1⟩, .packet ⟨1⟩ connect, .packet ⟨1⟩ subscribe,
      .packet ⟨1⟩ publish, .packet ⟨1⟩ .disconnect]
    let r := new .anyone .atLeastOnce
    let received := Decoder.new.receive ((r.sentTo ⟨1⟩ events).flatMap Transmission.wire)
    (∀ event ∈ events, event.IsDelivered) ∧
      (∀ action ∈ (r.run events).2, ∃ t, action.transmission? = some t) ∧
      received.packets = [.connAck false .accepted,
        .subAck 7 [.granted .atMostOnce, .granted .atLeastOnce], .pubAck 5,
        .publish "a" .atLeastOnce (some 5) [0xFF]] ∧
      received.error = none ∧ received.decoder = .new := by
  intro connect subscribe publish events r received
  have hconnect : connect.encode = .ok [0x10, 0x0D, 0x00, 0x04, 0x4D, 0x51, 0x54, 0x54, 0x04, 0x02,
    0x00, 0x00, 0x00, 0x01, 0x78] := rfl
  have hsubscribe : subscribe.encode = .ok [0x82, 0x0A, 0x00, 0x07, 0x00, 0x01, 0x62, 0x00, 0x00,
    0x01, 0x61, 0x02] := rfl
  have hpublish : publish.encode = .ok [0x35, 0x06, 0x00, 0x01, 0x61, 0x00, 0x05, 0xFF] := rfl
  have hdisconnect : Packet.disconnect.encode = .ok [0xE0, 0x00] := rfl
  have hd : ∀ event ∈ events, event.IsDelivered := by
    simp only [events, List.forall_mem_cons]
    exact ⟨trivial, Packet.delivered_of_encode ⟨rfl, trivial⟩ rfl hconnect,
      Packet.delivered_of_encode ⟨rfl, trivial⟩ rfl hsubscribe,
      Packet.delivered_of_encode ⟨rfl, trivial⟩ rfl hpublish,
      Packet.delivered_of_encode ⟨rfl, trivial⟩ rfl hdisconnect, by simp⟩
  obtain ⟨-, hactions, hreceived⟩ := receive_sentTo r hd
  exact ⟨hd, hactions, (hreceived ⟨1⟩).1, (hreceived ⟨1⟩).2⟩

end Router

end Mqtt
