import Mathlib.Order.Bounds.Defs
import Mqtt.Proofs.Broker.WireForms

/-!
# Fan-out of messages

A message goes to the subscribers of its topic, one packet to each of them in the order of the
table, but for those that ask for an identifier it does not have. What its sender is told first is
what the weakest of these deliveries is worth (`Router.fansOut_of_publish`), in a packet that holds
nothing but the identifier of the message (`Packet.IsReceipt`).
-/

namespace Mqtt

/-! ### Receipts -/

/-- The packet is nothing but `id` under a header without flags, and starts with the byte `first` on
the wire. -/
structure Packet.IsReceipt (packet : Packet) (kind : PacketKind) (first : UInt8)
    (form : UInt16 → Body) (id : UInt16) : Prop where
  header : packet.header = ⟨kind, false, .atMostOnce, false, 2⟩
  body : packet.body = form id
  wire : packet.encode =
    .ok [first, 0x02, UInt8.ofNat (id.toNat / 256), UInt8.ofNat (id.toNat % 256)]

lemma isReceipt_pubAck (id : UInt16) : (Packet.pubAck id).IsReceipt .pubAck 0x40 .pubAck id :=
  ⟨rfl, rfl, rfl⟩

lemma isReceipt_pubRec (id : UInt16) : (Packet.pubRec id).IsReceipt .pubRec 0x50 .pubRec id :=
  ⟨rfl, rfl, rfl⟩

/-! ### The weakest guarantee -/

namespace QoS

lemma level_injective {p q : QoS} (h : p.level = q.level) : p = q := by
  have hp := ofLevel?_level p
  rw [h, ofLevel?_level, Option.some.injEq] at hp
  exact hp.symm

lemma le_antisymm {p q : QoS} (h : p ≤ q) (h' : q ≤ p) : p = q :=
  level_injective (Nat.le_antisymm h h')

lemma min_eq_or (p q : QoS) : min p q = p ∨ min p q = q := by
  cases p <;> cases q <;> decide

lemma min_le (p q : QoS) : min p q ≤ p ∧ min p q ≤ q := by
  cases p <;> cases q <;> decide

lemma le_trans {p q r : QoS} (h : p ≤ q) (h' : q ≤ r) : p ≤ r :=
  Nat.le_trans h h'

lemma isLeast_unique {levels : Set QoS} {p q : QoS} (hp : IsLeast levels p)
    (hq : IsLeast levels q) : p = q :=
  le_antisymm (hp.2 hq.1) (hq.2 hp.1)

end QoS

namespace Router

lemma weakest_eq_none_iff {levels : List QoS} : weakest levels = none ↔ levels = [] := by
  cases levels with
  | nil => simp [weakest]
  | cons q qs =>
    rw [weakest]
    split <;> simp

lemma isLeast_of_weakest {levels : List QoS} {q : QoS} (h : weakest levels = some q) :
    IsLeast {p | p ∈ levels} q := by
  induction levels generalizing q with
  | nil => cases h
  | cons p ps ih =>
    rw [weakest] at h
    split at h <;> rename_i hps
    · cases h
      obtain rfl := weakest_eq_none_iff.mp hps
      refine ⟨List.mem_singleton_self p, fun p' hp' => ?_⟩
      obtain rfl := List.mem_singleton.mp hp'
      exact Nat.le_refl _
    · rename_i q'
      cases h
      have hq' := ih hps
      constructor
      · rcases QoS.min_eq_or p q' with hmin | hmin <;> rw [hmin]
        · exact List.mem_cons_self
        · exact List.mem_cons_of_mem p hq'.1
      · intro p' hp'
        rcases List.mem_cons.mp hp' with rfl | hp'
        · exact (QoS.min_le p' q').1
        · exact QoS.le_trans (QoS.min_le p q').2 (hq'.2 hp')

lemma weakest_eq_some_iff {levels : List QoS} {q : QoS} :
    weakest levels = some q ↔ IsLeast {p | p ∈ levels} q := by
  refine ⟨isLeast_of_weakest, fun h => ?_⟩
  cases hw : weakest levels with
  | none =>
    obtain rfl := weakest_eq_none_iff.mp hw
    cases h.1
  | some p => rw [QoS.isLeast_unique (isLeast_of_weakest hw) h]

/-! ### Who is served, and at which QoS -/

/-- A subscriber is skipped if it was granted more than QoS 0 and the message has no packet
identifier. -/
def Skips (h : PublishHeader) (s : Subscriber) : Prop :=
  s.granted ≠ .atMostOnce ∧ h.packetId = none

instance (h : PublishHeader) (s : Subscriber) : Decidable (Skips h s) :=
  inferInstanceAs (Decidable (_ ∧ _))

/-- The subscribers of the topic of a message that are not skipped, in the order of the table. -/
def audience (r : Router) (h : PublishHeader) : List Subscriber :=
  (r.subscriptions.subscribers h.topic).filter (¬ Skips h ·)

/-- The levels at which a message of QoS `qos` goes out. -/
def effectiveQoS (r : Router) (qos : QoS) (h : PublishHeader) : Set QoS :=
  {q | ∃ s ∈ r.audience h, min qos s.granted = q}

/-- What becomes of a message that `b` publishes in `packet`, under the header `h`: an
acknowledgement, if there is one, and then its copies. -/
structure FansOut (r : Router) (b : ConnectionId) (packet : Packet) (h : PublishHeader)
    (message : Bytes) (ack : Option Packet) (copies : List Packet) : Prop where
  unchanged : (r.step (.packet b packet)).1 = r
  actions : (r.step (.packet b packet)).2 = (ack.map (Action.send b)).toList ++
    List.zipWith (fun s copy => .send s.connection copy) (r.audience h) copies
  /-- Nothing is lost on its way out. -/
  carriedOut : ∀ action ∈ (r.step (.packet b packet)).2, ∃ t, action.transmission? = some t
  forwards : List.Forall₂ (fun s => Forwards h message (min packet.header.qos s.granted))
    (r.audience h) copies
  pubAck : IsLeast (r.effectiveQoS packet.header.qos h) .atLeastOnce →
    ∃ id receipt, h.packetId = some id ∧ ack = some receipt ∧
      receipt.IsReceipt .pubAck 0x40 .pubAck id
  pubRec : IsLeast (r.effectiveQoS packet.header.qos h) .exactlyOnce →
    ∃ id receipt, h.packetId = some id ∧ ack = some receipt ∧
      receipt.IsReceipt .pubRec 0x50 .pubRec id
  unanswered : r.effectiveQoS packet.header.qos h = ∅ ∨
    .atMostOnce ∈ r.effectiveQoS packet.header.qos h → ack = none
  answered : ack ≠ none → h.packetId.isSome = true ∧ copies ≠ [] ∧
    ∀ copy ∈ copies, copy.header.qos ≠ .atMostOnce

section FanOut

variable {r : Router} {b : ConnectionId} {packet : Packet} {h : PublishHeader} {message : Bytes}
  {qos : QoS}

lemma isServed_iff_not_skips {s : Subscriber} : isServed h.packetId s = true ↔ ¬ Skips h s := by
  rw [isServed_iff, Skips, not_and_or, not_ne_iff, ← ne_eq, ← Option.isSome_iff_ne_none]

lemma filter_isServed :
    (r.subscriptions.subscribers h.topic).filter (isServed h.packetId) = r.audience h := by
  refine List.filter_congr fun s _ => ?_
  rw [Bool.eq_iff_iff, decide_eq_true_iff, isServed_iff_not_skips]

lemma setOf_mem_map_forwardQoS :
    {q | q ∈ (r.audience h).map (forwardQoS qos)} = r.effectiveQoS qos h := by
  ext q
  exact List.mem_map

lemma weakest_audience_iff {q : QoS} :
    weakest ((r.audience h).map (forwardQoS qos)) = some q ↔
      IsLeast (r.effectiveQoS qos h) q := by
  rw [weakest_eq_some_iff, setOf_mem_map_forwardQoS]

/-- The acknowledgement of a message, due for the weakest of its deliveries. -/
def ackOf (r : Router) (qos : QoS) (h : PublishHeader) : Option Packet :=
  acknowledgement h.packetId ((r.audience h).map (forwardQoS qos))

lemma publish_eq : r.publish b qos h message = (r, ((r.ackOf qos h).map (Action.send b)).toList ++
    (r.audience h).map fun s => .send s.connection (forward qos h message s)) := by
  simp only [publish, filter_isServed, ackOf]

lemma ackOf_of_isLeast {q : QoS} (hq : IsLeast (r.effectiveQoS qos h) q) :
    r.ackOf qos h = h.packetId.bind fun id =>
      match q with
      | .atMostOnce  => none
      | .atLeastOnce => some (.pubAck id)
      | .exactlyOnce => some (.pubRec id) := by
  simp only [ackOf, acknowledgement, weakest_audience_iff.mpr hq]
  cases h.packetId <;> cases q <;> rfl

lemma exists_isLeast_of_ackOf (ha : r.ackOf qos h ≠ none) :
    h.packetId.isSome = true ∧ ∃ q, q ≠ .atMostOnce ∧ IsLeast (r.effectiveQoS qos h) q := by
  unfold ackOf acknowledgement at ha
  split at ha <;> rename_i hw hid
  · exact ⟨by rw [hid]; rfl, _, by decide, weakest_audience_iff.mp hw⟩
  · exact ⟨by rw [hid]; rfl, _, by decide, weakest_audience_iff.mp hw⟩
  · exact absurd rfl ha

lemma ackOf_eq_none (hn : r.effectiveQoS qos h = ∅ ∨ .atMostOnce ∈ r.effectiveQoS qos h) :
    r.ackOf qos h = none := by
  by_contra ha
  obtain ⟨-, q, hne, hq⟩ := exists_isLeast_of_ackOf ha
  rcases hn with hempty | hmem
  · rw [hempty] at hq
    exact hq.1
  · exact hne (QoS.le_antisymm (hq.2 hmem) (Nat.zero_le _))

/-- A message that came from a decoder has an identifier exactly when its QoS is above 0. -/
lemma isSome_packetId_iff (hp : packet.Delivered) (hbody : packet.body = .publish h message) :
    h.packetId.isSome = true ↔ packet.header.qos ≠ .atMostOnce := by
  obtain ⟨field, body, hform⟩ := hp.exists_form
  have hid := hform.rightPacketId
  simp only [Packet.hasRightPacketId, hbody, beq_iff_eq] at hid
  rw [hid, QoS.isAcknowledged_iff]

/-- Nothing goes out above QoS 0 unless the message came in above it, with an identifier. -/
lemma exists_packetId_of_mem {q : QoS} (hp : packet.Delivered)
    (hbody : packet.body = .publish h message) (hne : q ≠ .atMostOnce)
    (hq : q ∈ r.effectiveQoS packet.header.qos h) : ∃ id, h.packetId = some id := by
  obtain ⟨s, -, rfl⟩ := hq
  refine Option.isSome_iff_exists.mp ((isSome_packetId_iff hp hbody).mpr fun hzero => hne ?_)
  rw [hzero]
  exact QoS.le_antisymm (QoS.min_le _ _).1 (Nat.zero_le _)

lemma forall₂_forwards_audience (hp : packet.Delivered) (hbody : packet.body = .publish h message) :
    List.Forall₂ (fun s => Forwards h message (min packet.header.qos s.granted)) (r.audience h)
      ((r.audience h).map (forward packet.header.qos h message)) := by
  rw [List.forall₂_map_right_iff, List.forall₂_same]
  intro s hs
  have hserved := isServed_iff_not_skips.mpr (of_decide_eq_true (List.mem_filter.mp hs).2)
  exact forwards_forward (c := s.connection) hp hbody (isServed_iff.mp hserved)

/-- If the weakest delivery is above QoS 0, all of them are, and there is one. -/
lemma qos_forward_of_isLeast {q : QoS} (hne : q ≠ .atMostOnce)
    (hq : IsLeast (r.effectiveQoS qos h) q) :
    (r.audience h).map (forward qos h message) ≠ [] ∧
      ∀ forwarded ∈ (r.audience h).map (forward qos h message),
        forwarded.header.qos ≠ .atMostOnce := by
  obtain ⟨⟨s, hs, -⟩, hle⟩ := hq
  refine ⟨List.ne_nil_of_mem (List.mem_map_of_mem hs), ?_⟩
  simp only [List.forall_mem_map]
  intro s' hs' hzero
  have hmem : .atMostOnce ∈ r.effectiveQoS qos h := ⟨s', hs', hzero⟩
  exact hne (QoS.le_antisymm (hle hmem) (Nat.zero_le _))

/-- Whatever state the router is in, a message is acknowledged at most once, for the weakest of its
deliveries, and then forwarded once to each subscriber that is not skipped. -/
theorem fansOut_of_publish (hb : r.isConnected b = true) (hp : packet.Delivered)
    (hbody : packet.body = .publish h message) :
    ∃ ack copies, FansOut r b packet h message ack copies := by
  have hstep := (step_publish hb hbody).trans publish_eq
  have hsent : ∀ d q, .send d q ∈ (r.step (.packet b packet)).2 → q.Delivered := fun d q hq =>
    (turn_step r (.packet b packet)).delivered_of_send hp hq
  refine ⟨r.ackOf packet.header.qos h, (r.audience h).map (forward packet.header.qos h message), ?_⟩
  refine { unchanged := by rw [hstep], actions := ?_, carriedOut := ?_,
           forwards := forall₂_forwards_audience hp hbody, pubAck := ?_, pubRec := ?_,
           unanswered := ackOf_eq_none, answered := ?_ }
  · rw [hstep, List.zipWith_map_right, List.zipWith_self]
  · exact fun action ha => exists_transmission? hsent ha
  · intro hleast
    obtain ⟨id, hid⟩ := exists_packetId_of_mem hp hbody (by decide) hleast.1
    exact ⟨id, _, hid, by rw [ackOf_of_isLeast hleast, hid, Option.bind_some], isReceipt_pubAck id⟩
  · intro hleast
    obtain ⟨id, hid⟩ := exists_packetId_of_mem hp hbody (by decide) hleast.1
    exact ⟨id, _, hid, by rw [ackOf_of_isLeast hleast, hid, Option.bind_some], isReceipt_pubRec id⟩
  · intro hack
    obtain ⟨hid, q, hne, hq⟩ := exists_isLeast_of_ackOf hack
    exact ⟨hid, qos_forward_of_isLeast hne hq⟩

/-- The sender is subscribed to both topics, and another client, more weakly, to the first one. -/
theorem fansOut_of_publish_two :
    let events : List Event :=
      [.opened ⟨1⟩, .opened ⟨2⟩, .packet ⟨1⟩ (ConnectRequest.new "x" 0).packet,
        .packet ⟨2⟩ (ConnectRequest.new "y" 0).packet,
        .packet ⟨1⟩ (.subscribe 1 [⟨"a", .exactlyOnce⟩, ⟨"b", .exactlyOnce⟩]),
        .packet ⟨2⟩ (.subscribe 1 [⟨"a", .atLeastOnce⟩])]
    let r := ((new .anyone .exactlyOnce).run events).1
    let packet : Packet := .publish "a" .exactlyOnce (some 5) [0xFF]
    let packet' : Packet := .publish "b" .exactlyOnce (some 0x0107) []
    r.isConnected ⟨1⟩ = true ∧ packet.Delivered ∧ packet'.Delivered ∧
      r.audience ⟨"a", some 5⟩ = [⟨⟨1⟩, .exactlyOnce⟩, ⟨⟨2⟩, .atLeastOnce⟩] ∧
      r.audience ⟨"b", some 0x0107⟩ = [⟨⟨1⟩, .exactlyOnce⟩] ∧
      (∃ ack copies, FansOut r ⟨1⟩ packet ⟨"a", some 5⟩ [0xFF] (some ack) copies ∧
        ack.body = .pubAck 5 ∧ ack.encode = .ok [0x40, 0x02, 0x00, 0x05]) ∧
      ∃ ack copies, FansOut r ⟨1⟩ packet' ⟨"b", some 0x0107⟩ [] (some ack) copies ∧
        ack.body = .pubRec 0x0107 ∧ ack.encode = .ok [0x50, 0x02, 0x01, 0x07] := by
  intro events r packet packet'
  have hb : r.isConnected ⟨1⟩ = true := rfl
  have hwire : packet.encode = .ok [0x34, 0x06, 0x00, 0x01, 0x61, 0x00, 0x05, 0xFF] := rfl
  have hwire' : packet'.encode = .ok [0x34, 0x05, 0x00, 0x01, 0x62, 0x01, 0x07] := rfl
  have hp : packet.Delivered := Packet.delivered_of_encode ⟨rfl, trivial⟩ rfl hwire
  have hp' : packet'.Delivered := Packet.delivered_of_encode ⟨rfl, trivial⟩ rfl hwire'
  have haudience : r.audience ⟨"a", some 5⟩ = [⟨⟨1⟩, .exactlyOnce⟩, ⟨⟨2⟩, .atLeastOnce⟩] := by
    decide +kernel
  have haudience' : r.audience ⟨"b", some 0x0107⟩ = [⟨⟨1⟩, .exactlyOnce⟩] := by
    decide +kernel
  have hleast : IsLeast (r.effectiveQoS .exactlyOnce ⟨"a", some 5⟩) .atLeastOnce := by
    rw [← weakest_audience_iff, haudience]
    rfl
  have hleast' : IsLeast (r.effectiveQoS .exactlyOnce ⟨"b", some 0x0107⟩) .exactlyOnce := by
    rw [← weakest_audience_iff, haudience']
    rfl
  refine ⟨hb, hp, hp', haudience, haudience', ?_, ?_⟩
  · obtain ⟨ack, copies, hfans⟩ := fansOut_of_publish hb hp rfl
    obtain ⟨id, receipt, hid, rfl, hreceipt⟩ := hfans.pubAck hleast
    cases hid
    exact ⟨receipt, copies, hfans, hreceipt.body, hreceipt.wire⟩
  · obtain ⟨ack, copies, hfans⟩ := fansOut_of_publish hb hp' rfl
    obtain ⟨id, receipt, hid, rfl, hreceipt⟩ := hfans.pubRec hleast'
    cases hid
    exact ⟨receipt, copies, hfans, hreceipt.body, hreceipt.wire⟩

end FanOut

end Router

end Mqtt
