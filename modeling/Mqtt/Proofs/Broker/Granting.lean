import Mqtt.Proofs.Broker.WireForms

/-!
# Granting subscriptions

A SUBSCRIBE may name a filter any number of times. The answer grants every request by itself, at
its place; the table keeps one entry for each filter, with what was granted by the last request for
it, and nobody else notices (`Router.grants_of_subscribe`). The answer goes out if it has a wire
form, as it has whenever a decoder delivered the SUBSCRIBE. An answer to no requests has none, so
that nothing goes out (`Router.not_answers_subscribe_nil`).
-/

namespace Mqtt

/-! ### One list of subscribers -/

namespace Subscriber

/-- The list `ss` once `c` has been granted `qos`: at its place, or behind all others. -/
inductive Granted (c : ConnectionId) (qos : QoS) (ss : List Subscriber) :
    List Subscriber → Prop where
  | kept {front back : List Subscriber} {old : QoS} (h : ss = front ++ ⟨c, old⟩ :: back) :
      Granted c qos ss (front ++ ⟨c, qos⟩ :: back)
  | added (h : ∀ s ∈ ss, s.connection ≠ c) : Granted c qos ss (ss ++ [⟨c, qos⟩])

lemma granted_grant (c : ConnectionId) (qos : QoS) (ss : List Subscriber) :
    Granted c qos ss (grant c qos ss) := by
  cases h : grantedTo c ss with
  | none =>
    have hss := grantedTo_eq_none_iff.mp h
    rw [grant_eq_append hss]
    exact .added hss
  | some old =>
    obtain ⟨front, back, hss, hfront⟩ := exists_append_cons h
    rw [hss, grant_append_cons hfront]
    exact .kept rfl

end Subscriber

/-! ### The table -/

namespace Subscriptions

open Subscriber

/-- The table once `c` has been granted what it requests. -/
def grantAll (c : ConnectionId) (granted : TopicSubscription → QoS) (table : Subscriptions)
    (requested : List TopicSubscription) : Subscriptions :=
  requested.foldl (fun table s => table.subscribe s.filter c (granted s)) table

section GrantAll

variable {c : ConnectionId} {granted : TopicSubscription → QoS} {t : String} {qos : QoS}
  {s : TopicSubscription} {requested before later : List TopicSubscription}
  {table : Subscriptions}

lemma grantAll_cons : table.grantAll c granted (s :: requested) =
    (table.subscribe s.filter c (granted s)).grantAll c granted requested := rfl

lemma grantAll_append : table.grantAll c granted (before ++ later) =
    (table.grantAll c granted before).grantAll c granted later :=
  List.foldl_append

lemma WellFormed.grantAll (h : table.WellFormed) :
    (table.grantAll c granted requested).WellFormed := by
  induction requested generalizing table with
  | nil => exact h
  | cons s requested ih => exact ih h.subscribe

/-- Filters that are not named are left as they are. -/
lemma subscribers_grantAll_of_not_named (h : table.WellFormed)
    (ht : ∀ s ∈ requested, s.filter ≠ t) :
    (table.grantAll c granted requested).subscribers t = table.subscribers t := by
  induction requested generalizing table with
  | nil => rfl
  | cons s requested ih =>
    rw [List.forall_mem_cons] at ht
    rw [grantAll_cons, ih h.subscribe ht.2, subscribers_subscribe h, if_neg ht.1.symm]

/-- A later grant makes up for all earlier ones. -/
lemma grant_subscribers_grantAll (h : table.WellFormed) :
    grant c qos ((table.grantAll c granted requested).subscribers t) =
      grant c qos (table.subscribers t) := by
  induction requested generalizing table with
  | nil => rfl
  | cons s requested ih =>
    rw [grantAll_cons, ih h.subscribe, subscribers_subscribe h]
    split
    · exact grant_grant
    · rfl

/-- The last request for a filter is the one that counts. -/
lemma subscribers_grantAll_of_last (h : table.WellFormed)
    (hl : ∀ u ∈ later, u.filter ≠ s.filter) :
    (table.grantAll c granted (before ++ s :: later)).subscribers s.filter =
      grant c (granted s) (table.subscribers s.filter) := by
  rw [grantAll_append, grantAll_cons, subscribers_grantAll_of_not_named h.grantAll.subscribe hl,
    subscribers_subscribe h.grantAll, if_pos rfl, grant_subscribers_grantAll h]

/-- The other connections are left as they are, in their order. -/
lemma withdraw_subscribers_grantAll (h : table.WellFormed) :
    withdraw c ((table.grantAll c granted requested).subscribers t) =
      withdraw c (table.subscribers t) := by
  induction requested generalizing table with
  | nil => rfl
  | cons s requested ih =>
    rw [grantAll_cons, ih h.subscribe, subscribers_subscribe h]
    split
    · exact withdraw_grant
    · rfl

end GrantAll

end Subscriptions

/-! ### The answer -/

/-- A SUBACK has a wire form unless it has no codes, or too many. -/
lemma exists_encode_subAck_iff {id : UInt16} {codes : List SubAckCode} :
    (∃ wire, (Packet.subAck id codes).encode = .ok wire) ↔
      1 ≤ codes.length ∧ codes.length ≤ 268435453 := by
  have hlength : (Packet.subAck id codes).body.length ≤ RemainingLength.max ↔
      codes.length ≤ 268435453 := by
    -- The identifier takes two bytes, and each code one.
    change 2 + codes.length ≤ 268435455 ↔ _
    omega
  have hbody : (∃ body, (Packet.subAck id codes).body.write = .of body) ↔ codes ≠ [] := by
    change (∃ body, Body.writeEntries _ id codes SubAckCode.writeList = .of body) ↔ _
    simp only [Body.writeEntries_eq_of_iff]
    exact ⟨fun ⟨_, hne, _⟩ => hne, fun hne => ⟨_, hne, rfl⟩⟩
  rw [Nat.one_le_iff_ne_zero, ne_eq, List.length_eq_zero_iff, ← hlength, ← ne_eq, ← hbody]
  simp only [Packet.encode_eq_ok_iff]
  constructor
  · rintro ⟨wire, -, -, hle, body, hw, -⟩
    exact ⟨⟨body, hw⟩, hle⟩
  · rintro ⟨⟨body, hw⟩, hle⟩
    exact ⟨_, rfl, rfl, hle, body, hw, rfl⟩

namespace Router

/-- The answer to the requests of `c`, and nothing else, goes out. -/
def Answers (maxQoS : QoS) (c : ConnectionId) (id : UInt16) (requested : List TopicSubscription)
    (actions : List Action) : Prop :=
  ∃ wire, (answer maxQoS id requested).encode = .ok wire ∧
    actions.filterMap Action.transmission? = [.bytes c wire]

/-- What the SUBSCRIBE `packet` of `c` brings about. -/
structure Grants (maxQoS : QoS) (r : Router) (c : ConnectionId) (packet : Packet) (id : UInt16)
    (requested : List TopicSubscription) (outcome : Router × List Action) : Prop where
  /-- One packet is to be sent, under the identifier of the SUBSCRIBE. -/
  reply : outcome.2 = [.send c (answer maxQoS id requested)]
  answered : 1 ≤ requested.length → requested.length ≤ 268435453 →
    Answers maxQoS c id requested outcome.2
  delivered : packet.Delivered → Answers maxQoS c id requested outcome.2
  unanswered : requested = [] ∨ 268435453 < requested.length →
    outcome.2.filterMap Action.transmission? = []
  /-- The last request for a filter is granted, at the place that `c` has or behind all others. -/
  granted : ∀ before s later, requested = before ++ s :: later →
    (∀ u ∈ later, u.filter ≠ s.filter) →
      Subscriber.Granted c (min s.qos maxQoS) (r.subscriptions.subscribers s.filter)
        (outcome.1.subscriptions.subscribers s.filter)
  single : ∀ before s later, requested = before ++ s :: later →
    (∀ u ∈ later, u.filter ≠ s.filter) →
      (outcome.1.subscriptions.subscribers s.filter).filter (·.connection = c) =
        [⟨c, min s.qos maxQoS⟩]
  others : ∀ t, (outcome.1.subscriptions.subscribers t).filter (·.connection ≠ c) =
    (r.subscriptions.subscribers t).filter (·.connection ≠ c)
  unnamed : ∀ t, (∀ s ∈ requested, s.filter ≠ t) →
    outcome.1.subscriptions.subscribers t = r.subscriptions.subscribers t
  sessions : outcome.1.phases = r.phases

variable {r : Router} {c : ConnectionId} {packet : Packet} {id : UInt16}
  {requested : List TopicSubscription} {check : CredentialCheck} {maxQoS : QoS}

lemma step_subscribe (hc : r.isConnected c = true) (hbody : packet.body = .subscribe id requested) :
    r.step (.packet c packet) =
      ({ r with subscriptions := r.subscriptions.grantAll c r.grantedQoS requested },
        [.send c (answer r.maxQoS id requested)]) := by
  rw [step_of_isConnected hc, serve, hbody, ← subAck_eq_answer]
  rfl

lemma encode_answer_iff : (∃ wire, (answer maxQoS id requested).encode = .ok wire) ↔
    1 ≤ requested.length ∧ requested.length ≤ 268435453 := by
  rw [← subAck_eq_answer, exists_encode_subAck_iff, List.length_map]

lemma answers_of_encode (h : ∃ wire, (answer maxQoS id requested).encode = .ok wire) :
    Answers maxQoS c id requested [.send c (answer maxQoS id requested)] := by
  obtain ⟨wire, hwire⟩ := h
  refine ⟨wire, hwire, ?_⟩
  simp [Action.transmission?, hwire]

lemma delivered_answer (hd : packet.Delivered) (hbody : packet.body = .subscribe id requested) :
    (answer maxQoS id requested).Delivered := by
  rw [← subAck_eq_answer]
  exact delivered_subAck hd hbody _

lemma transmissions_eq_nil {packet : Packet} (h : ¬ ∃ wire, packet.encode = .ok wire) :
    [Action.send c packet].filterMap Action.transmission? = [] := by
  cases hp : packet.encode with
  | ok wire => exact absurd ⟨wire, hp⟩ h
  | error e => simp [Action.transmission?, hp]

/-- Whatever has happened before, a SUBSCRIBE is answered request by request, and granted filter by
filter. -/
theorem grants_of_subscribe (check : CredentialCheck) (maxQoS : QoS) (events : List Event)
    (hc : ((new check maxQoS).run events).1.isConnected c = true)
    (hbody : packet.body = .subscribe id requested) :
    Grants maxQoS ((new check maxQoS).run events).1 c packet id requested
      (((new check maxQoS).run events).1.step (.packet c packet)) := by
  generalize hr : ((new check maxQoS).run events).1 = r at hc ⊢
  have hw : r.subscriptions.WellFormed := hr ▸ wellFormed_run Subscriptions.wellFormed_empty events
  have hmax : r.maxQoS = maxQoS := hr ▸ maxQoS_run _ events
  have hlast : ∀ before s later, requested = before ++ s :: later →
      (∀ u ∈ later, u.filter ≠ s.filter) →
        (r.subscriptions.grantAll c r.grantedQoS requested).subscribers s.filter =
          Subscriber.grant c (min s.qos maxQoS) (r.subscriptions.subscribers s.filter) := by
    rintro before s later rfl hlater
    rw [Subscriptions.subscribers_grantAll_of_last hw hlater, grantedQoS, hmax]
  rw [step_subscribe hc hbody, hmax]
  exact {
    reply := rfl
    answered := fun hone hlen => answers_of_encode (encode_answer_iff.mpr ⟨hone, hlen⟩)
    delivered := fun hd => answers_of_encode (delivered_answer hd hbody).exists_encode
    unanswered := fun h => by
      refine transmissions_eq_nil fun hwire => ?_
      obtain ⟨hone, hlen⟩ := encode_answer_iff.mp hwire
      rcases h with rfl | hlong
      · exact absurd hone (by simp)
      · omega
    granted := fun before s later heq hlater => by
      rw [hlast before s later heq hlater]
      exact Subscriber.granted_grant c _ _
    single := fun before s later heq hlater => by
      rw [hlast before s later heq hlater,
        Subscriber.filter_connection_eq (Subscriber.distinct_grant (hw.distinct_subscribers _)),
        Subscriber.grantedTo_grant_self]
      rfl
    others := fun _ => Subscriptions.withdraw_subscribers_grantAll hw
    unnamed := fun t ht => Subscriptions.subscribers_grantAll_of_not_named hw ht
    sessions := rfl }

/-- A subscriber asks twice for the filter that it has, and in between for one that nobody has. -/
theorem grants_of_subscribe_repeated :
    let requested : List TopicSubscription :=
      [⟨"a", .exactlyOnce⟩, ⟨"b", .exactlyOnce⟩, ⟨"a", .atMostOnce⟩]
    let events : List Event :=
      [.opened ⟨1⟩, .packet ⟨1⟩ (ConnectRequest.new "x" 0).packet,
        .packet ⟨1⟩ (.subscribe 1 [⟨"a", .atLeastOnce⟩]),
        .opened ⟨2⟩, .packet ⟨2⟩ (ConnectRequest.new "y" 0).packet,
        .packet ⟨2⟩ (.subscribe 2 [⟨"a", .atLeastOnce⟩])]
    let r := ((new .anyone .atLeastOnce).run events).1
    let packet : Packet := .subscribe 3 requested
    let outcome := r.step (.packet ⟨1⟩ packet)
    r.isConnected ⟨1⟩ = true ∧
      outcome.2.filterMap Action.transmission? =
        [.bytes ⟨1⟩ [0x90, 0x05, 0x00, 0x03, 0x01, 0x01, 0x00]] ∧
      outcome.1.subscriptions.filters =
        [("a", [⟨⟨1⟩, .atMostOnce⟩, ⟨⟨2⟩, .atLeastOnce⟩]), ("b", [⟨⟨1⟩, .atLeastOnce⟩])] ∧
      Grants .atLeastOnce r ⟨1⟩ packet 3 requested outcome :=
  ⟨rfl, rfl, rfl, grants_of_subscribe .anyone .atLeastOnce _ rfl rfl⟩

/-- The encoder takes no SUBACK without codes, so that a SUBSCRIBE without requests stays without
answer. -/
theorem not_answers_subscribe_nil :
    let r := ((new .anyone .exactlyOnce).run
      [.opened ⟨1⟩, .packet ⟨1⟩ (ConnectRequest.new "x" 0).packet]).1
    let actions := (r.step (.packet ⟨1⟩ (.subscribe 1 []))).2
    r.isConnected ⟨1⟩ = true ∧ actions.filterMap Action.transmission? = [] ∧
      ¬ Answers .exactlyOnce ⟨1⟩ 1 [] actions := by
  intro r actions
  have hnone : actions.filterMap Action.transmission? = [] := by decide
  refine ⟨rfl, hnone, ?_⟩
  rintro ⟨wire, -, hwire⟩
  rw [hnone] at hwire
  cases hwire

end Router

end Mqtt
