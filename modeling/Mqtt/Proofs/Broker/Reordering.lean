import Mqtt.Proofs.Broker.Agreement
import Mqtt.Proofs.Broker.FanOut

/-!
# The order of subscribers

In which order the subscribers of a topic stand in the table decides in which order the copies of a
message go out, but each client is sent only one of them. So two routers that differ in nothing but
this order (`Router.SameUpToOrder`) do the same to each single connection, however long they run,
and still differ in nothing else then (`Router.run_of_sameUpToOrder`).
-/

namespace Mqtt

/-! ### Lists of subscribers -/

namespace Subscriber

variable {c : ConnectionId} {qos : QoS} {ss ss' : List Subscriber}

lemma Distinct.perm (h : Distinct ss) (hp : ss.Perm ss') : Distinct ss' :=
  (hp.map _).nodup_iff.mp h

lemma perm_grant (h : Distinct ss) (hp : ss.Perm ss') :
    (grant c qos ss).Perm (grant c qos ss') := by
  have hsame := (perm_iff_grantedTo h (h.perm hp)).mp hp
  refine (perm_iff_grantedTo (distinct_grant h) (distinct_grant (h.perm hp))).mpr fun d => ?_
  by_cases hd : d = c
  · rw [hd, grantedTo_grant_self, grantedTo_grant_self]
  · rw [grantedTo_grant_of_ne hd, grantedTo_grant_of_ne hd, hsame d]

/-- Of one connection there is nothing to reorder. -/
lemma filter_connection_of_perm (h : Distinct ss) (hp : ss.Perm ss') :
    ss.filter (·.connection = c) = ss'.filter (·.connection = c) := by
  rw [filter_connection_eq h, filter_connection_eq (h.perm hp),
    (perm_iff_grantedTo h (h.perm hp)).mp hp c]

end Subscriber

/-! ### Tables -/

namespace Subscriptions

open Subscriber

/-- Both tables are well-formed, and have the same entries under every filter, up to their order. -/
structure SameEntries (table other : Subscriptions) : Prop where
  wellFormed : table.WellFormed
  wellFormed_other : other.WellFormed
  perm : ∀ t, (table.subscribers t).Perm (other.subscribers t)

namespace SameEntries

variable {table other : Subscriptions} {topic : String} {c : ConnectionId} {qos : QoS}

lemma subscribe (h : SameEntries table other) :
    SameEntries (table.subscribe topic c qos) (other.subscribe topic c qos) where
  wellFormed := h.wellFormed.subscribe
  wellFormed_other := h.wellFormed_other.subscribe
  perm t := by
    rw [subscribers_subscribe h.wellFormed, subscribers_subscribe h.wellFormed_other]
    split
    · exact perm_grant (h.wellFormed.distinct_subscribers _) (h.perm _)
    · exact h.perm t

lemma unsubscribe (h : SameEntries table other) :
    SameEntries (table.unsubscribe topic c) (other.unsubscribe topic c) where
  wellFormed := h.wellFormed.unsubscribe
  wellFormed_other := h.wellFormed_other.unsubscribe
  perm t := by
    rw [subscribers_unsubscribe h.wellFormed, subscribers_unsubscribe h.wellFormed_other]
    split
    · exact (h.perm _).filter _
    · exact h.perm t

lemma removeConnection (h : SameEntries table other) :
    SameEntries (table.removeConnection c) (other.removeConnection c) where
  wellFormed := h.wellFormed.removeConnection
  wellFormed_other := h.wellFormed_other.removeConnection
  perm t := by
    rw [subscribers_removeConnection h.wellFormed, subscribers_removeConnection h.wellFormed_other]
    exact (h.perm t).filter _

end SameEntries

end Subscriptions

/-! ### Routers -/

namespace Router

lemma weakest_of_perm {levels levels' : List QoS} (h : levels.Perm levels') :
    weakest levels = weakest levels' := by
  refine Option.ext fun q => ?_
  simp only [weakest_eq_some_iff, h.mem_iff]

section

variable {r s : Router} {c : ConnectionId} {request : String × Option QoS}

lemma sameEntries_heed (h : r.subscriptions.SameEntries s.subscriptions)
    (hmax : r.maxQoS = s.maxQoS) :
    (r.heed c request).subscriptions.SameEntries (s.heed c request).subscriptions := by
  obtain ⟨t, qos⟩ := request
  cases qos with
  | none => exact h.unsubscribe
  | some qos =>
    change (r.subscriptions.subscribe t c (min qos r.maxQoS)).SameEntries
      (s.subscriptions.subscribe t c (min qos s.maxQoS))
    rw [hmax]
    exact h.subscribe

lemma sameEntries_heedAll (h : r.subscriptions.SameEntries s.subscriptions)
    (hmax : r.maxQoS = s.maxQoS) (requests : List (String × Option QoS)) :
    (r.heedAll c requests).subscriptions.SameEntries (s.heedAll c requests).subscriptions := by
  induction requests generalizing r s with
  | nil => exact h
  | cons request requests ih =>
    refine ih (sameEntries_heed h hmax) ?_
    rw [maxQoS_heed, maxQoS_heed, hmax]

lemma agreeOn_heedAll (known : ConnectionId → Prop) (requests : List (String × Option QoS)) :
    AgreeOn known (r.heedAll c requests) r := by
  induction requests generalizing r with
  | nil => exact AgreeOn.refl known r
  | cons request requests ih =>
    refine ih.trans ⟨?_, maxQoS_heed, fun _ _ => phase_heed⟩
    rw [heed]
    split <;> rfl

end

/-- The two routers have the same rules and sessions, and the same subscriptions up to their
order. -/
structure SameUpToOrder (r s : Router) : Prop extends AgreeOn (fun _ => True) r s where
  entries : r.subscriptions.SameEntries s.subscriptions

/-- The two outcomes have the same subscriptions up to their order, and the same actions for each
connection. -/
structure SameForEach (outcome other : Router × List Action) : Prop where
  entries : outcome.1.subscriptions.SameEntries other.1.subscriptions
  actions : ∀ c, outcome.2.filter (·.connection = c) = other.2.filter (·.connection = c)

/-- The copies for `c` are those for its entries. -/
lemma filter_copies {copy : Subscriber → Packet} {c : ConnectionId} {ss : List Subscriber} :
    (ss.map fun s => Action.send s.connection (copy s)).filter (·.connection = c) =
      (ss.filter (·.connection = c)).map fun s => .send s.connection (copy s) :=
  List.filter_map

namespace SameUpToOrder

variable {r s : Router} {c : ConnectionId} {packet : Packet} {event : Event}
  {events : List Event} {actions : List Action}

lemma idle (h : SameUpToOrder r s) : SameForEach (r, actions) (s, actions) :=
  ⟨h.entries, fun _ => rfl⟩

lemma shut (h : SameUpToOrder r s) : SameForEach (r.shut c) (s.shut c) :=
  ⟨h.entries.removeConnection, fun _ => rfl⟩

lemma connect (h : SameUpToOrder r s) {payload : ConnectPayload} :
    SameForEach (r.connect c payload) (s.connect c payload) := by
  rw [Router.connect, Router.connect, h.phase c trivial, h.check_eq]
  split
  · split
    · exact ⟨h.entries, fun _ => rfl⟩
    · exact ⟨h.shut.entries, fun _ => rfl⟩
  · exact h.idle

lemma subscribe (h : SameUpToOrder r s) {id : UInt16} {requested : List TopicSubscription} :
    SameForEach (r.subscribe c id requested) (s.subscribe c id requested) where
  entries := by
    rw [subscribe_eq_heedAll, subscribe_eq_heedAll]
    exact sameEntries_heedAll h.entries h.maxQoS _
  actions d := by rw [Router.subscribe, Router.subscribe, h.grantedQoS_eq]

lemma unsubscribe (h : SameUpToOrder r s) {id : UInt16} {filters : List String} :
    SameForEach (r.unsubscribe c id filters) (s.unsubscribe c id filters) where
  entries := by
    rw [unsubscribe_eq_heedAll, unsubscribe_eq_heedAll]
    exact sameEntries_heedAll h.entries h.maxQoS _
  actions _ := rfl

/-- The acknowledgement is due for the weakest delivery, wherever it stands in the order; and of the
copies, which go out in this order, each connection is sent its own only. -/
lemma publish (h : SameUpToOrder r s) {qos : QoS} {header : PublishHeader} {message : Bytes} :
    SameForEach (r.publish c qos header message) (s.publish c qos header message) := by
  have hperm : (r.audience header).Perm (s.audience header) := (h.entries.perm _).filter _
  have hdistinct : Subscriber.Distinct (r.audience header) :=
    (List.filter_sublist.map _).nodup (h.entries.wellFormed.distinct_subscribers _)
  have hack : r.ackOf qos header = s.ackOf qos header := by
    simp only [ackOf, acknowledgement, weakest_of_perm (hperm.map (forwardQoS qos))]
  refine ⟨by simpa only [publish_eq] using h.entries, fun d => ?_⟩
  rw [publish_eq, publish_eq, List.filter_append, List.filter_append, hack, filter_copies,
    filter_copies, Subscriber.filter_connection_of_perm hdistinct hperm]

lemma serve (h : SameUpToOrder r s) : SameForEach (r.serve c packet) (s.serve c packet) := by
  rw [Router.serve, Router.serve]
  cases packet.body with
  | publish header message => exact h.publish
  | subscribe id requested => exact h.subscribe
  | unsubscribe id filters => exact h.unsubscribe
  | pingReq | pubAck id | pubRec id | pubRel id | pubComp id => exact h.idle
  | connect header payload | disconnect | connAck header | subAck id codes | unsubAck id
  | pingResp => exact h.shut

lemma dispatch (h : SameUpToOrder r s) :
    SameForEach (r.dispatch c packet) (s.dispatch c packet) := by
  rw [Router.dispatch, Router.dispatch, h.phase c trivial]
  split
  · exact h.idle
  · exact h.idle
  · exact h.serve
  · split
    · exact h.connect
    · exact h.shut

lemma step (h : SameUpToOrder r s) : SameForEach (r.step event) (s.step event) := by
  cases event with
  | opened c => exact ⟨h.entries, fun _ => rfl⟩
  | packet c packet => exact h.dispatch
  | closed c => exact ⟨h.entries.removeConnection, fun _ => rfl⟩

lemma routers_step (h : SameUpToOrder r s) : SameUpToOrder (r.step event).1 (s.step event).1 where
  toAgreeOn := (h.toAgreeOn.step trivial).agree
  entries := h.step.entries

lemma routers_run (h : SameUpToOrder r s) :
    SameUpToOrder (r.run events).1 (s.run events).1 := by
  induction events generalizing r s with
  | nil => exact h
  | cons event events ih => exact ih h.routers_step

lemma actions_run (h : SameUpToOrder r s) :
    (r.run events).2.filter (·.connection = c) = (s.run events).2.filter (·.connection = c) := by
  induction events generalizing r s with
  | nil => rfl
  | cons event events ih =>
    rw [run_cons, run_cons, List.filter_append, List.filter_append, h.step.actions,
      ih h.routers_step]

end SameUpToOrder

/-! ### Requests of two connections -/

section Commute

variable {r : Router} {c d e : ConnectionId} {t : String}

lemma granted_heedAll_comm (hw : r.subscriptions.WellFormed) (hne : c ≠ d)
    (requests more : List (String × Option QoS)) :
    ((r.heedAll c requests).heedAll d more).granted t e =
      ((r.heedAll d more).heedAll c requests).granted t e := by
  have hwc := wellFormed_heedAll (c := c) hw requests
  have hwd := wellFormed_heedAll (c := d) hw more
  by_cases hc : e = c
  · subst hc
    rw [granted_heedAll_of_ne hwc hne, granted_heedAll_self hw, granted_heedAll_self hwd,
      granted_heedAll_of_ne hw hne, answered_congr (agreeOn_heedAll (fun _ => True) more).maxQoS]
  · rw [granted_heedAll_of_ne hwd hc]
    by_cases hd : e = d
    · subst hd
      rw [granted_heedAll_self hwc, granted_heedAll_self hw, granted_heedAll_of_ne hw hc,
        answered_congr (agreeOn_heedAll (fun _ => True) requests).maxQoS]
    · rw [granted_heedAll_of_ne hwc hd, granted_heedAll_of_ne hw hc, granted_heedAll_of_ne hw hd]

/-- The requests of two connections may be dealt with in either order. -/
lemma sameUpToOrder_heedAll_comm (hw : r.subscriptions.WellFormed) (hne : c ≠ d)
    (requests more : List (String × Option QoS)) :
    SameUpToOrder ((r.heedAll c requests).heedAll d more)
      ((r.heedAll d more).heedAll c requests) := by
  have hwcd := wellFormed_heedAll (c := d) (wellFormed_heedAll (c := c) hw requests) more
  have hwdc := wellFormed_heedAll (c := c) (wellFormed_heedAll (c := d) hw more) requests
  have hcd : AgreeOn (fun _ => True) ((r.heedAll c requests).heedAll d more) r :=
    (agreeOn_heedAll _ more).trans (agreeOn_heedAll _ requests)
  have hdc : AgreeOn (fun _ => True) ((r.heedAll d more).heedAll c requests) r :=
    (agreeOn_heedAll _ requests).trans (agreeOn_heedAll _ more)
  refine ⟨hcd.trans hdc.symm, hwcd, hwdc, fun t => ?_⟩
  rw [Subscriber.perm_iff_grantedTo (hwcd.distinct_subscribers t) (hwdc.distinct_subscribers t)]
  exact fun e => granted_heedAll_comm hw hne requests more

end Commute

/-! ### Runs -/

/-- In whatever order the subscribers of each topic stand at first, whatever happens then brings
about the same actions for each connection, and the same goes out to it. -/
theorem run_of_sameUpToOrder {r s : Router} (h : SameUpToOrder r s) (events : List Event) :
    (∀ c, (r.run events).2.filter (·.connection = c) =
        (s.run events).2.filter (·.connection = c)) ∧
      (∀ c, r.sentTo c events = s.sentTo c events) ∧
      SameUpToOrder (r.run events).1 (s.run events).1 := by
  refine ⟨fun c => h.actions_run, fun c => ?_, h.routers_run⟩
  rw [sentTo, sentTo, outputTo_eq, outputTo_eq, h.actions_run]

/-- Two clients subscribe in either order, and one of them publishes: the copies go out in the order
of the subscriptions, but each client sees the same. -/
theorem run_of_sameUpToOrder_two :
    let connected := ((new .anyone .exactlyOnce).run
      [.opened ⟨1⟩, .packet ⟨1⟩ (ConnectRequest.new "x" 0).packet,
        .opened ⟨2⟩, .packet ⟨2⟩ (ConnectRequest.new "y" 0).packet]).1
    let first : Event := .packet ⟨1⟩ (.subscribe 1 [⟨"a", .exactlyOnce⟩])
    let second : Event := .packet ⟨2⟩ (.subscribe 2 [⟨"b", .atMostOnce⟩, ⟨"a", .atLeastOnce⟩])
    let r := (connected.run [first, second]).1
    let s := (connected.run [second, first]).1
    let publish : Packet := .publish "a" .exactlyOnce (some 5) [0xFF]
    let copy : Packet := .publish "a" .atLeastOnce (some 5) [0xFF]
    let events : List Event := [.packet ⟨1⟩ publish, .closed ⟨2⟩, .packet ⟨1⟩ publish]
    SameUpToOrder r s ∧
      (r.run events).2 = [.send ⟨1⟩ (.pubAck 5), .send ⟨1⟩ publish, .send ⟨2⟩ copy,
        .send ⟨1⟩ (.pubRec 5), .send ⟨1⟩ publish] ∧
      (s.run events).2 = [.send ⟨1⟩ (.pubAck 5), .send ⟨2⟩ copy, .send ⟨1⟩ publish,
        .send ⟨1⟩ (.pubRec 5), .send ⟨1⟩ publish] ∧
      (∀ c, r.sentTo c events = s.sentTo c events) ∧
      SameUpToOrder (r.run events).1 (s.run events).1 := by
  intro connected first second r s publish copy events
  have hw : connected.subscriptions.WellFormed :=
    wellFormed_run Subscriptions.wellFormed_empty _
  have hne : (⟨1⟩ : ConnectionId) ≠ ⟨2⟩ := by decide
  have h : SameUpToOrder r s := sameUpToOrder_heedAll_comm hw hne
    [("a", some .exactlyOnce)] [("b", some .atMostOnce), ("a", some .atLeastOnce)]
  obtain ⟨-, hsent, hrouters⟩ := run_of_sameUpToOrder h events
  exact ⟨h, by decide, by decide, hsent, hrouters⟩

end Router

end Mqtt
