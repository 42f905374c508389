import Mqtt.Proofs.Broker.Agreement
import Mqtt.Proofs.Broker.Delivery

/-!
# Clients that are not let in

A client that never has a session has no influence on the other ones, whatever it sends. A run of
the router is compared with the one that lacks the events of this client: the states differ in
nothing but how far the client itself has come, and what goes out to the others is the same
(`Router.run_of_neverConnected`).
-/

namespace Mqtt

namespace Router

variable {r r' s : Router} {event : Event} {events : List Event} {actions : List Action}
  {u : ConnectionId}

/-! ### The client without a session -/

/-- `u` has no session at any time while the events are handled. -/
def NeverConnected (u : ConnectionId) (r : Router) (events : List Event) : Prop :=
  ∀ before, before <+: events → (r.run before).1.isConnected u = false

lemma NeverConnected.head (h : r.NeverConnected u events) : r.isConnected u = false :=
  h [] List.nil_prefix

lemma NeverConnected.tail (h : r.NeverConnected u (event :: events)) :
    (r.step event).1.NeverConnected u events := fun before hb =>
  h (event :: before) (List.prefix_cons_inj event |>.mpr hb)

/-- An event of a client without session and subscriptions leaves all subscriptions as they are. -/
lemma Turn.subscriptions_eq (turn : Turn r event r' actions) (hw : r.subscriptions.WellFormed)
    (hg : ∀ t, r.granted t event.connection = none)
    (hc : ¬ r.isConnected event.connection = true) : r'.subscriptions = r.subscriptions := by
  cases turn with
  | closed | refused | premature | ended => exact Subscriptions.removeConnection_eq_self hw hg
  | subscribed hd | unsubscribed hd => exact absurd hd hc
  | opened | dropped | accepted | ignored | pinged | published => rfl

/-- An event of a client without session brings about nothing for the other ones. -/
lemma Turn.connection_of_mem (turn : Turn r event r' actions)
    (hc : ¬ r.isConnected event.connection = true) {action : Action} (ha : action ∈ actions) :
    action.connection = event.connection := by
  cases turn with
  | accepted | premature =>
    rw [List.mem_singleton.mp ha]
    rfl
  | refused =>
    rcases List.mem_cons.mp ha with rfl | ha
    · rfl
    · rw [List.mem_singleton.mp ha]
      rfl
  | opened | closed | dropped => cases ha
  | ended hd | ignored hd | pinged hd | published hd | subscribed hd | unsubscribed hd =>
    exact absurd hd hc

/-- An event of another client brings about nothing for one without subscriptions. -/
lemma Turn.connection_ne_of_mem (turn : Turn r event r' actions) (hw : r.subscriptions.WellFormed)
    (hg : ∀ t, r.granted t u = none) (hu : event.connection ≠ u) {action : Action}
    (ha : action ∈ actions) : action.connection ≠ u := by
  rintro rfl
  obtain ⟨qos, header, message, s, hs, rfl⟩ := turn.forward_of_ne ha hu
  have hnone := hg header.topic
  rw [Action.connection, (mem_subscribers_iff hw).mp hs] at hnone
  cases hnone

/-! ### Two runs -/

/-- Without the events of `u`, the others are sent the same, and the states agree on them still. -/
lemma AgreeOn.run_filter (h : AgreeOn (· ≠ u) r s) (hsub : r.subscriptions = s.subscriptions)
    (hw : r.subscriptions.WellFormed) (hg : ∀ t, r.granted t u = none)
    (hu : r.NeverConnected u events) :
    let rest := s.run (events.filter (·.connection ≠ u))
    (r.run events).2.filter (·.connection ≠ u) = rest.2 ∧
      AgreeOn (· ≠ u) (r.run events).1 rest.1 ∧
      (r.run events).1.subscriptions = rest.1.subscriptions := by
  induction events generalizing r s with
  | nil => exact ⟨rfl, h, hsub⟩
  | cons event events ih =>
    intro rest
    have turn := turn_step r event
    have hc : ¬ r.isConnected u = true := by
      rw [hu.head]
      simp
    have hg' : ∀ t, (r.step event).1.granted t u = none := fun t => by
      rw [turn.granted_of_not_isConnected hw (settled_of_granted_eq_none hg) hc, hg t]
    by_cases he : event.connection = u
    · -- Here the second router stays where it is.
      subst he
      have hnone : (r.step event).2.filter (·.connection ≠ event.connection) = [] := by
        simpa using fun action ha => turn.connection_of_mem hc ha
      have hagree : AgreeOn (· ≠ event.connection) (r.step event).1 s :=
        (turn.agreeOn (by simp)).trans h
      have hsub' := (turn.subscriptions_eq hw hg hc).trans hsub
      have hskip : rest = s.run (events.filter (·.connection ≠ event.connection)) :=
        congrArg s.run (List.filter_cons_of_neg (by simp))
      rw [hskip, run_cons, List.filter_append, hnone, List.nil_append]
      exact ih hagree hsub' (turn.wellFormed hw) hg' hu.tail
    · have hall : (r.step event).2.filter (·.connection ≠ u) = (r.step event).2 := by
        simpa using fun action ha => turn.connection_ne_of_mem hw hg he ha
      have hsame := h.step he
      obtain ⟨hactions, hfinal⟩ :=
        ih hsame.agree (hsame.subscriptions hsub) (turn.wellFormed hw) hg' hu.tail
      have hkeep : rest = s.run (event :: events.filter (·.connection ≠ u)) :=
        congrArg s.run (List.filter_cons_of_pos (by simpa using he))
      rw [hkeep, run_cons, run_cons, List.filter_append, hall, hactions, hsame.actions hsub]
      exact ⟨rfl, hfinal⟩

/-- Where `u` never has a session, whatever it sends, the run is the same without it: what is done
to the other connections and what goes out to them, in this order, how far each of them comes, and
all the subscriptions. -/
theorem run_of_neverConnected (check : CredentialCheck) (maxQoS : QoS)
    (hu : (new check maxQoS).NeverConnected u events) :
    let full := (new check maxQoS).run events
    let rest := (new check maxQoS).run (events.filter (·.connection ≠ u))
    full.2.filter (·.connection ≠ u) = rest.2 ∧
      (full.2.filterMap Action.transmission?).filter (·.connection ≠ u) =
        rest.2.filterMap Action.transmission? ∧
      (∀ c, c ≠ u → full.1.phase c = rest.1.phase c) ∧
      full.1.subscriptions = rest.1.subscriptions := by
  intro full rest
  obtain ⟨hactions, hagree, hsubscriptions⟩ := (AgreeOn.refl (· ≠ u) (new check maxQoS)).run_filter
    rfl Subscriptions.wellFormed_empty (fun _ => rfl) hu
  refine ⟨hactions, ?_, hagree.phase, hsubscriptions⟩
  rw [filter_filterMap_transmission? (· ≠ u), hactions]

/-- A client is refused, subscribes and publishes nevertheless, and comes back to do so before its
CONNECT; the other one is served as if it were alone. -/
theorem run_of_neverConnected_refused :
    let connect : Packet := ((ConnectRequest.new "x" 0).withCredentials "u" (some [1])).packet
    let subscribe : Packet := .subscribe 7 [⟨"a", .exactlyOnce⟩]
    let publish : Packet := .publish "a" .atLeastOnce (some 5) [0xFF]
    let events : List Event := [.opened ⟨1⟩, .opened ⟨2⟩, .packet ⟨1⟩ connect,
      .packet ⟨2⟩ (ConnectRequest.new "y" 0).packet, .packet ⟨2⟩ subscribe, .packet ⟨1⟩ subscribe,
      .packet ⟨2⟩ publish, .closed ⟨2⟩, .opened ⟨2⟩, .packet ⟨2⟩ publish, .packet ⟨1⟩ publish]
    let r := new (.only "u" [1]) .exactlyOnce
    let full := r.run events
    let rest := r.run (events.filter (·.connection ≠ ⟨2⟩))
    r.NeverConnected ⟨2⟩ events ∧
      full.2 = [.send ⟨1⟩ (.connAck false .accepted),
        .send ⟨2⟩ (.connAck false .badUserNameOrPassword), .close ⟨2⟩,
        .send ⟨1⟩ (.subAck 7 [.granted .exactlyOnce]), .close ⟨2⟩, .send ⟨1⟩ (.pubAck 5),
        .send ⟨1⟩ publish] ∧
      full.2.filter (·.connection ≠ ⟨2⟩) = rest.2 ∧
      (∀ c, c ≠ ⟨2⟩ → full.1.phase c = rest.1.phase c) ∧
      full.1.subscriptions = rest.1.subscriptions := by
  intro connect subscribe publish events r full rest
  have hu : r.NeverConnected ⟨2⟩ events := by
    intro before hb
    have hall : ∀ before ∈ events.inits, (r.run before).1.isConnected ⟨2⟩ = false := by decide
    exact hall before ((List.mem_inits _ _).mpr hb)
  obtain ⟨hactions, -, hphase, hsubscriptions⟩ :=
    run_of_neverConnected (.only "u" [1]) .exactlyOnce hu
  exact ⟨hu, by decide, hactions, hphase, hsubscriptions⟩

end Router

end Mqtt
