import Mqtt.Proofs.Broker.Turns

/-!
# Sessions and subscriptions

The router keeps the phases of connections and their subscriptions apart. `Router.Settled` says of
one connection that the two agree, and every turn keeps it; `Router.consistent_of_reachable` says so
of all connections at once, in whatever state the router may come to.
-/

namespace Mqtt

namespace Router

variable {r r' : Router} {event : Event} {actions : List Action} {c : ConnectionId}

/-! ### One connection -/

/-- `c` is subscribed only while it has a session, and at no more than the highest QoS. -/
def Settled (c : ConnectionId) (r : Router) : Prop :=
  ∀ t qos, r.granted t c = some qos → r.isConnected c = true ∧ qos ≤ r.maxQoS

lemma Settled.granted_eq_none (hs : r.Settled c) (hc : r.isConnected c = false) (t : String) :
    r.granted t c = none := by
  rw [Option.eq_none_iff_forall_ne_some]
  intro qos hq
  rw [(hs t qos hq).1] at hc
  cases hc

lemma settled_of_granted_eq_none (h : ∀ t, r.granted t c = none) : r.Settled c := by
  intro t qos hq
  rw [h t] at hq
  cases hq

lemma settled_shut (hw : r.subscriptions.WellFormed) : (r.shut c).1.Settled c :=
  settled_of_granted_eq_none fun _ => (granted_shut hw).trans (if_pos rfl)

/-- Requests are granted at no more than the highest QoS. -/
lemma Settled.heed {request : String × Option QoS} (hs : r.Settled c)
    (hw : r.subscriptions.WellFormed) (hc : r.isConnected c = true) :
    (r.heed c request).Settled c := by
  intro t qos hq
  rw [isConnected_congr phase_heed, maxQoS_heed]
  refine ⟨hc, ?_⟩
  rw [granted_heed hw] at hq
  split at hq
  · obtain ⟨requested, -, rfl⟩ := Option.map_eq_some_iff.mp hq
    exact QoS.min_le_right requested r.maxQoS
  · exact (hs t qos hq).2

lemma Settled.heedAll (hs : r.Settled c) (hw : r.subscriptions.WellFormed)
    (hc : r.isConnected c = true) (requests : List (String × Option QoS)) :
    (r.heedAll c requests).Settled c := by
  induction requests generalizing r with
  | nil => exact hs
  | cons request requests ih =>
    exact ih (hs.heed hw hc) (wellFormed_heed hw) ((isConnected_congr phase_heed).trans hc)

lemma isConnected_eq_false_of_phase {p : Phase} (h : r.phase c = some p)
    (hp : ∀ id, p ≠ .connected id) : r.isConnected c = false := by
  rw [Bool.eq_false_iff, Ne, isConnected_iff]
  rintro ⟨id, hid⟩
  rw [h] at hid
  cases hid
  exact hp id rfl

lemma isConnected_eq_false_of_phase_eq_none (h : r.phase c = none) : r.isConnected c = false := by
  rw [isConnected, h]

/-- A connection that is opened only while it is unknown stays settled. -/
theorem Turn.settled (turn : Turn r event r' actions) (hw : r.subscriptions.WellFormed)
    (hs : r.Settled c) (ho : event = .opened c → r.phase c = none) : r'.Settled c := by
  by_cases hc : event.connection = c
  · subst hc
    cases turn with
    | opened d =>
      have hnone := hs.granted_eq_none (isConnected_eq_false_of_phase_eq_none (ho rfl))
      exact settled_of_granted_eq_none hnone
    | closed d =>
      exact settled_of_granted_eq_none fun t => (granted_noteClosed hw).trans (if_pos rfl)
    | accepted hd hp hcheck =>
      have hnone := hs.granted_eq_none (isConnected_eq_false_of_phase hd (by simp))
      exact settled_of_granted_eq_none hnone
    | refused | premature | ended => exact settled_shut hw
    | subscribed hd hp =>
      rw [subscribe_eq_heedAll]
      exact hs.heedAll hw hd _
    | unsubscribed hd hp =>
      rw [unsubscribe_eq_heedAll]
      exact hs.heedAll hw hd _
    | dropped | ignored | pinged | published => exact hs
  · intro t qos hq
    rw [turn.granted_of_ne hw hc] at hq
    rw [isConnected_congr (turn.phase_of_ne hc), turn.maxQoS_eq]
    exact hs t qos hq

/-! ### Runs -/

lemma run_cons (r : Router) (event : Event) (events : List Event) : r.run (event :: events) =
    (((r.step event).1.run events).1, (r.step event).2 ++ ((r.step event).1.run events).2) := rfl

lemma run_append (r : Router) (before after : List Event) : r.run (before ++ after) =
    (((r.run before).1.run after).1, (r.run before).2 ++ ((r.run before).1.run after).2) := by
  induction before generalizing r with
  | nil => rfl
  | cons event before ih =>
    rw [List.cons_append, run_cons, ih, run_cons, List.append_assoc]

lemma maxQoS_run (r : Router) (events : List Event) : (r.run events).1.maxQoS = r.maxQoS := by
  induction events generalizing r with
  | nil => rfl
  | cons event events ih => exact (ih _).trans (turn_step r event).maxQoS_eq

lemma wellFormed_run (hw : r.subscriptions.WellFormed) (events : List Event) :
    (r.run events).1.subscriptions.WellFormed := by
  induction events generalizing r with
  | nil => exact hw
  | cons event events ih => exact ih ((turn_step r event).wellFormed hw)

/-- The events open `c` at most once, and not at all if it is known already. -/
def OpensOnce (c : ConnectionId) (r : Router) (events : List Event) : Prop :=
  events.count (.opened c) ≤ if r.phase c = none then 1 else 0

lemma opensOnce_new {check : CredentialCheck} {maxQoS : QoS} {events : List Event}
    (h : events.count (.opened c) ≤ 1) : (new check maxQoS).OpensOnce c events := h

/-- A connection becomes known by being opened, and in no other way. -/
lemma Turn.phase_eq_none (turn : Turn r event r' actions) (h : r.phase c = none)
    (ho : event ≠ .opened c) : r'.phase c = none := by
  by_cases hc : event.connection = c
  · subst hc
    cases turn with
    | opened d => exact absurd rfl ho
    | closed d => exact phase_noteClosed.trans (if_pos rfl)
    | accepted hd hp hcheck => exact absurd (h.symm.trans hd) (by simp)
    | refused hd hp hcheck => exact absurd (h.symm.trans hd) (by simp)
    | premature hd hp => exact absurd (h.symm.trans hd) (by simp)
    | ended hd hp =>
      obtain ⟨id, hid⟩ := isConnected_iff.mp hd
      exact absurd (h.symm.trans hid) (by simp)
    | dropped | ignored | pinged | published | subscribed | unsubscribed => exact h
  · rw [turn.phase_of_ne hc, h]

lemma OpensOnce.phase_eq_none {events : List Event} (h : r.OpensOnce c (event :: events))
    (ho : event = .opened c) : r.phase c = none := by
  rw [OpensOnce, ho, List.count_cons_self] at h
  split at h
  · assumption
  · omega

lemma OpensOnce.not_mem_of_phase {events : List Event} (h : r.OpensOnce c events)
    (hp : r.phase c ≠ none) : .opened c ∉ events := by
  rw [OpensOnce, if_neg hp] at h
  exact List.count_eq_zero.mp (Nat.le_zero.mp h)

lemma OpensOnce.tail {events : List Event} (h : r.OpensOnce c (event :: events))
    (turn : Turn r event r' actions) : r'.OpensOnce c events := by
  have hle : events.count (.opened c) ≤ (event :: events).count (.opened c) :=
    List.count_le_count_cons
  rw [OpensOnce] at h ⊢
  by_cases ho : event = .opened c
  · rw [ho, List.count_cons_self] at h
    split at h <;> omega
  · split at h <;> rename_i hphase
    · rw [if_pos (turn.phase_eq_none hphase ho)]
      omega
    · omega

lemma OpensOnce.concat {events : List Event} (h : r.OpensOnce c events)
    (ho : event = .opened c → r.phase c = none ∧ .opened c ∉ events) :
    r.OpensOnce c (events ++ [event]) := by
  rw [OpensOnce, List.count_append]
  by_cases he : event = .opened c
  · obtain ⟨hphase, hnot⟩ := ho he
    rw [if_pos hphase, List.count_eq_zero.mpr hnot, he, List.count_singleton_self]
  · have hnot : .opened c ∉ [event] := by simpa using Ne.symm he
    rw [List.count_eq_zero.mpr hnot, Nat.add_zero]
    exact h

/-! ### All connections -/

/-- The states that a new router may come to, if a connection is opened only while it is unknown. -/
inductive Reachable (check : CredentialCheck) (maxQoS : QoS) : Router → Prop where
  | new : Reachable check maxQoS (new check maxQoS)
  | step {r : Router} {event : Event} (h : Reachable check maxQoS r)
      (ho : ∀ c, event = .opened c → r.phase c = none) : Reachable check maxQoS (r.step event).1

/-- The sessions and the subscriptions of a router agree. -/
structure Consistent (maxQoS : QoS) (r : Router) : Prop where
  /-- A filter is kept once, and only with subscribers, none of which it has twice. -/
  wellFormed : r.subscriptions.WellFormed
  connected : ∀ entry ∈ r.subscriptions.filters, ∀ s ∈ entry.2,
    ∃ id, r.phase s.connection = some (.connected id)
  granted : ∀ entry ∈ r.subscriptions.filters, ∀ s ∈ entry.2, s.granted ≤ maxQoS
  /-- The table counts the topics that have a subscriber with a session. -/
  size : r.subscriptions.size =
    {t | ∃ s ∈ r.subscriptions.subscribers t, r.isConnected s.connection = true}.ncard
  /-- Whoever has no session has no subscription. -/
  countOf : ∀ c, r.isConnected c = false → r.subscriptions.countOf c = 0

lemma wellFormed_of_reachable {check : CredentialCheck} {maxQoS : QoS}
    (h : Reachable check maxQoS r) : r.subscriptions.WellFormed := by
  induction h with
  | new => exact Subscriptions.wellFormed_empty
  | step h ho ih => exact (turn_step _ _).wellFormed ih

lemma settled_of_reachable {check : CredentialCheck} {maxQoS : QoS}
    (h : Reachable check maxQoS r) (c : ConnectionId) : r.Settled c := by
  induction h with
  | new => exact settled_of_granted_eq_none fun t => rfl
  | step h ho ih => exact (turn_step _ _).settled (wellFormed_of_reachable h) ih (ho c)

lemma maxQoS_of_reachable {check : CredentialCheck} {maxQoS : QoS}
    (h : Reachable check maxQoS r) : r.maxQoS = maxQoS := by
  induction h with
  | new => rfl
  | step h ho ih => exact (turn_step _ _).maxQoS_eq.trans ih

/-- A run in which every connection is opened at most once. -/
lemma Reachable.run {check : CredentialCheck} {maxQoS : QoS} {events : List Event}
    (h : Reachable check maxQoS r) (ho : ∀ c, r.OpensOnce c events) :
    Reachable check maxQoS (r.run events).1 := by
  induction events generalizing r with
  | nil => exact h
  | cons event events ih =>
    exact ih (h.step fun c => (ho c).phase_eq_none) fun c => (ho c).tail (turn_step r event)

/-- If all subscribers are live, the topics with a live one are counted. -/
lemma size_eq_ncard {table : Subscriptions} (hw : table.WellFormed) {live : Subscriber → Prop}
    (hl : ∀ entry ∈ table.filters, ∀ s ∈ entry.2, live s) :
    table.size = {t | ∃ s ∈ table.subscribers t, live s}.ncard := by
  rw [Subscriptions.size_eq_ncard hw]
  congr 1
  ext t
  constructor
  · intro hne
    obtain ⟨s, hs⟩ := List.exists_mem_of_ne_nil _ hne
    exact ⟨s, hs, hl _ (hw.mem_filters_iff.mpr ⟨rfl, hne⟩) s hs⟩
  · rintro ⟨s, hs, -⟩
    exact List.ne_nil_of_mem hs

lemma countOf_eq_zero {table : Subscriptions}
    (h : ∀ entry ∈ table.filters, ∀ s ∈ entry.2, s.connection ≠ c) : table.countOf c = 0 := by
  obtain ⟨filters⟩ := table
  rw [Subscriptions.countOf]
  induction filters with
  | nil => rfl
  | cons entry rest ih =>
    have hentry : (entry.2.countP fun s => s.connection = c) = 0 :=
      List.countP_eq_zero.mpr fun s hs => by simpa using h entry List.mem_cons_self s hs
    have hrest := ih fun e he => h e (List.mem_cons_of_mem _ he)
    rw [List.foldr_cons, hrest]
    exact hentry

/-- Whatever packets come and however connections are opened and closed, the table holds live
subscriptions and nothing else. -/
theorem consistent_of_reachable {check : CredentialCheck} {maxQoS : QoS}
    (h : Reachable check maxQoS r) : Consistent maxQoS r := by
  have hw := wellFormed_of_reachable h
  have hs : ∀ entry ∈ r.subscriptions.filters, ∀ s ∈ entry.2,
      r.isConnected s.connection = true ∧ s.granted ≤ r.maxQoS := by
    rintro ⟨t, ss⟩ hentry s hmem
    obtain ⟨rfl, -⟩ := hw.mem_filters_iff.mp hentry
    exact settled_of_reachable h s.connection t s.granted ((mem_subscribers_iff hw).mp hmem)
  refine ⟨hw, ?_, ?_, ?_, ?_⟩
  · intro entry hentry s hmem
    exact isConnected_iff.mp (hs entry hentry s hmem).1
  · intro entry hentry s hmem
    rw [← maxQoS_of_reachable h]
    exact (hs entry hentry s hmem).2
  · exact size_eq_ncard hw fun entry hentry s hmem => (hs entry hentry s hmem).1
  · intro c hc
    apply countOf_eq_zero
    rintro entry hentry s hmem rfl
    rw [(hs entry hentry s hmem).1] at hc
    cases hc

/-- One connection subscribes and one is closed for it, before its CONNECT; QoS 2 is not granted. -/
theorem consistent_of_reachable_subscribed :
    let requested : Packet := .subscribe 7 [⟨"a", .exactlyOnce⟩, ⟨"b", .atMostOnce⟩]
    let r := ((new .anyone .atLeastOnce).run
      [.opened ⟨1⟩, .opened ⟨2⟩, .packet ⟨2⟩ requested,
        .packet ⟨1⟩ (ConnectRequest.new "client" 0).packet, .packet ⟨1⟩ requested]).1
    Reachable .anyone .atLeastOnce r ∧
      r.subscriptions.filters
        = [("a", [⟨⟨1⟩, .atLeastOnce⟩]), ("b", [⟨⟨1⟩, .atMostOnce⟩])] ∧
      Consistent .atLeastOnce r := by
  intro requested r
  have hr : Reachable .anyone .atLeastOnce r :=
    Reachable.new.run fun c => opensOnce_new (List.nodup_iff_count_le_one.mp (by decide) _)
  exact ⟨hr, rfl, consistent_of_reachable hr⟩

end Router

end Mqtt
