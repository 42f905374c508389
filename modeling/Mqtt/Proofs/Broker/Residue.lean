import Mqtt.Proofs.Broker.Endings

/-!
# What is left of a connection

The broker keeps something about a connection in three places, which change at different times: the
outbox is there before the router hears of the connection and may lose its sending end early, a
subscription ends with the session, and the session may end long before its connection does. When
all events are handled, the three know only connections that were opened and have not ended, and
what they have forgotten they never learn again (`Actor.cleansUp_of_opens`).
-/

namespace Mqtt

namespace Actor

variable {s : Actor} {a : Step} {steps : List Step} {c : ConnectionId}

/-! ### Ends that were reported -/

/-- The end of `c` has been handled, or will be. -/
def Leaving (c : ConnectionId) (s : Actor) : Prop :=
  .closed c ∈ s.broker.events ∨ s.Gone c

lemma Leaving.step (h : s.Leaving c) (ht : s.Timely c (a :: steps)) : (s.step a).Leaving c := by
  rcases h with hreport | hgone
  · cases moves ht.proceeds.regular.running a with
    | queue hq hrouter hevents =>
      rw [Leaving, hevents]
      exact .inl (List.mem_append_left _ hreport)
    | leave hrouter hevents | perform hp hrouter hevents =>
      rw [Leaving, hevents]
      exact .inl hreport
    | decide hp he =>
      rw [he] at hreport
      rcases List.mem_cons.mp hreport with rfl | hreport
      · exact .inr (gone_step_decide ht hp he)
      · exact .inl hreport
  · exact .inr (hgone.step ht.proceeds)

lemma Leaving.run (h : s.Leaving c) (ht : s.Timely c steps) : (s.run steps).Leaving c := by
  induction steps generalizing s with
  | nil => exact h
  | cons a steps ih => exact ih (h.step ht) ht.tail

/-- An end that is reported is handled sooner or later. -/
lemma leaving_run_of_mem (ht : s.Timely c steps) (hc : .close c ∈ steps) :
    (s.run steps).Leaving c := by
  induction steps generalizing s with
  | nil => cases hc
  | cons a steps ih =>
    rcases List.mem_cons.mp hc with rfl | hc
    · have hleaving : (s.step (.close c)).Leaving c := by
        rw [step, Broker.accept_eq ht.proceeds.regular.running]
        exact .inl (by simp)
      exact hleaving.run ht.tail
    · exact ih ht.tail hc

/-- The outbox of a connection is about to lose its sending end because its end is handled. -/
lemma gone_step (h : .hangUp c ∈ s.pending → s.Gone c) (ht : s.Timely c (a :: steps))
    (hm : .hangUp c ∈ (s.step a).pending) : (s.step a).Gone c := by
  cases moves ht.proceeds.regular.running a with
  | queue hq hrouter hevents hpending | leave hrouter hevents hpending =>
    rw [hpending] at hm
    exact (h hm).step ht.proceeds
  | decide hp he hrouter hpending =>
    rw [hpending] at hm
    rw [Command.hangUp_mem_ofEvent hm] at he
    exact gone_step_decide ht hp he
  | perform hp =>
    refine (h ?_).step ht.proceeds
    rw [hp]
    exact List.mem_cons_of_mem _ hm

lemma gone_run {before after : List Step} (h : .hangUp c ∈ s.pending → s.Gone c)
    (ht : s.Timely c (before ++ after)) :
    .hangUp c ∈ (s.run before).pending → (s.run before).Gone c := by
  induction before generalizing s with
  | nil => exact h
  | cons a before ih => exact ih (gone_step h ht) ht.tail

/-! ### Mentions -/

/-- One of the three places where the broker keeps connections has something about `c`. -/
def Mentions (c : ConnectionId) (s : Actor) : Prop :=
  s.broker.isRegistered c = true ∨ s.broker.router.phase c ≠ none ∨
    ∃ entry ∈ s.broker.router.subscriptions.filters, ∃ sub ∈ entry.2, sub.connection = c

lemma not_mentions (h : s.Regular c) (hp : s.broker.router.phase c = none)
    (hr : s.broker.isRegistered c = false) : ¬ s.Mentions c := by
  rintro (hregistered | hphase | ⟨⟨t, subs⟩, hentry, sub, hsub, rfl⟩)
  · rw [hr] at hregistered
    cases hregistered
  · exact hphase hp
  · obtain ⟨rfl, -⟩ := h.wellFormed.mem_filters_iff.mp hentry
    have hgranted := (Router.mem_subscribers_iff h.wellFormed).mp hsub
    have hconnected := (h.settled t sub.granted hgranted).1
    rw [Router.isConnected_eq_false_of_phase_eq_none hp] at hconnected
    cases hconnected

lemma Mentions.outbox?_ne_none (h : s.Mentions c) (hr : s.Regular c) :
    s.broker.outbox? c ≠ none := by
  intro hnone
  refine not_mentions hr (hr.unopened hnone).1 ?_ h
  rw [Broker.isRegistered, hnone]

/-- Once it is forgotten and its outbox has lost the sending end, `c` is not mentioned again. -/
lemma not_mentions_run (hf : s.Forgotten c) (hs : s.Severed c) (hp : s.Proceeds c steps) :
    ¬ (s.run steps).Mentions c := by
  induction steps generalizing s with
  | nil => exact not_mentions hp.regular hf.unknown hs.isRegistered
  | cons a steps ih =>
    have ho : ¬ s.Opens c a := by
      obtain ⟨box, hbox, -⟩ := hs
      exact hp.not_opens hbox
    exact ih (hf.step hp.regular.running ho) (hs.step ho) hp.tail

/-! ### Cleaning up -/

/-- One of the steps opens `c`. -/
def Opened (c : ConnectionId) (s : Actor) (steps : List Step) : Prop :=
  ∃ before a after, steps = before ++ a :: after ∧ (s.run before).Opens c a

lemma opened_of_outbox? (h : s.broker.outbox? c = none)
    (hne : (s.run steps).broker.outbox? c ≠ none) : s.Opened c steps := by
  induction steps generalizing s with
  | nil => exact absurd h hne
  | cons a steps ih =>
    by_cases ho : s.Opens c a
    · exact ⟨[], a, steps, rfl, ho⟩
    · obtain ⟨before, b, after, rfl, hb⟩ := ih (by rw [outbox?_step ho, h]; rfl) hne
      exact ⟨a :: before, b, after, rfl, hb⟩

/-- What the broker keeps about connections along a run. -/
structure CleansUp (s : Actor) (steps : List Step) : Prop where
  /-- When all events are handled, connections are mentioned only if they were opened and their end
  has not been reported. -/
  drained : (s.run steps).broker.events = [] → (s.run steps).pending = [] →
    ∀ c, (s.run steps).Mentions c → s.Opened c steps ∧ .close c ∉ steps
  /-- Once the end of `c` is handled, the last of which is to hang up, `c` is not mentioned again,
  whatever is done. -/
  gone : ∀ c before after, steps = before ++ .perform :: after →
    (s.run before).pending.head? = some (.hangUp c) → ¬ (s.run steps).Mentions c
  /-- When the end of all that were opened has been reported and handled, nothing is left. -/
  empty : (s.run steps).broker.events = [] → (s.run steps).pending = [] →
    (∀ c, s.Opened c steps → .close c ∈ steps) →
    (∀ c, (s.run steps).broker.isRegistered c = false) ∧
      (s.run steps).broker.router.phases = [] ∧
      (s.run steps).broker.router.subscriptions.filters = []

/-- Where nothing is mentioned, nothing is left. -/
lemma nothing_left (hw : s.broker.router.subscriptions.WellFormed) (h : ∀ c, ¬ s.Mentions c) :
    (∀ c, s.broker.isRegistered c = false) ∧ s.broker.router.phases = [] ∧
      s.broker.router.subscriptions.filters = [] := by
  refine ⟨fun c => Bool.eq_false_iff.mpr fun hr => h c (.inl hr), ?_, ?_⟩
  · by_contra hne
    obtain ⟨⟨c, phase⟩, rest, hphases⟩ := List.exists_cons_of_ne_nil hne
    refine h c (.inr (.inl ?_))
    rw [Router.phase, hphases, Roster.find?, if_pos rfl]
    simp
  · by_contra hne
    obtain ⟨entry, rest, hfilters⟩ := List.exists_cons_of_ne_nil hne
    have hentry : entry ∈ s.broker.router.subscriptions.filters := by
      rw [hfilters]
      exact List.mem_cons_self
    obtain ⟨sub, hsub⟩ := List.exists_mem_of_ne_nil _ (hw.nonempty entry hentry)
    exact h sub.connection (.inr (.inr ⟨entry, hentry, sub, hsub, rfl⟩))

/-- Whatever packets come, of whatever connections, and in whatever order the broker comes to
handle them, nothing is left of connections that have ended. -/
theorem cleansUp_of_opens (check : CredentialCheck) (maxQoS : QoS)
    (h : steps.count .openConnection < 2 ^ 64)
    (he : ∀ c, Never (ClosesEarly c) (new check maxQoS) steps) :
    (new check maxQoS).CleansUp steps := by
  have htimely : ∀ c, (new check maxQoS).Timely c steps := fun c => timely_new h (he c)
  have hregular : ∀ c, ((new check maxQoS).run steps).Regular c := fun c => by
    have hend : ((new check maxQoS).run steps).Timely c [] :=
      Timely.run (by rw [List.append_nil]; exact htimely c)
    exact hend.proceeds.regular
  have hdrained : ((new check maxQoS).run steps).broker.events = [] →
      ((new check maxQoS).run steps).pending = [] → ∀ c, ((new check maxQoS).run steps).Mentions c →
        (new check maxQoS).Opened c steps ∧ .close c ∉ steps := by
    intro hevents hpending c hm
    refine ⟨opened_of_outbox? rfl (hm.outbox?_ne_none (hregular c)), fun hc => ?_⟩
    rcases leaving_run_of_mem (htimely c) hc with hreport | ⟨hforgotten, hsevered | ⟨-, hhang⟩⟩
    · rw [hevents] at hreport
      cases hreport
    · exact not_mentions (hregular c) hforgotten.unknown hsevered.isRegistered hm
    · rw [hpending] at hhang
      cases hhang
  refine ⟨hdrained, ?_, fun hevents hpending hall => ?_⟩
  · rintro c before after rfl hhead
    obtain ⟨rest, hp⟩ := List.head?_eq_some_iff.mp hhead
    have hgone : ((new check maxQoS).run before).Gone c := by
      refine gone_run (fun hm => absurd hm List.not_mem_nil) (htimely c) ?_
      rw [hp]
      exact List.mem_cons_self
    have hafter := (htimely c).run
    rw [run_append, run]
    exact not_mentions_run (hgone.step hafter.proceeds).forgotten
      (severed_step_perform hgone.hungUp.outbox?_ne_none hp) hafter.tail.proceeds
  · refine nothing_left (hregular ⟨0⟩).wellFormed fun c hm => ?_
    obtain ⟨hopened, hnot⟩ := hdrained hevents hpending c hm
    exact hnot (hall c hopened)

/-- The first client subscribes and is closed by the router, and sends on after its end; of the
second one, which never gets a session, nothing but its end is reported in time. -/
theorem cleansUp_of_opens_two :
    let subscribe : Packet := .subscribe 7 [⟨"a", .exactlyOnce⟩]
    let connect : Packet := (ConnectRequest.new "x" 0).packet
    let middle : List Step := [.openConnection, .openConnection, .packet ⟨1⟩ connect,
      .packet ⟨1⟩ subscribe, .decide, .decide, .decide, .perform, .decide, .perform]
    let steps : List Step := middle ++ [.packet ⟨1⟩ .disconnect, .close ⟨2⟩, .close ⟨1⟩, .decide,
      .perform, .decide, .perform, .packet ⟨1⟩ connect, .close ⟨2⟩, .packet ⟨3⟩ connect, .decide,
      .perform, .decide, .decide, .perform, .decide]
    let s := new .anyone .atMostOnce
    steps.count .openConnection < 2 ^ 64 ∧ (∀ c, Never (ClosesEarly c) s steps) ∧
      (s.run middle).Mentions ⟨1⟩ ∧ (s.run middle).Mentions ⟨2⟩ ∧
      (s.run steps).broker.events = [] ∧ (s.run steps).pending = [] ∧
      (s.run steps).broker.router.phases = [] ∧
      (s.run steps).broker.router.subscriptions.filters = [] ∧ s.CleansUp steps := by
  intro subscribe connect middle steps s
  have h : steps.count .openConnection < 2 ^ 64 := by decide
  have he : ∀ c, Never (ClosesEarly c) s steps := by
    intro c
    by_cases hc : c = ⟨1⟩ ∨ c = ⟨2⟩
    · rcases hc with rfl | rfl <;> decide
    · refine never_closesEarly_of_not_mem ?_
      rw [not_or] at hc
      simp [steps, middle, hc.1, hc.2]
  exact ⟨h, he, .inl (by decide), .inl (by decide), by decide, by decide, by decide, by decide,
    cleansUp_of_opens _ _ h he⟩

end Actor

end Mqtt
