import Mqtt.Proofs.Broker.GapFree

/-!
# The end of a connection

The request to close travels through the outbox, like all that is sent to a connection, and may find
it full or without its sending end. It is not lost for that: whatever happens on the way, once the
router has closed a connection, or has handled the report of its end, the connection finds the
request at the end of its outbox, has found it there, or finds that the outbox itself has ended
(`Actor.farewell_of_closes`).
-/

namespace Mqtt

namespace Router

variable {r r' : Router} {event : Event} {actions : List Action} {c : ConnectionId}

/-- The router closes `c` by handling the event: it asks for it, or counts `c` as closed from then
on. -/
def Shuts (c : ConnectionId) (r : Router) (event : Event) : Prop :=
  .close c ∈ (r.step event).2 ∨ r.isClosing c = false ∧ (r.step event).1.isClosing c = true

instance : Decidable (Shuts c r event) := inferInstanceAs (Decidable (_ ∨ _))

/-- The router asks to close whatever it comes to count as closed. -/
lemma Turn.close_mem (turn : Turn r event r' actions) (h : r.isClosing c = false)
    (h' : r'.isClosing c = true) : .close c ∈ actions := by
  by_cases he : event.connection = c
  · subst he
    cases turn with
    | refused | premature | ended => simp [Event.connection]
    | opened d =>
      rw [isClosing, Event.connection, phase_noteOpened, if_pos rfl] at h'
      cases h'
    | closed d =>
      rw [isClosing, Event.connection, phase_noteClosed, if_pos rfl] at h'
      cases h'
    | accepted hd hp hcheck =>
      rw [isClosing, Event.connection, phase_set, if_pos rfl] at h'
      cases h'
    | dropped | ignored | pinged | published | subscribed | unsubscribed =>
      exact absurd (h.symm.trans h') Bool.false_ne_true
  · rw [isClosing, turn.phase_of_ne he, ← isClosing, h] at h'
    cases h'

/-- The router closes only connections that it knows, and ignores them from then on. The request to
close is the last that goes out. -/
lemma Turn.of_close_mem (turn : Turn r event r' actions) (h : .close c ∈ actions) :
    r.phase c ≠ none ∧ r'.Ignores c ∧ (outputTo c actions).getLast? = some (.close c) := by
  have hsame : ∀ {d : ConnectionId}, .close c ∈ [Action.close d] → d = c := by
    intro d hd
    cases List.mem_singleton.mp hd
    rfl
  cases turn with
  | @refused d _ _ _ hd hp hcheck =>
    obtain rfl := hsame ((List.mem_cons.mp h).resolve_left (by simp))
    have hknown : r.phase d ≠ none := by simp [hd]
    rw [outputTo_cons_send (encode_connAck .badUserNameOrPassword), outputTo_cons_close]
    exact ⟨hknown, ignores_shut hknown, rfl⟩
  | @premature d _ hd hp =>
    obtain rfl := hsame h
    have hknown : r.phase d ≠ none := by simp [hd]
    rw [outputTo_cons_close]
    exact ⟨hknown, ignores_shut hknown, rfl⟩
  | @ended d _ hd hp =>
    obtain rfl := hsame h
    obtain ⟨id, hid⟩ := isConnected_iff.mp hd
    have hknown : r.phase d ≠ none := by simp [hid]
    rw [outputTo_cons_close]
    exact ⟨hknown, ignores_shut hknown, rfl⟩
  | published hd hp =>
    rcases mem_publish h with ⟨packet, _, -, heq⟩ | ⟨s, -, -, heq⟩ <;> cases heq
  | accepted | pinged | subscribed | unsubscribed => simp at h
  | opened | closed | dropped | ignored => cases h

lemma Shuts.close_mem (h : r.Shuts c event) : .close c ∈ (r.step event).2 :=
  h.elim id fun ⟨hbefore, hafter⟩ => (turn_step r event).close_mem hbefore hafter

end Router

namespace Actor

variable {s : Actor} {a : Step} {steps : List Step} {c : ConnectionId} {box : Outbox}
  {t : List Outbound}

/-! ### Ends that are reported in time -/

/-- `c` is in order in `s`, and its end is reported after its opening, now and by the steps. -/
structure Timely (c : ConnectionId) (s : Actor) (steps : List Step) : Prop where
  proceeds : s.Proceeds c steps
  announced : s.Announced c
  unreported : s.broker.outbox? c = none → s.Unreported c
  never : Never (ClosesEarly c) s steps

lemma timely_new {check : CredentialCheck} {maxQoS : QoS}
    (h : steps.count .openConnection < 2 ^ 64)
    (he : Never (ClosesEarly c) (new check maxQoS) steps) : (new check maxQoS).Timely c steps where
  proceeds := proceeds_new h
  announced := .nil
  unreported _ := ⟨List.not_mem_nil, List.not_mem_nil⟩
  never := he

lemma Timely.tail (h : s.Timely c (a :: steps)) : (s.step a).Timely c steps where
  proceeds := h.proceeds.tail
  announced := h.announced.step h.proceeds.regular.running fun ho =>
    (h.unreported (h.proceeds.outbox?_eq_none ho)).1
  unreported hnone := by
    obtain ⟨-, hold⟩ := outbox?_eq_none_step h.proceeds.regular.running hnone
    exact (h.unreported hold).step h.proceeds.regular.running fun ha => h.never.head ⟨ha, hold⟩
  never := h.never.tail

lemma Timely.run {before after : List Step} (h : s.Timely c (before ++ after)) :
    (s.run before).Timely c after := by
  induction before generalizing s with
  | nil => exact h
  | cons a before ih => exact ih h.tail

/-! ### Outboxes that end -/

/-- The outbox of `c` has lost its sending end. -/
def Severed (c : ConnectionId) (s : Actor) : Prop :=
  ∃ box, s.broker.outbox? c = some box ∧ box.isOpen = false

/-- The outbox of `c` has lost its sending end, or is about to. -/
def HungUp (c : ConnectionId) (s : Actor) : Prop :=
  s.Severed c ∨ s.broker.outbox? c ≠ none ∧ .hangUp c ∈ s.pending

lemma Severed.step (h : s.Severed c) (ho : ¬ s.Opens c a) : (s.step a).Severed c := by
  obtain ⟨box, hbox, hopen⟩ := h
  obtain ⟨box', hbox', htreats⟩ := exists_treats hbox ho
  exact ⟨box', hbox', htreats.isOpen_eq_false hopen⟩

lemma Severed.isRegistered (h : s.Severed c) : s.broker.isRegistered c = false := by
  obtain ⟨box, hbox, hopen⟩ := h
  rw [Broker.isRegistered, hbox]
  exact hopen

lemma HungUp.outbox?_ne_none (h : s.HungUp c) : s.broker.outbox? c ≠ none := by
  rcases h with ⟨box, hbox, -⟩ | ⟨hbox, -⟩
  · simp [hbox]
  · exact hbox

/-- Hanging up ends the outbox. -/
lemma severed_step_perform {rest : List Command} (hbox : s.broker.outbox? c ≠ none)
    (hp : s.pending = .hangUp c :: rest) : (s.step .perform).Severed c := by
  obtain ⟨box, hbox⟩ := Option.ne_none_iff_exists'.mp hbox
  have htouch : s.touch c .perform box = box.hangUp := by
    simp only [touch, hp, Command.touch, if_pos]
  refine ⟨box.hangUp, ?_, rfl⟩
  rw [outbox?_step (by simp [Opens]), hbox, Option.map_some, htouch]

lemma HungUp.step (h : s.HungUp c) (hr : s.broker.isRunning = true) (ho : ¬ s.Opens c a) :
    (s.step a).HungUp c := by
  rcases h with hsevered | ⟨hbox, hhang⟩
  · exact .inl (hsevered.step ho)
  · have hbox' : (s.step a).broker.outbox? c ≠ none := fun hnone =>
      hbox (outbox?_eq_none_step hr hnone).2
    cases moves hr a with
    | queue hq hrouter hevents hpending | leave hrouter hevents hpending =>
      exact .inr ⟨hbox', hpending ▸ hhang⟩
    | decide hp =>
      rw [hp] at hhang
      cases hhang
    | perform hp =>
      rw [hp] at hhang
      rcases List.mem_cons.mp hhang with rfl | hhang
      · exact .inl (severed_step_perform hbox hp)
      · exact .inr ⟨hbox', hhang⟩

/-! ### Ends that are reported -/

/-- The router does not know `c`, and no opening of `c` is waiting to be handled. -/
structure Forgotten (c : ConnectionId) (s : Actor) : Prop where
  unknown : s.broker.router.phase c = none
  unannounced : .opened c ∉ s.broker.events

/-- The end of `c` has been handled, but for carrying out what has been decided about it. -/
structure Gone (c : ConnectionId) (s : Actor) : Prop where
  forgotten : s.Forgotten c
  hungUp : s.HungUp c

lemma Forgotten.barred (h : s.Forgotten c) : s.Barred c := ⟨.inl h.unknown, h.unannounced⟩

lemma Forgotten.step (h : s.Forgotten c) (hr : s.broker.isRunning = true) (ho : ¬ s.Opens c a) :
    (s.step a).Forgotten c :=
  ⟨phase_eq_none_step hr h.unannounced h.unknown, unannounced_step hr ho h.unannounced⟩

lemma Gone.step (h : s.Gone c) (hp : s.Proceeds c (a :: steps)) : (s.step a).Gone c := by
  obtain ⟨box, hbox⟩ := Option.ne_none_iff_exists'.mp h.hungUp.outbox?_ne_none
  have hr := hp.regular.running
  have ho := hp.not_opens hbox
  exact ⟨h.forgotten.step hr ho, h.hungUp.step hr ho⟩

/-- The end of `c` is reported after its opening, so nothing of `c` is behind it. -/
lemma gone_step_decide {events : List Event} (h : s.Timely c steps) (hp : s.pending = [])
    (he : s.broker.events = .closed c :: events) : (s.step .decide).Gone c := by
  have hannounced := h.announced
  rw [Announced, he] at hannounced
  have hbox : s.broker.outbox? c ≠ none := fun hnone =>
    (h.unreported hnone).1 (by rw [he]; exact List.mem_cons_self)
  rw [step_decide hp he]
  refine ⟨⟨Router.phase_noteClosed.trans (if_pos rfl), fun hm => ?_⟩, .inr ⟨hbox, ?_⟩⟩
  · exact (List.pairwise_cons.mp hannounced).1 _ hm rfl rfl
  · exact List.mem_singleton_self _

/-! ### Requests to close -/

/-- The router closes `c`, or takes up the report of its end. -/
def Closes (c : ConnectionId) (s : Actor) (a : Step) : Prop :=
  a = .decide ∧ s.pending = [] ∧ ∃ event ∈ s.broker.events.head?,
    event = .closed c ∨ s.broker.router.Shuts c event

instance : Decidable (Closes c s a) := inferInstanceAs (Decidable (_ ∧ _ ∧ _))

/-- What `c`, which has taken `t`, is still to find in its outbox ends in a request to close, unless
it drops the receiving end. -/
def Dismissed (c : ConnectionId) (t : List Outbound) (s : Actor) : Prop :=
  ∃ box, s.broker.outbox? c = some box ∧
    (box.isAttached = true → (t ++ box.items ++ s.pendingTo c).getLast? = some .close)

/-- The router has done with `c`, which has taken `t` out of its outbox. -/
structure Parting (c : ConnectionId) (t : List Outbound) (s : Actor) : Prop where
  barred : s.Barred c
  told : s.HungUp c ∨ s.Dismissed c t

lemma Parting.outbox?_ne_none (h : s.Parting c t) : s.broker.outbox? c ≠ none := by
  rcases h.told with hhung | ⟨box, hbox, -⟩
  · exact hhung.outbox?_ne_none
  · simp [hbox]

/-- Nothing more is to be sent to whom the router ignores. -/
lemma issuedAt_append_pendingTo (h : s.Regular c) (hi : s.broker.router.Ignores c) :
    s.issuedAt c a ++ (s.step a).pendingTo c = s.pendingTo c := by
  rcases issued_step h.running (a := a) (c := c) with
    ⟨-, -, heq⟩ | ⟨event, -, -, hnone, hempty, hout⟩
  · exact heq
  · rw [hnone, hempty, hout,
      (Router.turn_step ..).output_of_ignores h.wellFormed h.settled hi]
    rfl

/-- Of what is sent to an outbox that keeps both ends nothing is lost. -/
lemma Treats.conserved {box' : Outbox} {gone sent : List Outbound}
    (h : Treats c s box a gone sent box') (ha : box'.isAttached = true) :
    box'.isOpen = false ∨ box.isAttached = true ∧ gone ++ box'.items = box.items ++ sent := by
  have hopen : ¬ box'.Accepts → box'.isOpen = false := fun hnot =>
    Bool.eq_false_iff.mpr fun ho => hnot ⟨ho, ha⟩
  by_cases hacc : box.Accepts
  · rcases h.of_accepts hacc with ⟨-, heq⟩ | ⟨hnot, -⟩
    · exact .inr ⟨hacc.2, heq⟩
    · exact .inl (hopen hnot)
  · exact .inl (hopen (h.of_not_accepts hacc).1)

lemma Dismissed.step (h : s.Dismissed c t) (hr : s.Regular c) (hi : s.broker.router.Ignores c)
    (ho : ¬ s.Opens c a) :
    (s.step a).HungUp c ∨ (s.step a).Dismissed c (t ++ s.takenAt c a) := by
  obtain ⟨box, hbox, hlast⟩ := h
  obtain ⟨box', hbox', htreats⟩ := exists_treats hbox ho
  by_cases ha : box'.isAttached = true
  · rcases htreats.conserved ha with hopen | ⟨ha', heq⟩
    · exact .inl (.inl ⟨box', hbox', hopen⟩)
    · refine .inr ⟨box', hbox', fun _ => ?_⟩
      rw [← hlast ha', ← issuedAt_append_pendingTo (a := a) hr hi, List.append_assoc t, heq]
      simp only [List.append_assoc]
  · exact .inr ⟨box', hbox', fun ha' => absurd ha' ha⟩

lemma Parting.step (h : s.Parting c t) (hp : s.Proceeds c (a :: steps)) :
    (s.step a).Parting c (t ++ s.takenAt c a) := by
  obtain ⟨box, hbox⟩ := Option.ne_none_iff_exists'.mp h.outbox?_ne_none
  have ho := hp.not_opens hbox
  refine ⟨h.barred.step hp.regular.running ho, ?_⟩
  rcases h.told with hhung | hdismissed
  · exact .inl (hhung.step hp.regular.running ho)
  · exact hdismissed.step hp.regular h.barred.ignored ho

lemma Parting.run (h : s.Parting c t) (hp : s.Proceeds c steps) :
    (s.run steps).Parting c (t ++ s.taken c steps) := by
  induction steps generalizing s t with
  | nil => rwa [taken, List.append_nil]
  | cons a steps ih =>
    rw [Actor.run, taken, ← List.append_assoc]
    exact ih (h.step hp) hp.tail

/-- Closing `c` the router has done with it. -/
lemma parting_of_closes (h : s.Timely c steps) (hc : s.Closes c a) : (s.step a).Parting c t := by
  obtain ⟨rfl, hp, event, hevent, hcase⟩ := hc
  obtain ⟨events, he⟩ := List.head?_eq_some_iff.mp hevent
  rcases hcase with rfl | hshuts
  · have hgone := gone_step_decide h hp he
    exact ⟨hgone.forgotten.barred, .inl hgone.hungUp⟩
  · have hregular := h.proceeds.regular
    obtain ⟨hknown, hignored, hlast⟩ := (Router.turn_step ..).of_close_mem hshuts.close_mem
    have hnot := hregular.opensOnce.not_mem_of_phase hknown
    rw [he] at hnot
    obtain ⟨box, hbox⟩ := Option.ne_none_iff_exists'.mp fun hnone =>
      hknown (hregular.unopened hnone).1
    rw [step_decide hp he]
    refine ⟨⟨hignored, fun hm => hnot (List.mem_cons_of_mem _ hm)⟩, .inr ⟨box, hbox, fun _ => ?_⟩⟩
    rw [pendingTo, filterMap_itemTo?_ofEvent, List.getLast?_append, List.getLast?_map, hlast]
    rfl

/-! ### Farewells -/

/-- How it ends for `c`, which has taken `t` out of its outbox. -/
inductive Farewell (c : ConnectionId) (t : List Outbound) (s : Actor) : Prop where
  /-- The request to close is the last item of the outbox. -/
  | queued (hlast : (s.queued c).getLast? = some .close)
  /-- It is the last item that `c` has taken, and nothing is left. -/
  | taken (hempty : s.queued c = []) (hlast : t.getLast? = some .close)
  /-- The broker sends no more to `c`, which learns of it behind what is queued. -/
  | unregistered (hsender : s.broker.isRegistered c = false)
      (hend : (s.broker.receive c).2 = ⟨s.queued c, true⟩)

lemma Severed.farewell (h : s.Severed c) : s.Farewell c t := by
  refine .unregistered h.isRegistered ?_
  obtain ⟨box, hbox, hopen⟩ := h
  rw [Broker.receive, hbox, queued_of_some hbox]
  simp [Outbox.drain, hopen]

/-- Once all commands are carried out, it has ended. -/
lemma Parting.farewell (h : s.Parting c t) (hp : s.pending = [])
    (ha : s.broker.isAttached c = true) : s.Farewell c t := by
  rcases h.told with (hsevered | ⟨-, hhang⟩) | ⟨box, hbox, hlast⟩
  · exact hsevered.farewell
  · rw [hp] at hhang
    cases hhang
  · rw [Broker.isAttached, hbox] at ha
    have hlast := hlast ha
    rw [pendingTo, hp, List.filterMap_nil, List.append_nil] at hlast
    cases hitems : box.items with
    | nil =>
      rw [hitems, List.append_nil] at hlast
      exact .taken (by rw [queued_of_some hbox, hitems]) hlast
    | cons item items =>
      refine .queued ?_
      rw [queued_of_some hbox, ← hlast, hitems, List.getLast?_append_of_ne_nil _ (by simp)]

/-- A connection that the router closes, or the end of which it handles, finds the request to close
at the end of its outbox, has found it there, or finds that its outbox has ended; unless it has
dropped the receiving end. What has been decided has to be carried out, but more events may wait. -/
theorem farewell_of_closes (check : CredentialCheck) (maxQoS : QoS) (c : ConnectionId)
    {before after : List Step} (h : (before ++ a :: after).count .openConnection < 2 ^ 64)
    (he : Never (ClosesEarly c) (new check maxQoS) (before ++ a :: after))
    (hc : ((new check maxQoS).run before).Closes c a)
    (hp : ((new check maxQoS).run (before ++ a :: after)).pending = [])
    (ha : ((new check maxQoS).run (before ++ a :: after)).broker.isAttached c = true) :
    ((new check maxQoS).run (before ++ a :: after)).Farewell c
      ((new check maxQoS).taken c (before ++ a :: after)) := by
  have htimely : (new check maxQoS).Timely c (before ++ a :: after) := timely_new h he
  have hafter : ((new check maxQoS).run before).Timely c (a :: after) := htimely.run
  have hparting := (parting_of_closes hafter hc).run
    (t := (new check maxQoS).taken c before ++ ((new check maxQoS).run before).takenAt c a)
    hafter.tail.proceeds
  rw [run_append] at hp ha ⊢
  rw [taken_append, taken, ← List.append_assoc]
  exact hparting.farewell hp ha

/-- The first client is refused, and takes nothing but the CONNACK; the second one gets its own only
while the end of its connection is handled. -/
theorem farewell_of_closes_two :
    let opening : List Step := [.openConnection, .packet ⟨1⟩ (ConnectRequest.new "x" 0).packet,
      .openConnection,
      .packet ⟨2⟩ ((ConnectRequest.new "y" 0).withCredentials "u" (some [1])).packet, .decide,
      .close ⟨2⟩]
    let middle : List Step := [.perform, .packet ⟨1⟩ .pingReq, .receive ⟨1⟩ 5, .perform, .decide,
      .decide, .perform]
    let ending : List Step := [.perform, .decide]
    let s := new (.only "u" [1]) .atMostOnce
    let steps := opening ++ .decide :: (middle ++ .decide :: ending)
    steps.count .openConnection < 2 ^ 64 ∧ Never (ClosesEarly ⟨1⟩) s steps ∧
      Never (ClosesEarly ⟨2⟩) s steps ∧ (s.run opening).Closes ⟨1⟩ .decide ∧
      (s.run (opening ++ .decide :: middle)).Closes ⟨2⟩ .decide ∧ (s.run steps).pending = [] ∧
      s.taken ⟨1⟩ steps = [.packet [0x20, 0x02, 0x00, 0x04]] ∧
      (s.run steps).queued ⟨1⟩ = [.close] ∧
      (s.run steps).queued ⟨2⟩ = [.packet [0x20, 0x02, 0x00, 0x00]] ∧
      (s.run steps).Farewell ⟨1⟩ (s.taken ⟨1⟩ steps) ∧
      (s.run steps).Farewell ⟨2⟩ (s.taken ⟨2⟩ steps) := by
  intro opening middle ending s steps
  have h : steps.count .openConnection < 2 ^ 64 := by decide
  have he : Never (ClosesEarly ⟨1⟩) s steps := by decide
  have he' : Never (ClosesEarly ⟨2⟩) s steps := by decide
  have hc : (s.run opening).Closes ⟨1⟩ .decide := by decide
  have hc' : (s.run (opening ++ .decide :: middle)).Closes ⟨2⟩ .decide := by decide
  have hp : (s.run steps).pending = [] := by decide
  have hsplit : (opening ++ .decide :: middle) ++ .decide :: ending = steps := rfl
  have hsecond := @farewell_of_closes .decide (.only "u" [1]) .atMostOnce ⟨2⟩
    (opening ++ .decide :: middle) ending
  rw [hsplit] at hsecond
  exact ⟨h, he, he', hc, hc', hp, by decide, by decide, by decide,
    farewell_of_closes _ _ ⟨1⟩ h he hc hp (by decide), hsecond h he' hc' hp (by decide)⟩

end Actor

end Mqtt
