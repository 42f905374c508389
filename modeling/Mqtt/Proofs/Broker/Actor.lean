import Mqtt.Broker.Basic
import Mqtt.Proofs.Broker.Conversation

/-!
# The broker at work

The router handles one event after the other, but it fills the outboxes item by item, and clients
take steps of their own in between. An `Actor` is a broker in the middle of this, and its runs are
all the ways in which the steps may follow each other. Where nobody comes in between, an event is
handled as `Broker.handleNext` does it (`Actor.run_handleNext`), and whoever takes everything out of
an outbox takes it as by `Broker.receive` (`Broker.receive_eq_receiveSome`).

What a step may do to the events, the router and its commands is told once, case by case
(`Actor.moves`). The rest is what holds of a single connection at any time: who is sent something
has been opened, and under an identifier that nobody had before (`Actor.Numbered`,
`Actor.Regular`).
-/

namespace Mqtt

/-- The item that a transmission puts into an outbox. -/
def Transmission.item : Transmission → Outbound
  | .bytes _ bs => .packet bs
  | .close _    => .close

/-- Leave out the first `n` items. -/
def Outbox.discard (n : Nat) (box : Outbox) : Outbox := { box with items := box.items.drop n }

namespace Broker

variable {b : Broker} {c : ConnectionId}

/-- Queue an event for the router, if it still handles events. -/
def accept (event : Event) (b : Broker) : Broker :=
  match b.submit event with
  | .ok b    => b
  | .error _ => b

/-- Take up to `n` items out of the outbox of `c`. -/
def receiveSome (c : ConnectionId) (n : Nat) (b : Broker) : Broker × List Outbound :=
  ({ b with outboxes := b.outboxes.modify c (Outbox.discard n) },
   match b.outbox? c with
   | none     => []
   | some box => box.items.take n)

lemma transmit_eq (outboxes : Roster Outbox) (t : Transmission) :
    transmit outboxes t = outboxes.modify t.connection (Outbox.push t.item) := by
  cases t <;> rfl

lemma accept_eq (hr : b.isRunning = true) (event : Event) :
    b.accept event = { b with events := b.events ++ [event] } := by
  rw [accept, submit, if_pos hr]

lemma outbox?_accept {event : Event} : (b.accept event).outbox? c = b.outbox? c := by
  rw [accept]
  split <;> rename_i h
  · rw [submit.eq_def] at h
    split at h <;> cases h
    rfl
  · rfl

lemma outbox?_openConnection_of_ne (hc : c ≠ b.ids.upcoming) :
    b.openConnection.1.outbox? c = b.outbox? c := by
  cases hr : b.isRunning <;>
    simp [openConnection, submit, hr, ConnectionIds.generate, outbox?, hc]

lemma openConnection_eq (hr : b.isRunning = true) : b.openConnection.1 =
    { b with
      ids := b.ids.generate.2
      outboxes := b.outboxes.set b.ids.upcoming .new
      events := b.events ++ [.opened b.ids.upcoming] } := by
  simp [openConnection, submit, hr, ConnectionIds.generate]

/-- Emptying an outbox changes nothing but this outbox. -/
lemma receive_fst (b : Broker) (c : ConnectionId) : (b.receive c).1 =
    { b with outboxes := b.outboxes.modify c fun box => box.drain.2 } := by
  cases hbox : b.outbox? c with
  | none => rw [receive, hbox, Roster.modify_eq_self hbox]
  | some box =>
    rw [receive, hbox, ← Roster.set_eq_modify hbox]

/-- Taking everything is taking enough. -/
lemma receive_eq_receiveSome {n : Nat} {d : ConnectionId}
    (hn : ∀ box, b.outbox? c = some box → box.items.length ≤ n) :
    (b.receive c).1.outbox? d = (b.receiveSome c n).1.outbox? d ∧
      (b.receive c).2.items = (b.receiveSome c n).2 := by
  constructor
  · rw [receive_fst]
    refine (Roster.find?_modify ..).trans (Eq.trans ?_ (Roster.find?_modify ..).symm)
    by_cases hd : c = d
    · subst hd
      refine Option.map_congr fun box hbox => ?_
      rw [if_pos rfl, if_pos rfl, Outbox.discard, List.drop_of_length_le (hn box hbox)]
      rfl
    · rw [if_neg hd, if_neg hd]
  · cases hbox : b.outbox? c with
    | none => simp [receive, receiveSome, hbox]
    | some box =>
      have htake := List.take_of_length_le (hn box hbox)
      simp [receive, receiveSome, hbox, Outbox.drain, htake]

end Broker

/-! ### Commands -/

/-- What handling an event does to the outboxes, piece by piece. -/
inductive Command where
  | transmit (t : Transmission)
  /-- Send nothing more to `c`. -/
  | hangUp (c : ConnectionId)
deriving DecidableEq

namespace Command

/-- Carry out a command. -/
def apply (outboxes : Roster Outbox) : Command → Roster Outbox
  | .transmit t => Broker.transmit outboxes t
  | .hangUp c   => outboxes.modify c Outbox.hangUp

/-- The commands by which the actions of the router on an event are carried out. -/
def ofEvent (event : Event) (actions : List Action) : List Command :=
  (actions.filterMap Action.transmission?).map .transmit ++
    match event with
    | .closed c => [.hangUp c]
    | _         => []

/-- What a command does to the outbox of `c`. -/
def touch (c : ConnectionId) : Command → Outbox → Outbox
  | .transmit t => if t.connection = c then Outbox.push t.item else id
  | .hangUp d   => if d = c then Outbox.hangUp else id

variable {c : ConnectionId} {event : Event} {actions : List Action}

lemma find?_apply (command : Command) (outboxes : Roster Outbox) :
    (command.apply outboxes).find? c = (outboxes.find? c).map (command.touch c) := by
  cases command with
  | transmit t =>
    rw [apply, Broker.transmit_eq, touch]
    by_cases h : t.connection = c
    · simp [h]
    · simp [h, Ne.symm h]
  | hangUp d =>
    rw [apply, touch]
    by_cases h : d = c
    · simp [h]
    · simp [h, Ne.symm h]

lemma transmit_mem_ofEvent {t : Transmission} (h : .transmit t ∈ ofEvent event actions) :
    t ∈ outputTo t.connection actions := by
  rcases List.mem_append.mp h with h | h
  · obtain ⟨u, hu, heq⟩ := List.mem_map.mp h
    cases heq
    exact List.mem_filter.mpr ⟨hu, by simp⟩
  · split at h <;> simp at h

lemma hangUp_mem_ofEvent (h : .hangUp c ∈ ofEvent event actions) : event = .closed c := by
  rcases List.mem_append.mp h with h | h
  · obtain ⟨u, -, heq⟩ := List.mem_map.mp h
    cases heq
  · split at h
    · rw [List.mem_singleton] at h
      cases h
      rfl
    · cases h

end Command

/-- Handling an event is carrying out its commands in order. -/
lemma Broker.handle_eq (b : Broker) (event : Event) : b.handle event =
    { b with
      router := (b.router.step event).1
      outboxes :=
        (Command.ofEvent event (b.router.step event).2).foldl Command.apply b.outboxes } := by
  rw [Command.ofEvent.eq_def, List.foldl_append, List.foldl_map, handle]
  cases event <;> rfl

/-! ### Steps -/

/-- A broker, and what the router has decided to do about the event it handles. -/
structure Actor where
  broker : Broker
  pending : List Command

namespace Actor

/-- What may happen next. -/
inductive Step where
  | openConnection
  | packet (c : ConnectionId) (packet : Packet)
  | close (c : ConnectionId)
  /-- The connection takes up to `n` items out of its outbox. -/
  | receive (c : ConnectionId) (n : Nat)
  | detach (c : ConnectionId)
  /-- The router takes up the next event, once it is done with the one before. -/
  | decide
  /-- The router carries out the next of its commands. -/
  | perform
deriving DecidableEq

/-- A broker to which nothing has happened. -/
def new (check : CredentialCheck) (maxQoS : QoS) : Actor := ⟨.new check maxQoS, []⟩

/-- Take a step. -/
def step (s : Actor) : Step → Actor
  | .openConnection  => { s with broker := s.broker.openConnection.1 }
  | .packet c packet => { s with broker := s.broker.accept (.packet c packet) }
  | .close c         => { s with broker := s.broker.accept (.closed c) }
  | .receive c n     => { s with broker := (s.broker.receiveSome c n).1 }
  | .detach c        => { s with broker := s.broker.detach c }
  | .decide =>
    match s.pending, s.broker.events with
    | [], event :: events =>
      { broker := { s.broker with router := (s.broker.router.step event).1, events := events }
        pending := Command.ofEvent event (s.broker.router.step event).2 }
    | _, _ => s
  | .perform =>
    match s.pending with
    | []              => s
    | command :: rest =>
      { broker := { s.broker with outboxes := command.apply s.broker.outboxes }, pending := rest }

/-- Take steps in order. -/
def run (s : Actor) : List Step → Actor
  | []            => s
  | step :: steps => (s.step step).run steps

variable {s : Actor} {a : Step} {steps : List Step} {c : ConnectionId} {k : Nat}

lemma run_append (s : Actor) (before after : List Step) :
    s.run (before ++ after) = (s.run before).run after := by
  induction before generalizing s with
  | nil => rfl
  | cons a before ih => exact ih (s.step a)

lemma step_decide {event : Event} {events : List Event} (hp : s.pending = [])
    (he : s.broker.events = event :: events) : s.step .decide =
      ⟨{ s.broker with router := (s.broker.router.step event).1, events := events },
        Command.ofEvent event (s.broker.router.step event).2⟩ := by
  rw [step, hp, he]

lemma decide_cases (s : Actor) : s.step .decide = s ∨
    ∃ event events, s.pending = [] ∧ s.broker.events = event :: events ∧ s.step .decide =
      ⟨{ s.broker with router := (s.broker.router.step event).1, events := events },
        Command.ofEvent event (s.broker.router.step event).2⟩ := by
  rw [step]
  split
  · exact .inr ⟨_, _, ‹_›, ‹_›, rfl⟩
  · exact .inl rfl

lemma perform_cases (s : Actor) : (s.pending = [] ∧ s.step .perform = s) ∨
    ∃ command rest, s.pending = command :: rest ∧ s.step .perform =
      ⟨{ s.broker with outboxes := command.apply s.broker.outboxes }, rest⟩ := by
  rw [step]
  split
  · exact .inl ⟨‹_›, rfl⟩
  · exact .inr ⟨_, _, ‹_›, rfl⟩

lemma run_perform (b : Broker) (pending : List Command) :
    (⟨b, pending⟩ : Actor).run (List.replicate pending.length .perform) =
      ⟨{ b with outboxes := pending.foldl Command.apply b.outboxes }, []⟩ := by
  induction pending generalizing b with
  | nil => rfl
  | cons command rest ih => exact ih _

/-- An event is handled as a whole if nobody comes in between. -/
theorem run_handleNext (b : Broker) :
    ∃ n, (⟨b, []⟩ : Actor).run (.decide :: List.replicate n .perform) = ⟨b.handleNext, []⟩ := by
  cases he : b.events with
  | nil => exact ⟨0, by simp [run, step, he, Broker.handleNext]⟩
  | cons event events =>
    refine ⟨(Command.ofEvent event (b.router.step event).2).length, ?_⟩
    rw [run, step_decide rfl he]
    refine (run_perform _ _).trans ?_
    rw [Broker.handleNext, he]
    dsimp only
    rw [Broker.handle_eq]

/-! ### Outboxes -/

/-- The step gives the identifier `c` to a new connection. -/
def Opens (s : Actor) (c : ConnectionId) (a : Step) : Prop :=
  a = .openConnection ∧ s.broker.ids.upcoming = c

/-- What a step does to the outbox that `c` has. -/
def touch (s : Actor) (c : ConnectionId) : Step → Outbox → Outbox
  | .receive d n => if d = c then Outbox.discard n else id
  | .detach d    => if d = c then Outbox.detach else id
  | .perform =>
    match s.pending with
    | []           => id
    | command :: _ => command.touch c
  | _ => id

lemma outbox?_step (ho : ¬ s.Opens c a) :
    (s.step a).broker.outbox? c = (s.broker.outbox? c).map (s.touch c a) := by
  have hsame : s.broker.outbox? c = (s.broker.outbox? c).map id := by simp
  cases a with
  | openConnection =>
    have hc : c ≠ s.broker.ids.upcoming := fun h => ho ⟨rfl, h.symm⟩
    exact (Broker.outbox?_openConnection_of_ne hc).trans hsame
  | packet d p | close d => exact Broker.outbox?_accept.trans hsame
  | receive d n | detach d => exact Roster.find?_modify ..
  | decide =>
    rw [step]
    split <;> exact hsame
  | perform =>
    rw [step, touch]
    split
    · exact hsame
    · exact Command.find?_apply ..

lemma outbox?_of_opens (hr : s.broker.isRunning = true) (ho : s.Opens c a) :
    (s.step a).broker.outbox? c = some .new := by
  obtain ⟨rfl, rfl⟩ := ho
  rw [step, Broker.openConnection_eq hr]
  exact Roster.find?_set_self ..

lemma outbox?_eq_none_step (hr : s.broker.isRunning = true)
    (h : (s.step a).broker.outbox? c = none) :
    ¬ s.Opens c a ∧ s.broker.outbox? c = none := by
  have ho : ¬ s.Opens c a := by
    intro ho
    rw [outbox?_of_opens hr ho] at h
    cases h
  rw [outbox?_step ho] at h
  exact ⟨ho, Option.map_eq_none_iff.mp h⟩

lemma isRunning_step (hr : s.broker.isRunning = true) :
    (s.step a).broker.isRunning = true := by
  cases a with
  | openConnection => rwa [step, Broker.openConnection_eq hr]
  | packet d p | close d => rwa [step, Broker.accept_eq hr]
  | receive d n | detach d => exact hr
  | decide | perform =>
    rw [step]
    split <;> exact hr

/-! ### What the router has before it -/

/-- The event that a step queues. -/
def queues (s : Actor) : Step → Option Event
  | .openConnection  => some (.opened s.broker.ids.upcoming)
  | .packet c packet => some (.packet c packet)
  | .close c         => some (.closed c)
  | _                => none

/-- A step of a running broker queues an event, lets the router take up the first one or carry out a
command, or does none of this. -/
inductive Moves (s : Actor) : Step → Prop where
  | queue {a : Step} {event : Event} (hq : s.queues a = some event)
      (router : (s.step a).broker.router = s.broker.router)
      (events : (s.step a).broker.events = s.broker.events ++ [event])
      (pending : (s.step a).pending = s.pending) : Moves s a
  | leave {a : Step} (router : (s.step a).broker.router = s.broker.router)
      (events : (s.step a).broker.events = s.broker.events)
      (pending : (s.step a).pending = s.pending) : Moves s a
  | decide {event : Event} (hp : s.pending = [])
      (he : s.broker.events = event :: (s.step .decide).broker.events)
      (router : (s.step .decide).broker.router = (s.broker.router.step event).1)
      (pending : (s.step .decide).pending =
        Command.ofEvent event (s.broker.router.step event).2) : Moves s .decide
  | perform {command : Command} (hp : s.pending = command :: (s.step .perform).pending)
      (router : (s.step .perform).broker.router = s.broker.router)
      (events : (s.step .perform).broker.events = s.broker.events) : Moves s .perform

/-- A step moves in one of these ways. -/
theorem moves (hr : s.broker.isRunning = true) (a : Step) : s.Moves a := by
  cases a with
  | openConnection =>
    have hstep := Broker.openConnection_eq hr
    exact .queue rfl (by rw [step, hstep]) (by rw [step, hstep]) rfl
  | packet d p | close d =>
    exact .queue rfl (by rw [step, Broker.accept_eq hr]) (by rw [step, Broker.accept_eq hr]) rfl
  | receive d n | detach d => exact .leave rfl rfl rfl
  | decide =>
    rcases decide_cases s with heq | ⟨event, events, hp, he, heq⟩
    · exact .leave (by rw [heq]) (by rw [heq]) (by rw [heq])
    · exact .decide hp (by rw [heq, he]) (by rw [heq]) (by rw [heq])
  | perform =>
    rcases perform_cases s with ⟨-, heq⟩ | ⟨command, rest, hp, heq⟩
    · exact .leave (by rw [heq]) (by rw [heq]) (by rw [heq])
    · exact .perform (by rw [heq, hp]) (by rw [heq]) (by rw [heq])

lemma queues_eq_opened_iff : s.queues a = some (.opened c) ↔ s.Opens c a := by
  cases a <;> simp [queues, Opens]

lemma queues_eq_closed_iff : s.queues a = some (.closed c) ↔ a = .close c := by
  cases a <;> simp [queues]

/-! ### Identifiers -/

/-- `k` connections were opened, and have the first `k` identifiers. -/
structure Numbered (k : Nat) (s : Actor) : Prop where
  upcoming : s.broker.ids.upcoming.value = UInt64.ofNat (k + 1)
  le : ∀ c, s.broker.outbox? c ≠ none → c.value.toNat ≤ k

lemma numbered_new {check : CredentialCheck} {maxQoS : QoS} : (new check maxQoS).Numbered 0 :=
  ⟨rfl, fun _ h => absurd rfl h⟩

/-- Identifiers are not handed out again before all of them were. -/
lemma Numbered.outbox?_eq_none (h : s.Numbered k) (hk : k + 1 < 2 ^ 64) (ho : s.Opens c a) :
    s.broker.outbox? c = none := by
  by_contra hne
  have hle := h.le c hne
  rw [← ho.2, h.upcoming, UInt64.toNat_ofNat_of_lt' hk] at hle
  omega

lemma ids_step (ha : a ≠ .openConnection) : (s.step a).broker.ids = s.broker.ids := by
  cases a with
  | openConnection => exact absurd rfl ha
  | packet d p | close d =>
    rw [step, Broker.accept]
    split <;> rename_i h
    · rw [Broker.submit.eq_def] at h
      split at h <;> cases h
      rfl
    · rfl
  | receive d n | detach d => rfl
  | decide | perform =>
    rw [step]
    split <;> rfl

lemma Numbered.step (h : s.Numbered k) (hr : s.broker.isRunning = true) :
    (s.step a).Numbered (k + if a = .openConnection then 1 else 0) := by
  by_cases ha : a = .openConnection
  · subst ha
    rw [if_pos rfl]
    refine ⟨?_, fun c hc => ?_⟩
    · rw [Actor.step, Broker.openConnection_eq hr]
      change s.broker.ids.upcoming.value + 1 = _
      rw [h.upcoming, ← UInt64.ofNat_one, ← UInt64.ofNat_add]
    · by_cases ho : s.Opens c .openConnection
      · rw [← ho.2, h.upcoming]
        exact Nat.mod_le ..
      · rw [outbox?_step ho] at hc
        have hle := h.le c fun hn => hc (by rw [hn]; rfl)
        omega
  · rw [if_neg ha]
    refine ⟨by rw [ids_step ha]; exact h.upcoming, fun c hc => ?_⟩
    rw [outbox?_step fun ho => ha ho.1] at hc
    exact h.le c fun hn => hc (by rw [hn]; rfl)

/-! ### Connections to which nothing is sent -/

/-- Nothing is on its way to `c`, and nothing will be until `c` is opened. -/
structure Quiet (c : ConnectionId) (s : Actor) : Prop where
  ignored : s.broker.router.Ignores c
  unannounced : .opened c ∉ s.broker.events
  silent : ∀ t, .transmit t ∈ s.pending → t.connection ≠ c

/-- What the events queued, the router and the outboxes have to do with `c` fits together. -/
structure Regular (c : ConnectionId) (s : Actor) : Prop where
  running : s.broker.isRunning = true
  wellFormed : s.broker.router.subscriptions.WellFormed
  settled : s.broker.router.Settled c
  opensOnce : s.broker.router.OpensOnce c s.broker.events
  /-- Before it has an outbox nobody knows of `c`. -/
  unopened : s.broker.outbox? c = none → s.broker.router.phase c = none ∧ s.Quiet c

lemma regular_new {check : CredentialCheck} {maxQoS : QoS} : (new check maxQoS).Regular c where
  running := rfl
  wellFormed := Subscriptions.wellFormed_empty
  settled := Router.settled_of_reachable .new c
  opensOnce := Router.opensOnce_new (Nat.zero_le 1)
  unopened _ := ⟨rfl, .inl rfl, List.not_mem_nil, fun _ ht => absurd ht List.not_mem_nil⟩

/-- The router ignores `c`, and no opening of `c` is waiting to be handled. -/
structure Barred (c : ConnectionId) (s : Actor) : Prop where
  ignored : s.broker.router.Ignores c
  unannounced : .opened c ∉ s.broker.events

lemma Quiet.barred (h : s.Quiet c) : s.Barred c := ⟨h.ignored, h.unannounced⟩

/-- Only by opening `c` its opening comes to be announced. -/
lemma unannounced_step (hr : s.broker.isRunning = true) (ho : ¬ s.Opens c a)
    (h : .opened c ∉ s.broker.events) : .opened c ∉ (s.step a).broker.events := by
  cases moves hr a with
  | queue hq hrouter hevents hpending =>
    rw [hevents, List.mem_append, List.mem_singleton, not_or]
    refine ⟨h, ?_⟩
    rintro rfl
    exact ho (queues_eq_opened_iff.mp hq)
  | leave hrouter hevents hpending | perform hp hrouter hevents => rwa [hevents]
  | decide hp he hrouter hpending =>
    rw [he] at h
    exact fun hm => h (List.mem_cons_of_mem _ hm)

lemma Barred.step (hb : s.Barred c) (hr : s.broker.isRunning = true) (ho : ¬ s.Opens c a) :
    (s.step a).Barred c := by
  refine ⟨?_, unannounced_step hr ho hb.unannounced⟩
  cases moves hr a with
  | queue hq hrouter | leave hrouter | perform hp hrouter =>
    rw [hrouter]
    exact hb.ignored
  | decide hp he hrouter =>
    rw [hrouter]
    refine (Router.turn_step ..).ignores hb.ignored fun heq => hb.unannounced ?_
    rw [he, heq]
    exact List.mem_cons_self

/-- Nothing is sent to whom the router ignores, until it is opened. -/
theorem Quiet.step (hq : s.Quiet c) (h : s.Regular c) (ho : ¬ s.Opens c a) :
    (s.step a).Quiet c := by
  obtain ⟨hignored, hunannounced⟩ := hq.barred.step h.running ho
  refine ⟨hignored, hunannounced, ?_⟩
  cases moves h.running a with
  | queue hq' hrouter hevents hpending | leave hrouter hevents hpending =>
    rw [hpending]
    exact hq.silent
  | decide hp he hrouter hpending =>
    rintro t ht rfl
    rw [hpending] at ht
    have hout := Command.transmit_mem_ofEvent ht
    rw [(Router.turn_step ..).output_of_ignores h.wellFormed h.settled hq.ignored] at hout
    cases hout
  | perform hp =>
    refine fun t ht => hq.silent t ?_
    rw [hp]
    exact List.mem_cons_of_mem _ ht

lemma phase_eq_none_step (hr : s.broker.isRunning = true) (ho : .opened c ∉ s.broker.events)
    (hp : s.broker.router.phase c = none) : (s.step a).broker.router.phase c = none := by
  cases moves hr a with
  | queue hq hrouter | leave hrouter | perform hpending hrouter => rwa [hrouter]
  | decide hpending he hrouter =>
    rw [hrouter]
    refine (Router.turn_step ..).phase_eq_none hp fun heq => ho ?_
    rw [he, heq]
    exact List.mem_cons_self

theorem Regular.step (h : s.Regular c) (hnew : s.Opens c a → s.broker.outbox? c = none) :
    (s.step a).Regular c := by
  have hrunning := isRunning_step (a := a) h.running
  have hunopened : (s.step a).broker.outbox? c = none →
      (s.step a).broker.router.phase c = none ∧ (s.step a).Quiet c := by
    intro hnone
    obtain ⟨ho, hold⟩ := outbox?_eq_none_step h.running hnone
    obtain ⟨hp, hq⟩ := h.unopened hold
    exact ⟨phase_eq_none_step h.running hq.unannounced hp, hq.step h ho⟩
  cases moves h.running a with
  | queue hq hrouter hevents =>
    refine ⟨hrunning, ?_, ?_, ?_, hunopened⟩ <;> rw [hrouter]
    · exact h.wellFormed
    · exact h.settled
    · rw [hevents]
      refine h.opensOnce.concat fun ho => ?_
      rw [ho] at hq
      obtain ⟨hp, hq⟩ := h.unopened (hnew (queues_eq_opened_iff.mp hq))
      exact ⟨hp, hq.unannounced⟩
  | leave hrouter hevents | perform hp hrouter hevents =>
    refine ⟨hrunning, ?_, ?_, ?_, hunopened⟩ <;> rw [hrouter]
    · exact h.wellFormed
    · exact h.settled
    · rw [hevents]
      exact h.opensOnce
  | @decide event hp he hrouter =>
    have turn := Router.turn_step s.broker.router event
    have honce := h.opensOnce
    rw [he] at honce
    refine ⟨hrunning, ?_, ?_, ?_, hunopened⟩ <;> rw [hrouter]
    · exact turn.wellFormed h.wellFormed
    · exact turn.settled h.wellFormed h.settled honce.phase_eq_none
    · exact honce.tail turn

/-! ### Runs -/

/-- `c` is in order in `s`, and the steps do not use up the identifiers. -/
structure Proceeds (c : ConnectionId) (s : Actor) (steps : List Step) : Prop where
  regular : s.Regular c
  numbered : ∃ k, s.Numbered k ∧ k + steps.count .openConnection < 2 ^ 64

lemma proceeds_new {check : CredentialCheck} {maxQoS : QoS}
    (h : steps.count .openConnection < 2 ^ 64) : (new check maxQoS).Proceeds c steps :=
  ⟨regular_new, 0, numbered_new, by rwa [Nat.zero_add]⟩

/-- Whoever is opened has not been known before. -/
lemma Proceeds.outbox?_eq_none (h : s.Proceeds c (a :: steps)) (ho : s.Opens c a) :
    s.broker.outbox? c = none := by
  obtain ⟨k, hk, hlt⟩ := h.numbered
  refine hk.outbox?_eq_none ?_ ho
  rw [ho.1, List.count_cons_self] at hlt
  omega

lemma Proceeds.not_opens {box : Outbox} (h : s.Proceeds c (a :: steps))
    (hbox : s.broker.outbox? c = some box) : ¬ s.Opens c a := by
  intro ho
  rw [h.outbox?_eq_none ho] at hbox
  cases hbox

lemma Proceeds.tail (h : s.Proceeds c (a :: steps)) : (s.step a).Proceeds c steps := by
  obtain ⟨k, hk, hlt⟩ := h.numbered
  refine ⟨h.regular.step h.outbox?_eq_none, _, hk.step h.regular.running, ?_⟩
  simp only [List.count_cons, beq_iff_eq] at hlt
  omega

lemma Proceeds.run {before after : List Step} (h : s.Proceeds c (before ++ after)) :
    (s.run before).Proceeds c after := by
  induction before generalizing s with
  | nil => exact h
  | cons a before ih => exact ih h.tail

/-- None of the steps meets `P` where it is taken. -/
def Never (P : Actor → Step → Prop) (s : Actor) (steps : List Step) : Prop :=
  ∀ before a after, steps = before ++ a :: after → ¬ P (s.run before) a

lemma never_cons_iff {P : Actor → Step → Prop} :
    Never P s (a :: steps) ↔ ¬ P s a ∧ Never P (s.step a) steps := by
  constructor
  · intro h
    refine ⟨h [] a steps rfl, ?_⟩
    rintro before b after rfl
    exact h (a :: before) b after rfl
  · rintro ⟨hhead, htail⟩ (_ | ⟨b, before⟩) d after heq <;> cases heq
    · exact hhead
    · exact htail before d after rfl

lemma Never.head {P : Actor → Step → Prop} (h : Never P s (a :: steps)) : ¬ P s a :=
  (never_cons_iff.mp h).1

lemma Never.tail {P : Actor → Step → Prop} (h : Never P s (a :: steps)) :
    Never P (s.step a) steps := (never_cons_iff.mp h).2

instance decidableNever {P : Actor → Step → Prop} [∀ s a, Decidable (P s a)] (s : Actor) :
    (steps : List Step) → Decidable (Never P s steps)
  | []         => .isTrue fun before _ _ h => by cases before <;> cases h
  | a :: steps =>
    have := decidableNever (P := P) (s.step a) steps
    decidable_of_iff (¬ P s a ∧ Never P (s.step a) steps) never_cons_iff.symm

end Actor

end Mqtt
