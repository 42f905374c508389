import Mqtt.Proofs.Broker.Actor

/-!
# Slow clients

A client that does not empty its outbox, lets it overflow or drops it altogether has no influence on
the other ones. The router never looks at an outbox, and what becomes of an outbox depends on
nothing but what it holds and what the router sends to it. So two runs that differ only in what the
other clients do with their outboxes (`Broker.Step.concerns`) look the same to a connection all
along (`Broker.SameFor`), and whenever it empties its own one it gets the same
(`Broker.drained_congr`).
-/

namespace Mqtt

namespace Broker

variable {b b' b'' : Broker} {c d : ConnectionId}

/-! ### Steps that are handled one by one -/

/-- What may happen to a broker. -/
inductive Step where
  | openConnection
  | packet (c : ConnectionId) (packet : Packet)
  | close (c : ConnectionId)
  | receive (c : ConnectionId)
  | detach (c : ConnectionId)
deriving DecidableEq

/-- Take a step, and let the broker catch up. -/
def step (b : Broker) : Step → Broker
  | .openConnection  => b.openConnection.1.settle
  | .packet c packet => (b.accept (.packet c packet)).settle
  | .close c         => (b.accept (.closed c)).settle
  | .receive c       => (b.receive c).1
  | .detach c        => b.detach c

/-- Take steps in order. -/
def run (b : Broker) : List Step → Broker
  | []            => b
  | step :: steps => (b.step step).run steps

/-- What `c` gets when it empties its outbox by this step. -/
def drainedAt (c : ConnectionId) (b : Broker) : Step → List Drained
  | .receive d => if d = c then [(b.receive c).2] else []
  | _          => []

/-- What `c` gets, each time that it empties its outbox. -/
def drained (c : ConnectionId) (b : Broker) : List Step → List Drained
  | []            => []
  | step :: steps => b.drainedAt c step ++ (b.step step).drained c steps

/-- Whether a step is more than what another connection than `c` does with its outbox. -/
def Step.concerns (c : ConnectionId) : Step → Bool
  | .receive d | .detach d => d = c
  | _                      => true

variable {a : Step} {steps : List Step}

/-! ### One outbox among others -/

section Outboxes

variable {boxes boxes' : Roster Outbox}

lemma find?_set_congr (h : boxes.find? c = boxes'.find? c) (box : Outbox) :
    (boxes.set d box).find? c = (boxes'.set d box).find? c := by
  by_cases hd : c = d
  · rw [hd, Roster.find?_set_self, Roster.find?_set_self]
  · rw [Roster.find?_set_of_ne hd, Roster.find?_set_of_ne hd, h]

lemma find?_modify_congr (h : boxes.find? c = boxes'.find? c) (f : Outbox → Outbox) :
    (boxes.modify d f).find? c = (boxes'.modify d f).find? c := by
  rw [Roster.find?_modify, Roster.find?_modify, h]

lemma find?_foldl_apply_congr (h : boxes.find? c = boxes'.find? c) (commands : List Command) :
    (commands.foldl Command.apply boxes).find? c =
      (commands.foldl Command.apply boxes').find? c := by
  induction commands generalizing boxes boxes' with
  | nil => exact h
  | cons command commands ih =>
    refine ih ?_
    rw [Command.find?_apply, Command.find?_apply, h]

end Outboxes

/-! ### Brokers that look the same -/

/-- The brokers differ in nothing but the outboxes of other connections than `c`. -/
structure SameFor (c : ConnectionId) (b b' : Broker) : Prop where
  router : b.router = b'.router
  ids : b.ids = b'.ids
  events : b.events = b'.events
  running : b.isRunning = b'.isRunning
  outbox : b.outbox? c = b'.outbox? c

lemma SameFor.refl (c : ConnectionId) (b : Broker) : SameFor c b b := ⟨rfl, rfl, rfl, rfl, rfl⟩

lemma SameFor.symm (h : SameFor c b b') : SameFor c b' b :=
  ⟨h.router.symm, h.ids.symm, h.events.symm, h.running.symm, h.outbox.symm⟩

lemma SameFor.trans (h : SameFor c b b') (h' : SameFor c b' b'') : SameFor c b b'' where
  router := h.router.trans h'.router
  ids := h.ids.trans h'.ids
  events := h.events.trans h'.events
  running := h.running.trans h'.running
  outbox := h.outbox.trans h'.outbox

lemma SameFor.handle (h : SameFor c b b') (event : Event) :
    SameFor c (b.handle event) (b'.handle event) := by
  rw [handle_eq, handle_eq, h.router]
  exact ⟨rfl, h.ids, h.events, h.running, find?_foldl_apply_congr h.outbox _⟩

lemma SameFor.handleAll (h : SameFor c b b') (events : List Event) :
    SameFor c (events.foldl Broker.handle b) (events.foldl Broker.handle b') := by
  induction events generalizing b b' with
  | nil => exact h
  | cons event events ih => exact ih (h.handle event)

lemma SameFor.settle (h : SameFor c b b') : SameFor c b.settle b'.settle := by
  have hempty : SameFor c { b with events := [] } { b' with events := [] } :=
    ⟨h.router, h.ids, rfl, h.running, h.outbox⟩
  rw [Broker.settle, Broker.settle, h.events]
  exact hempty.handleAll b'.events

lemma SameFor.accept (h : SameFor c b b') (event : Event) :
    SameFor c (b.accept event) (b'.accept event) := by
  cases hr : b'.isRunning with
  | true =>
    rw [accept_eq hr, accept_eq (h.running.trans hr)]
    exact ⟨h.router, h.ids, congrArg (· ++ [event]) h.events, h.running, h.outbox⟩
  | false =>
    have hr' : b.isRunning = false := h.running.trans hr
    simpa [Broker.accept, submit, hr, hr'] using h

lemma SameFor.openConnection (h : SameFor c b b') :
    SameFor c b.openConnection.1 b'.openConnection.1 := by
  cases hr : b'.isRunning with
  | true =>
    rw [openConnection_eq hr, openConnection_eq (h.running.trans hr), h.ids, h.events]
    exact ⟨h.router, rfl, rfl, h.running, find?_set_congr h.outbox _⟩
  | false =>
    have hr' : b.isRunning = false := h.running.trans hr
    simp only [Broker.openConnection, submit, hr, hr', h.ids]
    exact ⟨h.router, rfl, h.events, rfl, find?_set_congr h.outbox _⟩

lemma SameFor.receive (h : SameFor c b b') (d : ConnectionId) :
    SameFor c (b.receive d).1 (b'.receive d).1 := by
  rw [receive_fst, receive_fst]
  exact ⟨h.router, h.ids, h.events, h.running, find?_modify_congr h.outbox _⟩

lemma SameFor.detach (h : SameFor c b b') (d : ConnectionId) :
    SameFor c (b.detach d) (b'.detach d) :=
  ⟨h.router, h.ids, h.events, h.running, find?_modify_congr h.outbox _⟩

/-- Brokers that look the same to `c` do so after every step. -/
theorem SameFor.step (h : SameFor c b b') (a : Step) : SameFor c (b.step a) (b'.step a) := by
  cases a with
  | openConnection => exact h.openConnection.settle
  | packet d p | close d => exact (h.accept _).settle
  | receive d => exact h.receive d
  | detach d => exact h.detach d

/-- What others do with their outboxes, `c` does not see. -/
lemma sameFor_step (ha : a.concerns c = false) : SameFor c (b.step a) b := by
  cases a with
  | openConnection | packet | close => cases ha
  | receive d =>
    have hd : d ≠ c := of_decide_eq_false ha
    rw [Broker.step, receive_fst]
    exact ⟨rfl, rfl, rfl, rfl, Roster.find?_modify_of_ne hd.symm ..⟩
  | detach d =>
    have hd : d ≠ c := of_decide_eq_false ha
    exact ⟨rfl, rfl, rfl, rfl, Roster.find?_modify_of_ne hd.symm ..⟩

lemma SameFor.drainedAt (h : SameFor c b b') (a : Step) :
    b.drainedAt c a = b'.drainedAt c a := by
  cases a with
  | receive d =>
    have hreceive : (b.receive c).2 = (b'.receive c).2 := by
      rw [Broker.receive, Broker.receive, h.outbox]
      split <;> rfl
    rw [Broker.drainedAt, Broker.drainedAt, hreceive]
  | openConnection | packet | close | detach => rfl

lemma drainedAt_of_not_concerns (ha : a.concerns c = false) : b.drainedAt c a = [] := by
  cases a with
  | receive d => exact if_neg (of_decide_eq_false ha)
  | openConnection | packet | close | detach => rfl

/-! ### Runs that look the same -/

/-- Leaving out what the others do with their outboxes makes no difference to `c`. -/
theorem SameFor.run_filter (h : SameFor c b b') (steps : List Step) :
    b.drained c steps = b'.drained c (steps.filter (Step.concerns c)) ∧
      SameFor c (b.run steps) (b'.run (steps.filter (Step.concerns c))) := by
  induction steps generalizing b b' with
  | nil => exact ⟨rfl, h⟩
  | cons a steps ih =>
    cases ha : a.concerns c with
    | true =>
      obtain ⟨hdrained, hrun⟩ := ih (h.step a)
      rw [List.filter_cons_of_pos ha, drained, drained, h.drainedAt, hdrained]
      exact ⟨rfl, hrun⟩
    | false =>
      obtain ⟨hdrained, hrun⟩ := ih ((sameFor_step ha).trans h)
      rw [List.filter_cons_of_neg (by simp [ha]), drained, drainedAt_of_not_concerns ha, hdrained]
      exact ⟨rfl, hrun⟩

/-- Whatever the others do with their outboxes, and whenever they do it, `c` gets the same each time
that it empties its own one, and is told of its end at the same time. -/
theorem drained_congr (b : Broker) (c : ConnectionId) {steps steps' : List Step}
    (h : steps.filter (Step.concerns c) = steps'.filter (Step.concerns c)) :
    b.drained c steps = b.drained c steps' ∧ SameFor c (b.run steps) (b.run steps') := by
  obtain ⟨hdrained, hrun⟩ := (SameFor.refl c b).run_filter steps
  obtain ⟨hdrained', hrun'⟩ := (SameFor.refl c b).run_filter steps'
  rw [hdrained, hdrained', h]
  rw [h] at hrun
  exact ⟨rfl, hrun.trans hrun'.symm⟩

/-- The second client takes what is forwarded to it, or drops its outbox at once; the first one gets
its own acknowledgement and copy of the message either way. -/
theorem drained_congr_two :
    let subscribe : Packet := .subscribe 7 [⟨"a", .atLeastOnce⟩]
    let publish : Packet := .publish "a" .atLeastOnce (some 5) [0xFF]
    let opening : List Step := [.openConnection, .packet ⟨1⟩ (ConnectRequest.new "x" 0).packet,
      .openConnection, .packet ⟨2⟩ (ConnectRequest.new "y" 0).packet]
    let steps : List Step := opening ++ [.packet ⟨2⟩ subscribe, .receive ⟨1⟩, .packet ⟨1⟩ subscribe,
      .receive ⟨2⟩, .packet ⟨1⟩ publish, .receive ⟨2⟩, .receive ⟨1⟩, .close ⟨1⟩, .receive ⟨1⟩]
    let steps' : List Step := opening ++ [.detach ⟨2⟩, .packet ⟨2⟩ subscribe, .receive ⟨1⟩,
      .packet ⟨1⟩ subscribe, .packet ⟨1⟩ publish, .receive ⟨1⟩, .receive ⟨2⟩, .close ⟨1⟩,
      .receive ⟨1⟩]
    let b := new .anyone .exactlyOnce
    steps.filter (Step.concerns ⟨1⟩) = steps'.filter (Step.concerns ⟨1⟩) ∧
      b.drained ⟨2⟩ steps ≠ b.drained ⟨2⟩ steps' ∧
      b.drained ⟨1⟩ steps = [⟨[.packet [0x20, 0x02, 0x00, 0x00]], false⟩,
        ⟨[.packet [0x90, 0x03, 0x00, 0x07, 0x01], .packet [0x40, 0x02, 0x00, 0x05],
          .packet [0x32, 0x06, 0x00, 0x01, 0x61, 0x00, 0x05, 0xFF]], false⟩, ⟨[], true⟩] ∧
      b.drained ⟨1⟩ steps = b.drained ⟨1⟩ steps' := by
  intro subscribe publish opening steps steps' b
  have h : steps.filter (Step.concerns ⟨1⟩) = steps'.filter (Step.concerns ⟨1⟩) := by decide
  exact ⟨h, by decide, by decide, (drained_congr b ⟨1⟩ h).1⟩

end Broker

end Mqtt
