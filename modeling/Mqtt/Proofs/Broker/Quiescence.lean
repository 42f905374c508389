import Mqtt.Proofs.Broker.Hub

/-!
# Running to quiescence

Between two doings of its clients a hub runs by itself until nothing moves (`Hub.Settles`). It may
do so in many ways. That there is one at all is shown here for a hub with a single client
(`Hub.exists_settles`): let the session submit what it has, let the router work, and then let the
session empty its outbox.
-/

namespace Mqtt

namespace Actor

variable {s : Actor} {c : ConnectionId}

lemma queued_step_receive (n : Nat) :
    (s.step (.receive c n)).queued c = (s.queued c).drop n := by
  have hbox : (s.step (.receive c n)).broker.outbox? c =
      (s.broker.outbox? c).map (Outbox.discard n) := Roster.find?_modify_self ..
  rw [queued, queued, hbox]
  cases s.broker.outbox? c with
  | none => exact List.drop_nil.symm
  | some box => rfl

end Actor

namespace Hub

variable {hub hub' : Hub} {a : Step} {steps : List Step} {st : Station} {c : ConnectionId}

/-- Whether the router or a session takes the step; the others are up to the clients. -/
def Step.isInternal : Step → Bool
  | .connect | .move _ (.write _) | .move _ .endOfStream => false
  | _                                                    => true

/-- Whether the router takes the step, or a session that does not look at its outbox. -/
def Step.isBusy : Step → Bool
  | .decide | .perform | .move _ .submit | .move _ (.read _) => true
  | _                                                        => false

lemma Step.isInternal_of_isBusy (h : a.isBusy = true) : a.isInternal = true := by
  cases a with
  | connect => cases h
  | move i m => cases m <;> first | rfl | cases h
  | decide | perform => rfl

lemma Step.ne_connect (ha : a.isInternal = true) : a ≠ .connect := by
  rintro rfl
  cases ha

/-- The router has nothing to do. Each session has submitted all it had to, and is over or waits,
with nothing to read, nothing in its outbox and an outbox that more may come into. -/
structure IsQuiescent (hub : Hub) : Prop where
  pending : hub.actor.pending = []
  events : hub.actor.broker.events = []
  outgoing : ∀ st ∈ hub.stations, st.outgoing = []
  waiting : ∀ st ∈ hub.stations, st.session.isEnded = false →
    st.unread = [] ∧ hub.actor.queued st.connection = [] ∧
      hub.actor.broker.isRegistered st.connection = true

/-- Running by itself until nothing moves, `hub` may become `hub'`. -/
def Settles (hub hub' : Hub) : Prop :=
  hub'.IsQuiescent ∧ ∃ steps : List Step, (∀ a ∈ steps, a.isInternal = true) ∧ hub.run steps = hub'

lemma Settles.of_run (hi : ∀ a ∈ steps, a.isInternal = true)
    (h : (hub.run steps).Settles hub') : hub.Settles hub' := by
  obtain ⟨hquiescent, more, hmore, hrun⟩ := h
  refine ⟨hquiescent, steps ++ more, fun a ha => ?_, by rw [run_append, hrun]⟩
  rcases List.mem_append.mp ha with ha | ha
  · exact hi a ha
  · exact hmore a ha

lemma Settles.of_step (ha : a.isInternal = true) (h : (hub.step a).Settles hub') :
    hub.Settles hub' := by
  obtain ⟨hquiescent, steps, hsteps, hrun⟩ := h
  exact ⟨hquiescent, a :: steps, List.forall_mem_cons.mpr ⟨ha, hsteps⟩, hrun⟩

lemma step_move (hs : hub.stations = [st]) (m : Move) : hub.step (.move 0 m) =
    ⟨hub.actor.run (st.move hub.actor m).2.toList, [(st.move hub.actor m).1]⟩ := by
  simp [step, acts, stationsAfter, hs]

lemma count_connect_eq_zero (h : ∀ a ∈ steps, a.isInternal = true) : steps.count .connect = 0 :=
  List.count_eq_zero.mpr fun hmem => Step.ne_connect (h _ hmem) rfl

lemma connections_step (ha : a ≠ .connect) : (hub.step a).connections = hub.connections := by
  cases a with
  | connect => exact absurd rfl ha
  | decide | perform => rfl
  | move i m =>
    rw [connections, Hub.step, stationsAfter]
    split
    · rfl
    · rename_i st hi
      exact map_connection_set hi (st.moved_move hub.actor m).connection_eq

lemma connections_run (h : ∀ a ∈ steps, a.isInternal = true) :
    (hub.run steps).connections = hub.connections := by
  induction steps generalizing hub with
  | nil => rfl
  | cons a steps ih =>
    obtain ⟨ha, hrest⟩ := List.forall_mem_cons.mp h
    exact (ih hrest).trans (connections_step (Step.ne_connect ha))

/-! ### Busy steps -/

/-- By busy steps alone `hub` may become `hub'`. -/
def Works (hub hub' : Hub) : Prop :=
  ∃ steps : List Step, (∀ a ∈ steps, a.isBusy = true) ∧ hub.run steps = hub'

lemma Works.refl (hub : Hub) : hub.Works hub := ⟨[], by simp, rfl⟩

lemma Works.step (ha : a.isBusy = true) (h : (hub.step a).Works hub') :
    hub.Works hub' := by
  obtain ⟨steps, hsteps, rfl⟩ := h
  exact ⟨a :: steps, List.forall_mem_cons.mpr ⟨ha, hsteps⟩, rfl⟩

lemma Works.trans {hub'' : Hub} (h : hub.Works hub') (h' : hub'.Works hub'') :
    hub.Works hub'' := by
  obtain ⟨steps, hsteps, rfl⟩ := h
  obtain ⟨more, hmore, rfl⟩ := h'
  refine ⟨steps ++ more, fun a ha => ?_, run_append ..⟩
  rcases List.mem_append.mp ha with ha | ha
  · exact hsteps a ha
  · exact hmore a ha

lemma Works.settles {hub'' : Hub} (h : hub.Works hub') (h' : hub'.Settles hub'') :
    hub.Settles hub'' := by
  obtain ⟨steps, hsteps, rfl⟩ := h
  exact h'.of_run fun a ha => Step.isInternal_of_isBusy (hsteps a ha)

lemma exists_submitted (hs : hub.stations = [st]) :
    ∃ hub', hub.Works hub' ∧ hub'.stations = [{ st with outgoing := [] }] := by
  induction ho : st.outgoing generalizing hub st with
  | nil => exact ⟨hub, .refl hub, by rw [hs, ← ho]⟩
  | cons event rest ih =>
    have hstations : (hub.step (.move 0 .submit)).stations = [{ st with outgoing := rest }] := by
      simp only [step_move hs, Station.move, ho]
    obtain ⟨hub', hworks, hs'⟩ := ih hstations rfl
    exact ⟨hub', .step rfl hworks, hs'⟩

lemma exists_performed (hub : Hub) : ∃ hub', hub.Works hub' ∧ hub'.stations = hub.stations ∧
    hub'.actor.pending = [] ∧ hub'.actor.broker.events = hub.actor.broker.events := by
  induction hp : hub.actor.pending generalizing hub with
  | nil => exact ⟨hub, .refl hub, rfl, hp, rfl⟩
  | cons command rest ih =>
    have hactor : (hub.step .perform).actor =
        ⟨{ hub.actor.broker with outboxes := command.apply hub.actor.broker.outboxes }, rest⟩ := by
      change hub.actor.step .perform = _
      rw [Actor.step, hp]
    obtain ⟨hub', hworks, hs, hpending, hevents⟩ := ih (hub.step .perform) (by rw [hactor])
    exact ⟨hub', .step rfl hworks, hs, hpending, hevents.trans (by rw [hactor])⟩

lemma exists_idle (hub : Hub) : ∃ hub', hub.Works hub' ∧ hub'.stations = hub.stations ∧
    hub'.actor.pending = [] ∧ hub'.actor.broker.events = [] := by
  induction he : hub.actor.broker.events generalizing hub with
  | nil =>
    obtain ⟨hub', hworks, hs, hpending, hevents⟩ := exists_performed hub
    exact ⟨hub', hworks, hs, hpending, hevents.trans he⟩
  | cons event events ih =>
    obtain ⟨hub₁, hworks, hs, hpending, hevents⟩ := exists_performed hub
    have hactor : (hub₁.step .decide).actor = hub₁.actor.step .decide := rfl
    rw [Actor.step_decide hpending (hevents.trans he)] at hactor
    obtain ⟨hub', hworks', hs', hidle⟩ := ih (hub₁.step .decide) (by rw [hactor])
    exact ⟨hub', hworks.trans (.step rfl hworks'), hs'.trans hs, hidle⟩

/-- Nothing is left to do but to look at the outbox of the session. -/
structure Exhausted (hub : Hub) (st : Station) : Prop where
  stations : hub.stations = [st]
  pending : hub.actor.pending = []
  events : hub.actor.broker.events = []
  outgoing : st.outgoing = []
  unread : st.session.isEnded = false → st.unread = []

/-- A session that waits reads and submits all there is, and then the router does its work. -/
lemma exists_exhausted_of_isWaiting (hs : hub.stations = [st]) (hw : st.IsWaiting) :
    ∃ hub', hub.Works hub' ∧
      hub'.Exhausted { st.readSome st.unread.length with outgoing := [] } := by
  have hread : (hub.step (.move 0 (.read st.unread.length))).stations =
      [st.readSome st.unread.length] := by
    simp only [step_move hs, Station.move, if_pos hw]
  obtain ⟨hub₁, hworks₁, hs₁⟩ := exists_submitted hread
  obtain ⟨hub', hworks, hs', hpending, hevents⟩ := exists_idle hub₁
  exact ⟨hub', .step rfl (hworks₁.trans hworks), hs'.trans hs₁, hpending, hevents, rfl, fun _ =>
    List.drop_length ..⟩

/-- The session submits what it is about to submit, reads if it goes on, and the router does its
work. -/
lemma exists_exhausted (hs : hub.stations = [st]) : ∃ hub' st', hub.Works hub' ∧
    hub'.Exhausted st' ∧ (st.session.isEnded = true → st'.session.isEnded = true) := by
  obtain ⟨hub₁, hworks₁, hs₁⟩ := exists_submitted hs
  by_cases he : st.session.isEnded = true
  · obtain ⟨hub', hworks, hs', hpending, hevents⟩ := exists_idle hub₁
    refine ⟨hub', _, hworks₁.trans hworks, ⟨hs'.trans hs₁, hpending, hevents, rfl, ?_⟩, fun _ => he⟩
    intro hnot
    rw [he] at hnot
    cases hnot
  · obtain ⟨hub', hworks, hexhausted⟩ :=
      exists_exhausted_of_isWaiting hs₁ ⟨rfl, Bool.eq_false_iff.mpr he⟩
    exact ⟨hub', _, hworks₁.trans hworks, hexhausted, fun hended => absurd hended he⟩

/-! ### Quiescence -/

lemma Exhausted.isQuiescent (h : hub.Exhausted st) (hw : st.session.isEnded = false →
    hub.actor.queued st.connection = [] ∧ hub.actor.broker.isRegistered st.connection = true) :
    hub.IsQuiescent where
  pending := h.pending
  events := h.events
  outgoing st' hst := by
    rw [h.stations, List.mem_singleton] at hst
    rw [hst, h.outgoing]
  waiting st' hst he := by
    rw [h.stations, List.mem_singleton] at hst
    subst hst
    exact ⟨h.unread he, hw he⟩

/-- Once the session is over, there is nothing to look at any more. -/
lemma exists_settles_of_isEnded (hs : hub.stations = [st]) (he : st.session.isEnded = true) :
    ∃ hub', hub.Settles hub' := by
  obtain ⟨hub', st', hworks, hexhausted, hended⟩ := exists_exhausted hs
  refine ⟨hub', hworks.settles ⟨hexhausted.isQuiescent fun hnot => ?_, [], by simp, rfl⟩⟩
  rw [hended he] at hnot
  cases hnot

lemma exists_settles_of_exhausted (h : hub.Exhausted st) : ∃ hub', hub.Settles hub' := by
  induction hq : hub.actor.queued st.connection generalizing hub st with
  | nil =>
    by_cases hdone : st.session.isEnded = true ∨
        hub.actor.broker.isRegistered st.connection = true
    · refine ⟨hub, h.isQuiescent fun he => ⟨hq, hdone.resolve_left ?_⟩, [], by simp, rfl⟩
      simp [he]
    · rw [not_or] at hdone
      have hw : st.IsWaiting := ⟨h.outgoing, Bool.eq_false_iff.mpr hdone.1⟩
      have htake : (hub.step (.move 0 .take)).stations = [st.finish] := by
        simp only [step_move h.stations, Station.move, if_pos hw, hq, if_neg hdone.2,
          Station.react_endOfOutbox hw.2]
      obtain ⟨hub', hsettles⟩ := exists_settles_of_isEnded htake rfl
      exact ⟨hub', hsettles.of_step rfl⟩
  | cons item rest ih =>
    by_cases he : st.session.isEnded = true
    · exact exists_settles_of_isEnded h.stations he
    · have hw : st.IsWaiting := ⟨h.outgoing, Bool.eq_false_iff.mpr he⟩
      have htake : hub.step (.move 0 .take) =
          ⟨hub.actor.step (.receive st.connection 1), [st.react (.outbound item)]⟩ := by
        simp only [step_move h.stations, Station.move, if_pos hw, hq]
        rfl
      obtain ⟨hub', hsettles⟩ : ∃ hub', (hub.step (.move 0 .take)).Settles hub' := by
        cases item with
        | close =>
          rw [Station.react_close hw.2] at htake
          have hstations : (hub.step (.move 0 .take)).stations = [st.finish] := by rw [htake]
          exact exists_settles_of_isEnded hstations rfl
        | packet bytes =>
          rw [Station.react_packet hw.2] at htake
          have hexhausted : (hub.step (.move 0 .take)).Exhausted
              { st with written := st.written ++ bytes } := by
            rw [htake]
            exact ⟨rfl, h.pending, h.events, h.outgoing, h.unread⟩
          refine ih hexhausted ?_
          rw [htake]
          exact (Actor.queued_step_receive 1).trans (congrArg (List.drop 1) hq)
      exact ⟨hub', hsettles.of_step rfl⟩

theorem exists_settles (hs : hub.stations = [st]) : ∃ hub', hub.Settles hub' := by
  obtain ⟨hub₁, st₁, hworks, hexhausted, -⟩ := exists_exhausted hs
  obtain ⟨hub', hsettles⟩ := exists_settles_of_exhausted hexhausted
  exact ⟨hub', hworks.settles hsettles⟩

lemma exists_settles_of_connections (h : hub.connections = [c]) :
    ∃ hub', hub.Settles hub' ∧ hub'.connections = [c] := by
  obtain ⟨st, hs, -⟩ := List.map_eq_singleton_iff.mp h
  obtain ⟨hub', hquiescent, steps, hsteps, hrun⟩ := exists_settles hs
  refine ⟨hub', ⟨hquiescent, steps, hsteps, hrun⟩, ?_⟩
  rw [← hrun, connections_run hsteps, h]

end Hub

end Mqtt
