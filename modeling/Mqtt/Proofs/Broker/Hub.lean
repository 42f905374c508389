import Mathlib.Data.List.Permutation
import Mqtt.Broker.Session
import Mqtt.Proofs.Broker.Queues
import Mqtt.Proofs.Stream.Chunking

/-!
# Sessions at work

An `Actor` lets anybody do anything at its queues. In a `Hub` the broker is at work with its
sessions, each of which is in the middle of its own work (`Station`): it waits for bytes of its
client or for an item in its outbox, takes whichever it finds, and submits what follows from it,
event by event, before it looks at either again. The runs of a hub are all the ways in which the
steps of clients, sessions and router may follow each other; the queue of events has no bound here,
so that these are at least the ways there are.

Whatever happens in between, what a session tells the broker is what a new decoder makes of the
bytes it has read, and what it tells its client is the beginning of what the router sends
(`Hub.faithful_of_connects`).
-/

namespace Mqtt

/-- The bytes that an item is written as. -/
def Outbound.wire : Outbound → Bytes
  | .packet bytes => bytes
  | .close        => []

/-- The step by which a session submits an event. No session submits an opening. -/
def Event.report : Event → Actor.Step
  | .opened _   => .openConnection
  | .packet c p => .packet c p
  | .closed c   => .close c

/-! ### Stations -/

/-- A session in the middle of its work, with all that has passed between it and its client. -/
structure Station where
  session : Session
  /-- Bytes that the client has written and the session has not read. -/
  unread : Bytes
  /-- Bytes that the session has read. -/
  read : Bytes
  /-- Bytes that the session has written. -/
  written : Bytes
  /-- Events that the session is about to submit. -/
  outgoing : List Event

/-- What may happen at a station. -/
inductive Move where
  /-- The client writes. -/
  | write (bytes : Bytes)
  /-- The session reads up to `n` bytes. -/
  | read (n : Nat)
  /-- The session finds that its client will write no more. -/
  | endOfStream
  /-- The session takes an item out of its outbox, or finds that no more will come. -/
  | take
  /-- The session submits the next of its events. -/
  | submit
  /-- The session, which is over, drops its outbox. -/
  | leave
deriving DecidableEq

namespace Station

/-- A session over a newly opened connection. -/
def new (c : ConnectionId) : Station := ⟨.new c, [], [], [], []⟩

/-- The connection that the session serves. -/
def connection (st : Station) : ConnectionId := st.session.connection

/-- The session waits for its client or its outbox. -/
def IsWaiting (st : Station) : Prop := st.outgoing = [] ∧ st.session.isEnded = false

instance (st : Station) : Decidable st.IsWaiting := inferInstanceAs (Decidable (_ ∧ _))

/-- Let the session react to an input. -/
def react (input : Session.Input) (st : Station) : Station :=
  let (session, reaction) := st.session.react input
  { st with
    session := session
    written := st.written ++ reaction.written
    outgoing := st.outgoing ++ reaction.events }

/-- Let the session read up to `n` bytes. -/
def readSome (n : Nat) (st : Station) : Station :=
  let st' := st.react (.chunk (st.unread.take n))
  { st' with unread := st.unread.drop n, read := st.read ++ st.unread.take n }

/-- Let something happen at a station, and tell the broker `s` of it. -/
def move (s : Actor) (st : Station) : Move → Station × Option Actor.Step
  | .write bytes => ({ st with unread := st.unread ++ bytes }, none)
  | .read n      => if st.IsWaiting then (st.readSome n, none) else (st, none)
  | .endOfStream =>
    if st.IsWaiting ∧ st.unread = [] then (st.react .endOfStream, none) else (st, none)
  | .take =>
    if st.IsWaiting then
      match s.queued st.connection with
      | item :: _ => (st.react (.outbound item), some (.receive st.connection 1))
      | []        =>
        if s.broker.isRegistered st.connection then (st, none) else (st.react .endOfOutbox, none)
    else (st, none)
  | .submit =>
    match st.outgoing with
    | []            => (st, none)
    | event :: rest => ({ st with outgoing := rest }, some event.report)
  | .leave =>
    if st.outgoing = [] ∧ st.session.isEnded = true then (st, some (.detach st.connection))
    else (st, none)

/-- What comes of a move at a station of the broker `s`: the station after it, and the step that the
broker takes. -/
inductive Moved (s : Actor) (st : Station) : Move → Station → Option Actor.Step → Prop where
  | idle (m : Move) : Moved s st m st none
  | write (bytes : Bytes) : Moved s st (.write bytes) { st with unread := st.unread ++ bytes } none
  | read (hw : st.IsWaiting) (n : Nat) : Moved s st (.read n) (st.readSome n) none
  | endOfStream (hw : st.IsWaiting) : Moved s st .endOfStream (st.react .endOfStream) none
  | take (hw : st.IsWaiting) {item : Outbound} {rest : List Outbound}
      (hq : s.queued st.connection = item :: rest) :
      Moved s st .take (st.react (.outbound item)) (some (.receive st.connection 1))
  | endOfOutbox (hw : st.IsWaiting) (hq : s.queued st.connection = [])
      (hr : s.broker.isRegistered st.connection = false) :
      Moved s st .take (st.react .endOfOutbox) none
  | submit {event : Event} {rest : List Event} (ho : st.outgoing = event :: rest) :
      Moved s st .submit { st with outgoing := rest } (some event.report)
  | leave (ho : st.outgoing = []) (he : st.session.isEnded = true) :
      Moved s st .leave st (some (.detach st.connection))

/-- A move is one of these. -/
theorem moved_move (s : Actor) (st : Station) (m : Move) :
    Moved s st m (st.move s m).1 (st.move s m).2 := by
  cases m with
  | write bytes => exact .write bytes
  | read n =>
    rw [move]
    split <;> rename_i hw
    · exact .read hw n
    · exact .idle _
  | endOfStream =>
    rw [move]
    split <;> rename_i hw
    · exact .endOfStream hw.1
    · exact .idle _
  | take =>
    rw [move]
    split <;> rename_i hw
    · split <;> rename_i hq
      · exact .take hw hq
      · split <;> rename_i hr
        · exact .idle _
        · exact .endOfOutbox hw hq (Bool.eq_false_iff.mpr hr)
    · exact .idle _
  | submit =>
    rw [move]
    split <;> rename_i ho
    · exact .idle _
    · exact .submit ho
  | leave =>
    rw [move]
    split <;> rename_i he
    · exact .leave he.1 he.2
    · exact .idle _

end Station

/-! ### Hubs -/

/-- A broker at work with its sessions. -/
structure Hub where
  actor : Actor
  stations : List Station

namespace Hub

/-- What may happen next. -/
inductive Step where
  /-- A client connects. -/
  | connect
  /-- Something happens at the station in place `i`. -/
  | move (i : Nat) (m : Move)
  /-- The router takes up the next event. -/
  | decide
  /-- The router carries out the next of its commands. -/
  | perform
deriving DecidableEq

/-- A broker to which nobody has connected. -/
def new (check : CredentialCheck) (maxQoS : QoS) : Hub := ⟨.new check maxQoS, []⟩

/-- The steps of the broker that make up a step. -/
def acts (hub : Hub) : Step → List Actor.Step
  | .connect  => [.openConnection]
  | .move i m =>
    match hub.stations[i]? with
    | none    => []
    | some st => (st.move hub.actor m).2.toList
  | .decide   => [.decide]
  | .perform  => [.perform]

/-- The stations after a step. -/
def stationsAfter (hub : Hub) : Step → List Station
  | .connect  => hub.stations ++ [.new hub.actor.broker.ids.upcoming]
  | .move i m =>
    match hub.stations[i]? with
    | none    => hub.stations
    | some st => hub.stations.set i (st.move hub.actor m).1
  | .decide | .perform => hub.stations

/-- Take a step. -/
def step (hub : Hub) (a : Step) : Hub := ⟨hub.actor.run (hub.acts a), hub.stationsAfter a⟩

/-- Take steps in order. -/
def run (hub : Hub) : List Step → Hub
  | []         => hub
  | a :: steps => (hub.step a).run steps

/-- The steps of the broker that make up a run. -/
def actsOf (hub : Hub) : List Step → List Actor.Step
  | []         => []
  | a :: steps => hub.acts a ++ (hub.step a).actsOf steps

lemma run_append (hub : Hub) (before after : List Step) :
    hub.run (before ++ after) = (hub.run before).run after := by
  induction before generalizing hub with
  | nil => rfl
  | cons a before ih => exact ih (hub.step a)

lemma actsOf_append (hub : Hub) (before after : List Step) :
    hub.actsOf (before ++ after) = hub.actsOf before ++ (hub.run before).actsOf after := by
  induction before generalizing hub with
  | nil => rfl
  | cons a before ih =>
    rw [List.cons_append, actsOf, ih, actsOf, run, List.append_assoc]

/-- To its broker a run of a hub is a run like any other. -/
lemma actor_run (hub : Hub) (steps : List Step) :
    (hub.run steps).actor = hub.actor.run (hub.actsOf steps) := by
  induction steps generalizing hub with
  | nil => rfl
  | cons a steps ih => rw [run, ih, actsOf, Actor.run_append, step]

/-- What holds of the steps of the broker that a step may be made up of holds along a run. -/
lemma forall_mem_actsOf {P : Actor.Step → Prop} {steps : List Step} (hub : Hub)
    (h : ∀ a ∈ steps, ∀ hub : Hub, ∀ act ∈ hub.acts a, P act) :
    ∀ act ∈ hub.actsOf steps, P act := by
  induction steps generalizing hub with
  | nil => exact fun act hact => absurd hact List.not_mem_nil
  | cons a steps ih =>
    obtain ⟨ha, hrest⟩ := List.forall_mem_cons.mp h
    exact List.forall_mem_append.mpr ⟨ha hub, ih (hub.step a) hrest⟩

end Hub

/-! ### What a station keeps to -/

namespace Actor

variable {s : Actor} {steps : List Step} {c : ConnectionId}

lemma takenAt_receive (n : Nat) : s.takenAt c (.receive c n) = (s.queued c).take n := by
  rw [takenAt, if_pos rfl, Broker.receiveSome, queued]
  cases s.broker.outbox? c with
  | none => exact List.take_nil.symm
  | some box => rfl

lemma isRunning_run (hr : s.broker.isRunning = true) :
    (s.run steps).broker.isRunning = true := by
  induction steps generalizing s with
  | nil => exact hr
  | cons a steps ih => exact ih (isRunning_step hr)

lemma outbox?_run_ne_none (hr : s.broker.isRunning = true) (h : s.broker.outbox? c ≠ none) :
    (s.run steps).broker.outbox? c ≠ none := by
  induction steps generalizing s with
  | nil => exact h
  | cons a steps ih => exact ih (isRunning_step hr) fun hnone => h (outbox?_eq_none_step hr hnone).2

/-- What has been submitted about `c`. -/
def submittedOf (c : ConnectionId) (s : Actor) (steps : List Step) : List Event :=
  (s.submitted steps).filter (·.connection = c)

lemma submittedOf_append (s : Actor) (before after : List Step) :
    s.submittedOf c (before ++ after) =
      s.submittedOf c before ++ (s.run before).submittedOf c after := by
  rw [submittedOf, submitted_append, List.filter_append]
  rfl

end Actor

lemma Session.connection_react (s : Session) (input : Input) :
    (s.react input).1.connection = s.connection := by
  rw [react.eq_def]
  split
  · rfl
  · cases input with
    | chunk bytes =>
      dsimp only
      split <;> rfl
    | outbound item => cases item <;> rfl
    | endOfStream | endOfOutbox => rfl

namespace Station

variable {s : Actor} {st st' : Station} {m : Move} {a : Option Actor.Step} {bs : Bytes}
  {reported : List Event} {taken : List Outbound}

/-- The session ends, and is about to report this. -/
def finish (st : Station) : Station :=
  { st with session.isEnded := true, outgoing := st.outgoing ++ [.closed st.connection] }

lemma react_endOfStream (he : st.session.isEnded = false) : st.react .endOfStream = st.finish := by
  simp [react, Session.react, Session.finish, he, finish, connection]

lemma react_endOfOutbox (he : st.session.isEnded = false) : st.react .endOfOutbox = st.finish := by
  simp [react, Session.react, Session.finish, he, finish, connection]

lemma react_close (he : st.session.isEnded = false) :
    st.react (.outbound .close) = st.finish := by
  simp [react, Session.react, Session.finish, he, finish, connection]

lemma react_packet (he : st.session.isEnded = false) :
    st.react (.outbound (.packet bs)) = { st with written := st.written ++ bs } := by
  simp [react, Session.react, he]

/-- The last event of a session: the end of its connection, once it has come. -/
def ending (st : Station) : List Event :=
  if st.session.isEnded then [.closed st.connection] else []

lemma react_chunk (he : st.session.isEnded = false) : st.react (.chunk bs) =
    { st with
      session := ⟨st.connection, (st.session.decoder.receive bs).decoder,
        (st.session.decoder.receive bs).error.isSome⟩
      outgoing := st.outgoing ++ ((st.session.decoder.receive bs).packets.map
        (.packet st.connection) ++ if (st.session.decoder.receive bs).error.isSome then
          [.closed st.connection] else []) } := by
  cases herror : (st.session.decoder.receive bs).error <;>
    simp [react, Session.react, Session.finish, he, connection, herror]

/-- What the session has reported since its connection was opened, and what it has taken out of its
outbox, fits what has passed between it and its client. -/
structure Keeps (st : Station) (reported : List Event) (taken : List Outbound) : Prop where
  decoder : st.session.decoder = (Decoder.new.receive st.read).decoder
  reported : reported ++ st.outgoing =
    (Decoder.new.receive st.read).packets.map (.packet st.connection) ++ st.ending
  written : st.written = taken.flatMap Outbound.wire
  malformed : (Decoder.new.receive st.read).error ≠ none → st.session.isEnded = true
  closed : .close ∈ taken → st.session.isEnded = true

lemma keeps_new (c : ConnectionId) : (new c).Keeps [] [] where
  decoder := by
    change Decoder.new = (Decoder.new.receive []).decoder
    rw [Decoder.settled_new]
  reported := by
    change [] = (Decoder.new.receive []).packets.map _ ++ []
    rw [Decoder.settled_new]
    rfl
  written := rfl
  malformed h := by
    change (Decoder.new.receive []).error ≠ none at h
    rw [Decoder.settled_new] at h
    exact absurd rfl h
  closed h := absurd h List.not_mem_nil

lemma Keeps.finish (h : st.Keeps reported taken) (hw : st.IsWaiting) {taken' : List Outbound}
    (ht : taken'.flatMap Outbound.wire = taken.flatMap Outbound.wire) :
    st.finish.Keeps reported taken' where
  decoder := h.decoder
  reported := by
    have hreported := h.reported
    rw [ending, if_neg (by simp [hw.2]), List.append_nil] at hreported
    change reported ++ (st.outgoing ++ [Event.closed st.connection]) = _
    rw [← List.append_assoc, hreported]
    rfl
  written := h.written.trans ht.symm
  malformed _ := rfl
  closed _ := rfl

lemma Keeps.packet (h : st.Keeps reported taken) :
    ({ st with written := st.written ++ bs } : Station).Keeps reported
      (taken ++ [.packet bs]) where
  decoder := h.decoder
  reported := h.reported
  written := by
    rw [List.flatMap_append, ← h.written, List.flatMap_singleton]
    rfl
  malformed := h.malformed
  closed hc := h.closed (by simpa using hc)

/-- A session that waits has met no error in what it has read. -/
lemma Keeps.error_eq_none (h : st.Keeps reported taken) (hw : st.IsWaiting) :
    (Decoder.new.receive st.read).error = none := by
  by_contra hne
  have hended := h.malformed hne
  rw [hw.2] at hended
  cases hended

lemma Keeps.readSome (h : st.Keeps reported taken) (hw : st.IsWaiting) (n : Nat) :
    (st.readSome n).Keeps reported taken := by
  have hsplits := Decoder.receive_append .new st.read (st.unread.take n)
  have herror := h.error_eq_none hw
  rw [Station.readSome, react_chunk hw.2, h.decoder]
  refine ⟨hsplits.decoder.symm, ?_, h.written, ?_, fun hc => ?_⟩
  · have hreported := h.reported
    rw [ending, if_neg (by simp [hw.2]), List.append_nil] at hreported
    change reported ++ (st.outgoing ++ _) =
      (Decoder.new.receive (st.read ++ st.unread.take n)).packets.map _ ++ _
    rw [← List.append_assoc, hreported, hsplits.packets, List.map_append, List.append_assoc]
    rfl
  · change (Decoder.new.receive (st.read ++ st.unread.take n)).error ≠ none → _
    rw [hsplits.error, herror, Option.none_or]
    exact Option.isSome_iff_ne_none.mpr
  · have hended := h.closed hc
    rw [hw.2] at hended
    cases hended

/-- A session reports about its own connection, and no opening. -/
lemma Keeps.own (h : st.Keeps reported taken) {event : Event}
    (he : event ∈ reported ++ st.outgoing) :
    (∃ p, event = .packet st.connection p) ∨ event = .closed st.connection := by
  rw [h.reported, List.mem_append, List.mem_map, ending] at he
  rcases he with ⟨p, -, rfl⟩ | hend
  · exact .inl ⟨p, rfl⟩
  · split at hend
    · exact .inr (List.mem_singleton.mp hend)
    · cases hend

lemma Keeps.submit (h : st.Keeps reported taken) {event : Event} {rest : List Event}
    (ho : st.outgoing = event :: rest) :
    ({ st with outgoing := rest } : Station).Keeps (reported ++ [event]) taken where
  decoder := h.decoder
  reported := by
    have hreported := h.reported
    rw [ho] at hreported
    rw [List.append_assoc]
    exact hreported
  written := h.written
  malformed := h.malformed
  closed := h.closed

lemma connection_react (input : Session.Input) : (st.react input).connection = st.connection :=
  st.session.connection_react input

lemma Moved.connection_eq (hm : Moved s st m st' a) : st'.connection = st.connection := by
  cases hm with
  | read hw n => exact connection_react (.chunk (st.unread.take n))
  | endOfStream | take | endOfOutbox => exact connection_react _
  | idle | write | submit | leave => rfl

lemma submittedOf_report {c : ConnectionId} {event : Event}
    (he : (∃ p, event = .packet c p) ∨ event = .closed c) :
    s.submittedOf c [event.report] = [event] := by
  rcases he with ⟨p, rfl⟩ | rfl <;>
    simp [Actor.submittedOf, Actor.submitted, Event.report, Actor.queues, Event.connection]

/-- Whatever happens at a station, it keeps to its own. -/
theorem Keeps.moved (h : st.Keeps reported taken) (hm : Moved s st m st' a) :
    st'.Keeps (reported ++ s.submittedOf st.connection a.toList)
      (taken ++ s.taken st.connection a.toList) := by
  have hquiet : st'.Keeps reported taken →
      st'.Keeps (reported ++ s.submittedOf st.connection []) (taken ++ s.taken st.connection []) := by
    intro hk
    rwa [Actor.submittedOf, Actor.submitted, Actor.taken, List.filter_nil, List.append_nil,
      List.append_nil]
  cases hm with
  | idle => exact hquiet h
  | write bytes => exact hquiet ⟨h.decoder, h.reported, h.written, h.malformed, h.closed⟩
  | read hw n => exact hquiet (h.readSome hw n)
  | endOfStream hw =>
    rw [react_endOfStream hw.2] at hquiet ⊢
    exact hquiet (h.finish hw rfl)
  | endOfOutbox hw =>
    rw [react_endOfOutbox hw.2] at hquiet ⊢
    exact hquiet (h.finish hw rfl)
  | @take hw item rest hq =>
    have htaken : s.taken st.connection [.receive st.connection 1] = [item] := by
      rw [Actor.taken, Actor.taken, List.append_nil, Actor.takenAt_receive, hq]
      rfl
    have hsubmitted : s.submittedOf st.connection [.receive st.connection 1] = [] := rfl
    rw [Option.toList_some, htaken, hsubmitted, List.append_nil]
    cases item with
    | packet bytes =>
      rw [react_packet hw.2]
      exact h.packet
    | close =>
      rw [react_close hw.2]
      exact h.finish hw (by simp [Outbound.wire])
  | @submit event rest ho =>
    have hown := h.own (show event ∈ reported ++ st.outgoing by simp [ho])
    have htaken : s.taken st.connection [event.report] = [] := by
      rcases hown with ⟨p, rfl⟩ | rfl <;> rfl
    rw [Option.toList_some, submittedOf_report hown, htaken, List.append_nil]
    exact h.submit ho
  | leave => exact hquiet h

/-- Nobody connects at a station. -/
lemma Moved.count_openConnection (hm : Moved s st m st' a) (h : st.Keeps reported taken) :
    a.toList.count .openConnection = 0 := by
  cases hm with
  | idle | write | read | endOfStream | take | endOfOutbox | leave => rfl
  | @submit event rest ho =>
    have hown := h.own (show event ∈ reported ++ st.outgoing by simp [ho])
    rcases hown with ⟨p, rfl⟩ | rfl <;> rfl

/-- What happens at one station does not concern the others. -/
lemma Moved.others (hm : Moved s st m st' a) (h : st.Keeps reported taken) {c : ConnectionId}
    (hc : c ≠ st.connection) :
    s.submittedOf c a.toList = [] ∧ s.taken c a.toList = [] := by
  cases hm with
  | idle | write | read | endOfStream | endOfOutbox | leave => exact ⟨rfl, rfl⟩
  | take hw hq =>
    refine ⟨rfl, ?_⟩
    rw [Option.toList_some, Actor.taken, Actor.taken, Actor.takenAt, if_neg hc.symm]
    rfl
  | @submit event rest ho =>
    have hown := h.own (show event ∈ reported ++ st.outgoing by simp [ho])
    have hne : ¬ st.connection = c := fun heq => hc heq.symm
    rcases hown with ⟨p, rfl⟩ | rfl <;>
      exact ⟨by simp [Actor.submittedOf, Actor.submitted, Event.report, Actor.queues,
        Event.connection, hne], rfl⟩

end Station

/-! ### What a hub keeps to -/

namespace Hub

variable {check : CredentialCheck} {maxQoS : QoS} {hub : Hub} {a : Step} {steps : List Step}
  {before : List Actor.Step} {act : Actor.Step} {i : Nat} {st : Station} {c : ConnectionId}

/-- The connections that are served. -/
def connections (hub : Hub) : List ConnectionId := hub.stations.map Station.connection

/-- After the steps `acts` of its broker a hub is in order: no connection is served twice, every one
that is served has been opened, and every station keeps to its own. -/
structure InOrder (check : CredentialCheck) (maxQoS : QoS) (acts : List Actor.Step) (hub : Hub) :
    Prop where
  actor : hub.actor = (Actor.new check maxQoS).run acts
  distinct : hub.connections.Nodup
  opened : ∀ c ∈ hub.connections, hub.actor.broker.outbox? c ≠ none
  keeps : ∀ st ∈ hub.stations, ∃ reported,
    (Actor.new check maxQoS).submittedOf st.connection acts = .opened st.connection :: reported ∧
      st.Keeps reported ((Actor.new check maxQoS).taken st.connection acts)
  /-- Of connections that nobody serves nothing is heard. -/
  unheard : ∀ c ∉ hub.connections,
    (Actor.new check maxQoS).submittedOf c acts = [] ∧ (Actor.new check maxQoS).taken c acts = []

lemma inOrder_new : InOrder check maxQoS [] (new check maxQoS) where
  actor := rfl
  distinct := .nil
  opened c h := by cases h
  keeps st h := by cases h
  unheard c _ := ⟨rfl, rfl⟩

lemma InOrder.isRunning (h : InOrder check maxQoS before hub) :
    hub.actor.broker.isRunning = true := by
  rw [h.actor]
  exact Actor.isRunning_run rfl

lemma InOrder.submittedOf_append (h : InOrder check maxQoS before hub) (acts : List Actor.Step) :
    (Actor.new check maxQoS).submittedOf c (before ++ acts) =
      (Actor.new check maxQoS).submittedOf c before ++ hub.actor.submittedOf c acts := by
  rw [Actor.submittedOf_append, ← h.actor]

lemma InOrder.taken_append (h : InOrder check maxQoS before hub) (acts : List Actor.Step) :
    (Actor.new check maxQoS).taken c (before ++ acts) =
      (Actor.new check maxQoS).taken c before ++ hub.actor.taken c acts := by
  rw [Actor.taken_append, ← h.actor]

/-- What a station keeps to is not touched by steps of the broker that are not about it. -/
lemma InOrder.keeps_of_silent (h : InOrder check maxQoS before hub) (hst : st ∈ hub.stations)
    {acts : List Actor.Step} (hsubmitted : hub.actor.submittedOf st.connection acts = [])
    (htaken : hub.actor.taken st.connection acts = []) : ∃ reported,
      (Actor.new check maxQoS).submittedOf st.connection (before ++ acts) =
          .opened st.connection :: reported ∧
        st.Keeps reported ((Actor.new check maxQoS).taken st.connection (before ++ acts)) := by
  rw [h.submittedOf_append, h.taken_append, hsubmitted, htaken, List.append_nil, List.append_nil]
  exact h.keeps st hst

/-- The router works without being heard. -/
lemma InOrder.work (h : InOrder check maxQoS before hub)
    (hsubmitted : ∀ c, hub.actor.submittedOf c [act] = [])
    (htaken : ∀ c, hub.actor.taken c [act] = []) :
    InOrder check maxQoS (before ++ [act]) ⟨hub.actor.run [act], hub.stations⟩ where
  actor := by rw [h.actor, Actor.run_append]
  distinct := h.distinct
  opened c hc := Actor.outbox?_run_ne_none h.isRunning (h.opened c hc)
  keeps st hst := h.keeps_of_silent hst (hsubmitted _) (htaken _)
  unheard c hc := by
    rw [h.submittedOf_append, h.taken_append, hsubmitted, htaken, List.append_nil, List.append_nil]
    exact h.unheard c hc

lemma submittedOf_openConnection (s : Actor) (c : ConnectionId) :
    s.submittedOf c [.openConnection] =
      if s.broker.ids.upcoming = c then [.opened c] else [] := by
  by_cases hc : s.broker.ids.upcoming = c <;>
    simp [Actor.submittedOf, Actor.submitted, Actor.queues, Event.connection, hc]

/-- A new connection has a name of its own, of which nothing has been heard. -/
lemma InOrder.connect (h : InOrder check maxQoS before hub)
    (hlt : (before ++ [Actor.Step.openConnection]).count .openConnection < 2 ^ 64) :
    InOrder check maxQoS (before ++ [.openConnection]) (hub.step .connect) := by
  have hproceeds : ((Actor.new check maxQoS).run before).Proceeds hub.actor.broker.ids.upcoming
      [.openConnection] := (Actor.proceeds_new hlt).run
  rw [← h.actor] at hproceeds
  have hopens : hub.actor.Opens hub.actor.broker.ids.upcoming .openConnection := ⟨rfl, rfl⟩
  have hfresh : hub.actor.broker.ids.upcoming ∉ hub.connections := fun hc =>
    h.opened _ hc (hproceeds.outbox?_eq_none hopens)
  have hconnections : (hub.step .connect).connections =
      hub.connections ++ [hub.actor.broker.ids.upcoming] := List.map_append
  refine ⟨?_, ?_, fun c hc => ?_, fun st hst => ?_, fun c hc => ?_⟩
  · rw [step, h.actor, acts, Actor.run_append]
  · rw [hconnections, List.nodup_append]
    refine ⟨h.distinct, List.nodup_singleton _, ?_⟩
    rintro c hc d hd rfl
    rw [List.mem_singleton] at hd
    exact hfresh (hd ▸ hc)
  · rw [hconnections, List.mem_append, List.mem_singleton] at hc
    rcases hc with hc | rfl
    · exact Actor.outbox?_run_ne_none h.isRunning (h.opened c hc)
    · have hbox := Actor.outbox?_of_opens h.isRunning hopens
      rw [show (hub.step .connect).actor = hub.actor.step .openConnection from rfl, hbox]
      simp
  · rcases List.mem_append.mp hst with hst | hst
    · refine h.keeps_of_silent hst ?_ rfl
      rw [submittedOf_openConnection, if_neg]
      rintro heq
      exact hfresh (heq ▸ List.mem_map_of_mem hst)
    · obtain rfl := List.mem_singleton.mp hst
      obtain ⟨hsubmitted, htaken⟩ := h.unheard _ hfresh
      refine ⟨[], ?_, ?_⟩
      · rw [h.submittedOf_append, submittedOf_openConnection]
        exact (congrArg (· ++ _) hsubmitted).trans (if_pos rfl)
      · rw [h.taken_append]
        refine (congrArg (· ++ []) htaken).symm ▸ ?_
        exact Station.keeps_new _
  · rw [hconnections, List.mem_append, List.mem_singleton, not_or] at hc
    rw [h.submittedOf_append, h.taken_append, submittedOf_openConnection, if_neg (Ne.symm hc.2),
      List.append_nil]
    obtain ⟨hsubmitted, htaken⟩ := h.unheard c hc.1
    exact ⟨hsubmitted, by rw [htaken]; rfl⟩

lemma map_connection_set {st' : Station} (hi : hub.stations[i]? = some st)
    (hc : st'.connection = st.connection) :
    (hub.stations.set i st').map Station.connection = hub.connections := by
  have hlt : i < hub.stations.length := (List.getElem?_eq_some_iff.mp hi).1
  refine List.ext_getElem? fun j => ?_
  rw [connections, List.getElem?_map, List.getElem?_map, List.getElem?_set, if_pos hlt]
  split <;> rename_i hij
  · subst hij
    rw [hi, Option.map_some, Option.map_some, hc]
  · rfl

/-- What happens at a station leaves the others as they are. -/
lemma InOrder.move (h : InOrder check maxQoS before hub) (hi : hub.stations[i]? = some st)
    {m : Move} {st' : Station} {act : Option Actor.Step} (hm : st.Moved hub.actor m st' act) :
    InOrder check maxQoS (before ++ act.toList)
      ⟨hub.actor.run act.toList, hub.stations.set i st'⟩ := by
  have hst : st ∈ hub.stations := List.mem_of_getElem? hi
  have hlt : i < hub.stations.length := (List.getElem?_eq_some_iff.mp hi).1
  obtain ⟨reported, hreported, hkeeps⟩ := h.keeps st hst
  have hconnection := hm.connection_eq
  have hconnections : (⟨hub.actor.run act.toList, hub.stations.set i st'⟩ : Hub).connections =
      hub.connections := map_connection_set hi hconnection
  have hdistinct : ((hub.stations.set i st').map Station.connection).Nodup := by
    rw [map_connection_set hi hconnection]
    exact h.distinct
  refine ⟨?_, hdistinct, fun c hc => ?_, fun other hother => ?_, fun c hc => ?_⟩
  · rw [h.actor, Actor.run_append]
  · rw [hconnections] at hc
    exact Actor.outbox?_run_ne_none h.isRunning (h.opened c hc)
  · by_cases hc : other.connection = st.connection
    · have hmem : st' ∈ hub.stations.set i st' := List.mem_set hlt st'
      obtain rfl := List.inj_on_of_nodup_map hdistinct hother hmem (hc.trans hconnection.symm)
      rw [hconnection, h.submittedOf_append, h.taken_append, hreported]
      exact ⟨_, rfl, hkeeps.moved hm⟩
    · have hold : other ∈ hub.stations := (List.mem_or_eq_of_mem_set hother).resolve_right fun heq =>
        hc (heq ▸ hconnection)
      obtain ⟨hsubmitted, htaken⟩ := hm.others hkeeps hc
      exact h.keeps_of_silent hold hsubmitted htaken
  · rw [hconnections] at hc
    have hne : c ≠ st.connection := fun heq => hc (heq ▸ List.mem_map_of_mem hst)
    obtain ⟨hsubmitted, htaken⟩ := hm.others hkeeps hne
    rw [h.submittedOf_append, h.taken_append, hsubmitted, htaken, List.append_nil, List.append_nil]
    exact h.unheard c hc

/-- Connections are opened by connecting. -/
lemma InOrder.count_acts (h : InOrder check maxQoS before hub) :
    (hub.acts a).count .openConnection = [a].count .connect := by
  cases a with
  | connect | decide | perform => rfl
  | move i m =>
    rw [acts]
    split
    · rfl
    · rename_i st hi
      obtain ⟨reported, -, hkeeps⟩ := h.keeps st (List.mem_of_getElem? hi)
      exact (st.moved_move hub.actor m).count_openConnection hkeeps

/-- Whatever happens next, the hub stays in order. -/
theorem InOrder.step (h : InOrder check maxQoS before hub)
    (hlt : before.count .openConnection + [a].count .connect < 2 ^ 64) :
    InOrder check maxQoS (before ++ hub.acts a) (hub.step a) := by
  cases a with
  | connect => exact h.connect (by rwa [List.count_append])
  | decide | perform => exact h.work (fun c => rfl) (fun c => rfl)
  | move i m =>
    rw [Hub.step, acts, stationsAfter]
    split
    · rw [List.append_nil]
      exact h
    · rename_i st hi
      exact h.move hi (st.moved_move hub.actor m)

theorem InOrder.run (h : InOrder check maxQoS before hub)
    (hlt : before.count .openConnection + steps.count .connect < 2 ^ 64) :
    InOrder check maxQoS (before ++ hub.actsOf steps) (hub.run steps) ∧
      (hub.actsOf steps).count .openConnection = steps.count .connect := by
  induction steps generalizing before hub with
  | nil =>
    rw [actsOf, List.append_nil]
    exact ⟨h, rfl⟩
  | cons a steps ih =>
    have hcount := h.count_acts (a := a)
    have hsplit : (a :: steps).count .connect = [a].count .connect + steps.count .connect := by
      rw [← List.count_append]
      rfl
    obtain ⟨hrun, hrest⟩ := ih (h.step (a := a) (by omega)) (by rw [List.count_append]; omega)
    rw [actsOf, ← List.append_assoc, List.count_append, hcount, hrest, hsplit]
    exact ⟨hrun, rfl⟩

/-- Nobody is opened twice. -/
lemma InOrder.count_opened_le (h : InOrder check maxQoS before hub) (hst : st ∈ hub.stations) :
    ((Actor.new check maxQoS).submittedOf st.connection before).count (.opened st.connection) ≤
      1 := by
  obtain ⟨reported, hreported, hkeeps⟩ := h.keeps st hst
  have hnot : .opened st.connection ∉ reported := by
    intro hmem
    rcases hkeeps.own (List.mem_append_left _ hmem) with ⟨p, hp⟩ | hp <;> cases hp
  rw [hreported, List.count_cons_self, List.count_eq_zero.mpr hnot]

lemma inOrder_run (check : CredentialCheck) (maxQoS : QoS) (h : steps.count .connect < 2 ^ 64) :
    InOrder check maxQoS ((new check maxQoS).actsOf steps) ((new check maxQoS).run steps) ∧
      ((new check maxQoS).actsOf steps).count .openConnection = steps.count .connect := by
  have hcount : ([] : List Actor.Step).count .openConnection + steps.count .connect < 2 ^ 64 := by
    simpa using h
  exact inOrder_new.run hcount

end Hub

/-! ### Sessions are faithful -/

/-- What the session at `st` has told the broker and its client, when the broker `s` has taken the
steps `acts`. -/
structure Station.Faithful (s : Actor) (acts : List Actor.Step) (st : Station) : Prop where
  /-- The session reports the opening of its connection, the packets that a new decoder makes of the
  bytes that were read, and at last, once, its end. -/
  submitted : s.submittedOf st.connection acts ++ st.outgoing =
    .opened st.connection ::
      ((Decoder.new.receive st.read).packets.map (.packet st.connection) ++ st.ending)
  malformed : (Decoder.new.receive st.read).error ≠ none → st.session.isEnded = true
  /-- The client is written what the router sent first, packet by packet. -/
  written : ∃ sent, sent <+: s.issued st.connection acts ∧
    st.written = sent.flatMap Outbound.wire
  /-- The session ends where it takes the request to close, and nothing the router ever sends is
  missing then. -/
  whole : .close ∈ s.taken st.connection acts → st.session.isEnded = true ∧
    st.written = (s.issued st.connection acts).flatMap Outbound.wire

/-- Nothing that goes out to `c` is behind the request to close. -/
lemma Router.eq_of_close_mem {check : CredentialCheck} {maxQoS : QoS} {c : ConnectionId}
    {events : List Event} (ho : events.count (.opened c) ≤ 1) {sent : List Outbound}
    (hs : sent <+: ((new check maxQoS).sentTo c events).map (·.item)) (hc : .close ∈ sent) :
    sent = ((new check maxQoS).sentTo c events).map (·.item) := by
  have hconversation : Conversation c ((new check maxQoS).sentTo c events) :=
    conversation_of_unknown Subscriptions.wellFormed_empty (settled_of_reachable .new c) rfl ho
  obtain ⟨rest, hrest⟩ := hs
  -- The items are cut where `sent` ends, and with them the conversation that they come from.
  obtain ⟨front, back, hlog, rfl, rfl⟩ := List.map_eq_append_iff.mp hrest.symm
  have hclose : .close c ∈ front := by
    obtain ⟨t, ht, hitem⟩ := List.mem_map.mp hc
    have hto : t ∈ (new check maxQoS).sentTo c events := by
      rw [hlog]
      exact List.mem_append_left _ ht
    have hconnection : t.connection = c := by simpa using (List.mem_filter.mp hto).2
    cases t with
    | bytes d bs => cases hitem
    | close d =>
      cases hconnection
      exact ht
  rw [hlog, hconversation.eq_nil_of_close_mem hlog hclose, List.append_nil]

/-- Who is opened once is sent nothing behind the request to close. -/
lemma Actor.eq_issued_of_close_mem {check : CredentialCheck} {maxQoS : QoS}
    {steps : List Actor.Step} {c : ConnectionId}
    (ho : ((new check maxQoS).submittedOf c steps).count (.opened c) ≤ 1) {sent : List Outbound}
    (hs : sent <+: (new check maxQoS).issued c steps) (hc : .close ∈ sent) :
    sent = (new check maxQoS).issued c steps := by
  obtain ⟨handled, hevents, -, hissued⟩ :=
    exists_handled_of_submitted (s := new check maxQoS) rfl steps c
  have honce : handled.count (.opened c) ≤ 1 := by
    have hsubmitted : (new check maxQoS).submitted steps = handled ++ _ := hevents
    rw [submittedOf, List.count_filter (by simp [Event.connection]), hsubmitted,
      List.count_append] at ho
    omega
  have hissued' : (new check maxQoS).issued c steps <+:
      ((Router.new check maxQoS).sentTo c handled).map (·.item) := ⟨_, hissued⟩
  have heq := Router.eq_of_close_mem honce (hs.trans hissued') hc
  exact hs.eq_of_length (Nat.le_antisymm hs.length_le (heq ▸ hissued'.length_le))

/-- However the steps of all clients, all sessions and the router follow each other, every session
is faithful, while there are identifiers left. -/
theorem Hub.faithful_of_connects (check : CredentialCheck) (maxQoS : QoS) {steps : List Hub.Step}
    (h : steps.count .connect < 2 ^ 64) :
    let acts := (Hub.new check maxQoS).actsOf steps
    let hub := (Hub.new check maxQoS).run steps
    hub.actor = (Actor.new check maxQoS).run acts ∧
      ∀ st ∈ hub.stations, st.Faithful (Actor.new check maxQoS) acts := by
  intro acts hub
  obtain ⟨horder, hopens⟩ : InOrder check maxQoS acts hub ∧ _ := inOrder_run check maxQoS h
  refine ⟨horder.actor, fun st hst => ?_⟩
  obtain ⟨reported, hreported, hkeeps⟩ := horder.keeps st hst
  have htaken : (Actor.new check maxQoS).taken st.connection acts <+:
      (Actor.new check maxQoS).issued st.connection acts := by
    have hproceeds : (Actor.new check maxQoS).Proceeds st.connection acts :=
      Actor.proceeds_new (hopens ▸ h)
    exact (List.prefix_append ..).trans (Actor.taken_append_queued_le hproceeds)
  have hsubmitted : (Actor.new check maxQoS).submittedOf st.connection acts ++ st.outgoing =
      .opened st.connection ::
        ((Decoder.new.receive st.read).packets.map (.packet st.connection) ++ st.ending) := by
    rw [hreported, List.cons_append, hkeeps.reported]
  refine ⟨hsubmitted, hkeeps.malformed, ⟨_, htaken, hkeeps.written⟩, fun hclose => ?_⟩
  rw [← Actor.eq_issued_of_close_mem (horder.count_opened_le hst) htaken hclose]
  exact ⟨hkeeps.closed hclose, hkeeps.written⟩

/-- One client writes a PINGREQ and then something that is no packet, and is gone before it is
answered; the other one says goodbye and is served to the end. -/
theorem Hub.faithful_of_connects_two :
    let steps : List Hub.Step :=
      [.connect, .connect, .decide, .move 0 (.write [0x10, 0x0D, 0x00, 0x04, 0x4D, 0x51, 0x54, 0x54,
          0x04, 0x02, 0x00, 0x00, 0x00, 0x01, 0x78, 0xC0, 0x00, 0xFF, 0x00, 0xC0, 0x00]),
        .move 0 (.read 9), .move 0 (.read 8), .move 0 .take, .move 0 .submit, .decide,
        .move 0 .submit, .decide, .perform, .move 0 .take, .decide, .move 0 (.read 2), .perform,
        .move 1 (.write [0x10, 0x0D, 0x00, 0x04, 0x4D, 0x51, 0x54, 0x54, 0x04, 0x02, 0x00, 0x00,
          0x00, 0x01, 0x79, 0xE0, 0x00]),
        .move 1 (.read 99), .move 1 .submit, .move 0 .submit, .move 1 .submit, .decide, .perform,
        .decide, .perform, .decide, .perform, .move 1 .take, .move 1 .take, .move 1 .submit,
        .move 0 .leave]
    let hub := (Hub.new .anyone .atMostOnce).run steps
    steps.count .connect < 2 ^ 64 ∧
      hub.stations.map (·.written) = [[0x20, 0x02, 0x00, 0x00], [0x20, 0x02, 0x00, 0x00]] ∧
      hub.stations.map (·.session.isEnded) = [true, true] ∧
      hub.stations.map (·.unread) = [[0xC0, 0x00], []] ∧
      ∀ st ∈ hub.stations, st.Faithful (Actor.new .anyone .atMostOnce)
        ((Hub.new .anyone .atMostOnce).actsOf steps) := by
  intro steps hub
  have h : steps.count .connect < 2 ^ 64 := by decide
  exact ⟨h, by cbv, by cbv, by cbv, (Hub.faithful_of_connects _ _ h).2⟩

end Mqtt
