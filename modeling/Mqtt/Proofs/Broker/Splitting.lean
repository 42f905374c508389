import Mqtt.Proofs.Broker.Quiescence
import Mqtt.Proofs.Broker.Room

/-!
# Splitting a stream

A client who is alone writes a stream piece by piece, and everything runs until nothing moves after
each piece. What it has been written in the end, and whether its session is over then, depends on
the stream alone, if no piece brings it more packets than its outbox has room for
(`Hub.sameOutcome_of_serves`).
-/

namespace Mqtt

/-- All that the client has written. -/
def Station.stream (st : Station) : Bytes := st.read ++ st.unread

/-! ### A client who is alone -/

namespace Hub

variable {check : CredentialCheck} {maxQoS : QoS} {hub : Hub} {acts : List Actor.Step}
  {st : Station}

/-- The router hears nothing but what is submitted about the only connection. -/
lemma InOrder.submitted_eq (h : InOrder check maxQoS acts hub) (hs : hub.stations = [st]) :
    (Actor.new check maxQoS).submitted acts =
      (Actor.new check maxQoS).submittedOf st.connection acts := by
  refine (List.filter_eq_self.mpr fun event hevent => ?_).symm
  by_contra hne
  have hc : event.connection ∉ hub.connections := by
    rw [connections, hs]
    simpa using hne
  obtain ⟨hnone, -⟩ := h.unheard _ hc
  have hmem : event ∈ (Actor.new check maxQoS).submittedOf event.connection acts :=
    List.mem_filter.mpr ⟨hevent, by simp⟩
  rw [hnone] at hmem
  cases hmem

/-- What the router has taken up, what it has still to take up and what the session has still to
submit is what the session makes of the bytes that it has read. -/
lemma InOrder.exists_handled (h : InOrder check maxQoS acts hub) (hs : hub.stations = [st]) :
    ∃ handled, handled ++ (hub.actor.broker.events ++ st.outgoing) =
        .opened st.connection ::
          ((Decoder.new.receive st.read).packets.map (.packet st.connection) ++ st.ending) ∧
      (Actor.new check maxQoS).issued st.connection acts ++ hub.actor.pendingTo st.connection =
        ((Router.new check maxQoS).sentTo st.connection handled).map (·.item) := by
  obtain ⟨handled, hevents, -, hissued⟩ :=
    Actor.exists_handled_of_submitted (s := Actor.new check maxQoS) rfl acts st.connection
  obtain ⟨reported, hreported, hkeeps⟩ := h.keeps st (hs ▸ List.mem_singleton_self st)
  rw [← h.actor] at hevents hissued
  refine ⟨handled, ?_, hissued⟩
  have hsubmitted : (Actor.new check maxQoS).submitted acts =
      handled ++ hub.actor.broker.events := hevents
  rw [← List.append_assoc, ← hsubmitted, h.submitted_eq hs, hreported, List.cons_append,
    hkeeps.reported]

/-- About the end of its connection a client is not told. -/
lemma sentTo_reports :
    ((Router.new check maxQoS).sentTo st.connection (.opened st.connection ::
      ((Decoder.new.receive st.read).packets.map (.packet st.connection) ++ st.ending))).map
        (·.item) = Router.replies check maxQoS st.connection st.read := by
  rw [← List.cons_append, Router.sentTo_append, List.map_append, Router.replies]
  refine (congrArg _ ?_).trans (List.append_nil _)
  rw [Station.ending]
  split <;> rfl

/-- What is issued is the beginning of what is due. -/
lemma InOrder.issued_prefix (h : InOrder check maxQoS acts hub) (hs : hub.stations = [st]) :
    (Actor.new check maxQoS).issued st.connection acts <+:
      Router.replies check maxQoS st.connection st.stream := by
  obtain ⟨handled, hhandled, hissued⟩ := h.exists_handled hs
  refine .trans ⟨_, hissued⟩ (.trans ?_ Router.replies_prefix)
  rw [← sentTo_reports, ← hhandled, Router.sentTo_append, List.map_append]
  exact List.prefix_append ..

/-- Where nothing is left to be submitted and handled, all is issued that is due for what has been
read. -/
lemma InOrder.issued_eq (h : InOrder check maxQoS acts hub) (hs : hub.stations = [st])
    (hp : hub.actor.pending = []) (he : hub.actor.broker.events = []) (ho : st.outgoing = []) :
    (Actor.new check maxQoS).issued st.connection acts =
      Router.replies check maxQoS st.connection st.read := by
  obtain ⟨handled, hhandled, hissued⟩ := h.exists_handled hs
  rw [he, ho, List.append_nil, List.append_nil] at hhandled
  rw [Actor.pendingTo, hp, List.filterMap_nil, List.append_nil] at hissued
  rw [hissued, ← sentTo_reports, ← hhandled]

end Hub

/-! ### One session -/

namespace Station

variable {s : Actor} {st st' : Station} {m : Move} {act : Option Actor.Step} {due : List Outbound}

lemma stream_new (c : ConnectionId) : (new c).stream = [] := rfl

/-- The session is over, and its client has been written all that was due. -/
structure IsDone (due : List Outbound) (st : Station) : Prop where
  ended : st.session.isEnded = true
  close_mem : .close ∈ due
  written : st.written = due.flatMap Outbound.wire

/-- A session that ends where it is to be closed has written all that was due. -/
lemma isDone_finish {taken : List Outbound} (hwritten : st.written = taken.flatMap Outbound.wire)
    (hdue : taken ++ [.close] <+: due) (hlast : Outbound.ClosesLast due) :
    st.finish.IsDone due := by
  have hclose : .close ∈ taken ++ [.close] := List.mem_append_right _ List.mem_cons_self
  obtain rfl := hlast _ hdue hclose
  refine ⟨rfl, hclose, ?_⟩
  rw [List.flatMap_append]
  exact hwritten.trans (List.append_nil _).symm

lemma IsDone.moved (h : st.IsDone due) (hm : Moved s st m st' act) : st'.IsDone due := by
  have hended := h.ended
  have hnot : ¬ st.IsWaiting := fun hw => by simp [hw.2] at hended
  cases hm with
  | idle | write | submit | leave => exact ⟨h.ended, h.close_mem, h.written⟩
  | read hw | endOfStream hw | take hw | endOfOutbox hw => exact absurd hw hnot

/-- What the client has written does not change by what the session does. -/
lemma Moved.stream_eq (hm : Moved s st m st' act) (hi : (Hub.Step.move 0 m).isInternal = true) :
    st'.stream = st.stream := by
  cases hm with
  | write bytes | endOfStream hw => cases hi
  | read hw n =>
    change st.read ++ st.unread.take n ++ st.unread.drop n = st.read ++ st.unread
    rw [List.append_assoc, List.take_append_drop]
  | idle | take hw | endOfOutbox hw | submit | leave => rfl

/-- A session that waits reads on, unless there is an error in what it reads. -/
lemma Keeps.isEnded_readSome {reported : List Event} {taken : List Outbound}
    (h : st.Keeps reported taken) (hw : st.IsWaiting) (n : Nat)
    (hsound : (Decoder.new.receive st.stream).error = none) :
    (st.readSome n).session.isEnded = false := by
  have hstream : st.stream = st.read ++ st.unread.take n ++ st.unread.drop n := by
    rw [stream, List.append_assoc, List.take_append_drop]
  rw [hstream, (Decoder.receive_append ..).error, (Decoder.receive_append ..).error,
    Option.or_eq_none_iff, Option.or_eq_none_iff, ← h.decoder] at hsound
  rw [Station.readSome, react_chunk hw.2]
  simp [hsound.1.2]

/-- A session that goes on reports packets only. -/
lemma Keeps.exists_packet {reported : List Event} {taken : List Outbound}
    (h : st.Keeps reported taken) (he : st.session.isEnded = false) {event : Event}
    (hevent : event ∈ reported ++ st.outgoing) : ∃ p, event = .packet st.connection p := by
  rw [h.reported, ending, he, if_neg Bool.false_ne_true, List.append_nil, List.mem_map] at hevent
  obtain ⟨p, -, rfl⟩ := hevent
  exact ⟨p, rfl⟩

end Station

/-! ### Under way -/

namespace Hub

open Actor (UnderWay)

variable {check : CredentialCheck} {maxQoS : QoS} {hub hub' : Hub} {a : Step} {steps : List Step}
  {acts : List Actor.Step} {st st' : Station} {c : ConnectionId} {base due : List Outbound}

/-- The client of `st` has been served as it should be: its session goes on and nothing has been
lost, or all is done. -/
def Fate (check : CredentialCheck) (maxQoS : QoS) (c : ConnectionId) (base due : List Outbound)
    (acts : List Actor.Step) (st : Station) : Prop :=
  st.session.isEnded = false ∧ UnderWay check maxQoS c base acts ∨ st.IsDone due

lemma Fate.work (h : Fate check maxQoS c base due acts st) {act : Actor.Step}
    (hfits : Outbound.Fits base due)
    (hdue : (Actor.new check maxQoS).issued c (acts ++ [act]) <+: due) (ha : act.Spares c) :
    Fate check maxQoS c base due (acts ++ [act]) st := by
  rcases h with ⟨hgoing, hunder⟩ | hdone
  · exact .inl ⟨hgoing, hunder.step hfits hdue ha⟩
  · exact .inr hdone

/-- Where the session goes on, whatever it does next serves its client. -/
lemma Fate.moved {m : Move} {act : Option Actor.Step} (hgoing : st.session.isEnded = false)
    (h : UnderWay check maxQoS st.connection base acts) (horder : InOrder check maxQoS acts hub)
    (hs : hub.stations = [st]) (hm : st.Moved hub.actor m st' act)
    (hi : (Step.move 0 m).isInternal = true) (hsound : (Decoder.new.receive st.stream).error = none)
    (hfits : Outbound.Fits base due)
    (hdue : (Actor.new check maxQoS).issued st.connection (acts ++ act.toList) <+: due) :
    Fate check maxQoS st.connection base due (acts ++ act.toList) st' := by
  obtain ⟨reported, -, hkeeps⟩ := horder.keeps st (hs ▸ List.mem_singleton_self st)
  have hactor := horder.actor
  cases hm with
  | write | endOfStream => cases hi
  | leave ho he => exact absurd he (Bool.eq_false_iff.mp hgoing)
  | idle =>
    rw [Option.toList_none, List.append_nil]
    exact .inl ⟨hgoing, h⟩
  | read hw n =>
    rw [Option.toList_none, List.append_nil]
    exact .inl ⟨hkeeps.isEnded_readSome hw n hsound, h⟩
  | @take hw item rest hq =>
    have hunder := h.step hfits hdue trivial
    cases item with
    | packet bytes =>
      rw [Station.react_packet hw.2]
      exact .inl ⟨hgoing, hunder⟩
    | close =>
      have htaken : (Actor.new check maxQoS).taken st.connection
          (acts ++ [.receive st.connection 1]) =
            (Actor.new check maxQoS).taken st.connection acts ++ [.close] := by
        rw [Actor.taken_append, ← hactor, Actor.taken, Actor.taken, Actor.takenAt_receive, hq]
        rfl
      have hprefix := hunder.lossless.taken_prefix.trans hdue
      rw [htaken] at hprefix
      rw [Station.react_close hw.2]
      exact .inr (Station.isDone_finish hkeeps.written hprefix hfits.closesLast)
  | endOfOutbox hw hq hr =>
    rw [Option.toList_none, List.append_nil] at hdue
    rw [hactor] at hq hr
    have hissued := h.lossless.eq_of_not_isRegistered hq hr
    rw [← hissued] at hdue
    rw [Station.react_endOfOutbox hw.2]
    exact .inr (Station.isDone_finish hkeeps.written hdue hfits.closesLast)
  | @submit event rest ho =>
    have hevent : event ∈ reported ++ st.outgoing := by simp [ho]
    obtain ⟨p, rfl⟩ := hkeeps.exists_packet hgoing hevent
    exact .inl ⟨hgoing, h.step hfits hdue trivial⟩

/-- The only client, over `c`, has been served as it should be. -/
structure Fares (check : CredentialCheck) (maxQoS : QoS) (c : ConnectionId) (base : List Outbound)
    (acts : List Actor.Step) (hub : Hub) (st : Station) : Prop where
  order : InOrder check maxQoS acts hub
  once : acts.count .openConnection = 1
  stations : hub.stations = [st]
  connection : st.connection = c
  fate : Fate check maxQoS c base (Router.replies check maxQoS c st.stream) acts st

lemma acts_move (hs : hub.stations = [st]) (m : Move) :
    hub.acts (.move 0 m) = (st.move hub.actor m).2.toList := by
  simp [acts, hs]

lemma acts_move_succ (hs : hub.stations = [st]) (i : Nat) (m : Move) :
    hub.acts (.move (i + 1) m) = [] ∧ hub.step (.move (i + 1) m) = hub := by
  have hnone : hub.stations[i + 1]? = none := by simp [hs]
  rw [step, acts, stationsAfter, hnone]
  exact ⟨rfl, rfl⟩

/-- The client is served whatever the router and the session do next. -/
theorem Fares.step (h : Fares check maxQoS c base acts hub st) (hi : a.isInternal = true)
    (hsound : (Decoder.new.receive st.stream).error = none)
    (hfits : Outbound.Fits base (Router.replies check maxQoS c st.stream)) :
    ∃ st', Fares check maxQoS c base (acts ++ hub.acts a) (hub.step a) st' ∧
      st'.stream = st.stream := by
  obtain ⟨horder, honce, hs, rfl, hfate⟩ := h
  have hcount : [a].count .connect = 0 := count_connect_eq_zero (by simpa using hi)
  have horder' := horder.step (a := a) (by rw [honce, hcount]; decide)
  have honce' : (acts ++ hub.acts a).count .openConnection = 1 := by
    rw [List.count_append, honce, horder.count_acts, hcount]
  cases a with
  | connect => cases hi
  | decide | perform =>
    refine ⟨st, ⟨horder', honce', hs, rfl, ?_⟩, rfl⟩
    exact hfate.work hfits (horder'.issued_prefix hs) trivial
  | move i m =>
    cases i with
    | succ i =>
      obtain ⟨hacts, hstep⟩ := acts_move_succ hs i m
      rw [hacts, hstep, List.append_nil]
      exact ⟨st, ⟨horder, honce, hs, rfl, hfate⟩, rfl⟩
    | zero =>
      have hm := st.moved_move hub.actor m
      have hs' : (hub.step (.move 0 m)).stations = [(st.move hub.actor m).1] := by
        rw [step_move hs]
      have hstream := hm.stream_eq hi
      refine ⟨_, ⟨horder', honce', hs', hm.connection_eq, ?_⟩, hstream⟩
      have hdue := horder'.issued_prefix hs'
      rw [hstream, hm.connection_eq] at hdue
      rw [acts_move hs] at hdue ⊢
      rw [hstream]
      rcases hfate with ⟨hgoing, hunder⟩ | hdone
      · exact .moved hgoing hunder horder hs hm hi hsound hfits hdue
      · exact .inr (hdone.moved hm)

theorem Fares.run (h : Fares check maxQoS c base acts hub st)
    (hi : ∀ a ∈ steps, a.isInternal = true) (hsound : (Decoder.new.receive st.stream).error = none)
    (hfits : Outbound.Fits base (Router.replies check maxQoS c st.stream)) :
    ∃ st', Fares check maxQoS c base (acts ++ hub.actsOf steps) (hub.run steps) st' ∧
      st'.stream = st.stream := by
  induction steps generalizing acts hub st with
  | nil =>
    rw [actsOf, List.append_nil]
    exact ⟨st, h, rfl⟩
  | cons a steps ih =>
    obtain ⟨ha, hrest⟩ := List.forall_mem_cons.mp hi
    obtain ⟨st₁, h₁, hstream⟩ := h.step ha hsound hfits
    rw [← hstream] at hsound hfits ⊢
    rw [actsOf, ← List.append_assoc]
    exact ih h₁ hrest hsound hfits

/-- Where nothing moves and the session goes on, the client has taken all that is due. -/
lemma Fares.taken_eq (h : Fares check maxQoS c base acts hub st) (hq : hub.IsQuiescent)
    (hgoing : st.session.isEnded = false) (hunder : UnderWay check maxQoS c base acts) :
    (Actor.new check maxQoS).taken c acts = Router.replies check maxQoS c st.stream := by
  obtain ⟨horder, -, hs, rfl, -⟩ := h
  have hst : st ∈ hub.stations := hs ▸ List.mem_singleton_self st
  obtain ⟨hunread, hqueued, hregistered⟩ := hq.waiting st hst hgoing
  rw [horder.actor] at hqueued hregistered
  rw [hunder.lossless.eq_of_isRegistered hqueued hregistered,
    horder.issued_eq hs hq.pending hq.events (hq.outgoing st hst), Station.stream, hunread,
    List.append_nil]

/-- Where nothing moves, the client has been written all that is due, and its session is over if it
was to be closed. -/
theorem Fares.outcome (h : Fares check maxQoS c base acts hub st) (hq : hub.IsQuiescent) :
    st.written = (Router.replies check maxQoS c st.stream).flatMap Outbound.wire ∧
      (st.session.isEnded = true ↔ .close ∈ Router.replies check maxQoS c st.stream) := by
  rcases h.fate with ⟨hgoing, hunder⟩ | hdone
  · have htaken := h.taken_eq hq hgoing hunder
    obtain ⟨horder, -, hs, rfl, -⟩ := h
    obtain ⟨reported, -, hkeeps⟩ := horder.keeps st (hs ▸ List.mem_singleton_self st)
    rw [← htaken]
    refine ⟨hkeeps.written, fun hended => ?_, hkeeps.closed⟩
    rw [hgoing] at hended
    cases hended
  · exact ⟨hdone.written, fun _ => hdone.close_mem, fun _ => hdone.ended⟩

/-- Where nothing moves, the outbox has all its room for what comes next. -/
lemma Fares.write (h : Fares check maxQoS c base acts hub st) (hq : hub.IsQuiescent)
    (chunk : Bytes) : ∃ st', Fares check maxQoS c (Router.replies check maxQoS c st.stream) acts
      (hub.step (.move 0 (.write chunk))) st' ∧ st'.stream = st.stream ++ chunk := by
  have hfate := h.fate
  have htaken := h.taken_eq hq
  obtain ⟨horder, honce, hs, rfl, -⟩ := h
  have hcount : [Step.move 0 (.write chunk)].count .connect = 0 := rfl
  have horder' := horder.step (a := .move 0 (.write chunk)) (by rw [honce, hcount]; decide)
  rw [acts_move hs, Station.move, Option.toList_none, List.append_nil] at horder'
  have hstream : ({ st with unread := st.unread ++ chunk } : Station).stream = st.stream ++ chunk :=
    (List.append_assoc ..).symm
  have hstations : (hub.step (.move 0 (.write chunk))).stations =
      [{ st with unread := st.unread ++ chunk }] := by rw [step_move hs, Station.move]
  refine ⟨_, ⟨horder', honce, hstations, rfl, ?_⟩, hstream⟩
  rw [hstream]
  rcases hfate with ⟨hgoing, hunder⟩ | hdone
  · refine .inl ⟨hgoing, hunder.unreported, ?_, hunder.lossless⟩
    rw [htaken hgoing hunder]
  · rw [Router.replies_eq_of_close_mem hdone.close_mem]
    exact .inr ⟨hdone.ended, hdone.close_mem, hdone.written⟩

/-- The connection of the first client. -/
lemma fares_connect (check : CredentialCheck) (maxQoS : QoS) :
    Fares check maxQoS ⟨1⟩ [] [.openConnection] ((new check maxQoS).step .connect)
      (.new ⟨1⟩) where
  order := inOrder_new.step (a := .connect) (by decide)
  once := by decide
  stations := rfl
  connection := rfl
  fate := by
    have hunreported : (Actor.new check maxQoS).Unreported ⟨1⟩ :=
      ⟨List.not_mem_nil, List.not_mem_nil⟩
    have hopens : (Actor.new check maxQoS).Opens ⟨1⟩ .openConnection := ⟨rfl, rfl⟩
    exact .inl ⟨rfl, hunreported.step rfl (by rintro ⟨⟩), List.nil_prefix, .new,
      Actor.outbox?_of_opens rfl hopens, rfl, .inl ⟨rfl, rfl⟩⟩

/-! ### Feeding -/

/-- The client writes `chunks` one by one, and after each everything runs until nothing moves. -/
inductive Feeds : Hub → List Bytes → Hub → Prop where
  | nil (hub : Hub) : Feeds hub [] hub
  | cons {hub hub₁ hub' : Hub} {chunk : Bytes} {chunks : List Bytes}
      (hsettles : (hub.step (.move 0 (.write chunk))).Settles hub₁)
      (hfeeds : Feeds hub₁ chunks hub') : Feeds hub (chunk :: chunks) hub'

/-- A single client comes to a new broker, and writes `chunks` one by one. -/
def Serves (check : CredentialCheck) (maxQoS : QoS) (chunks : List Bytes) (hub' : Hub) : Prop :=
  ∃ hub, ((new check maxQoS).step .connect).Settles hub ∧ hub.Feeds chunks hub'

/-- After `past` none of the chunks brings its client more packets than there is room for in an
outbox. -/
def Modest (check : CredentialCheck) (maxQoS : QoS) (past : Bytes) : List Bytes → Prop
  | []              => True
  | chunk :: chunks =>
    Outbound.packets (Router.replies check maxQoS ⟨1⟩ (past ++ chunk)) ≤
      Outbound.packets (Router.replies check maxQoS ⟨1⟩ past) + Outbox.capacity ∧
    Modest check maxQoS (past ++ chunk) chunks

theorem Fares.feeds {chunks : List Bytes} (h : Fares check maxQoS ⟨1⟩ base acts hub st)
    (hq : hub.IsQuiescent) (hfeeds : hub.Feeds chunks hub')
    (hsound : (Decoder.new.receive (st.stream ++ chunks.flatten)).error = none)
    (hmodest : Modest check maxQoS st.stream chunks) : ∃ base' acts' st',
      Fares check maxQoS ⟨1⟩ base' acts' hub' st' ∧ hub'.IsQuiescent ∧
        st'.stream = st.stream ++ chunks.flatten := by
  induction hfeeds generalizing base acts st with
  | nil hub => exact ⟨base, acts, st, h, hq, (List.append_nil _).symm⟩
  | @cons hub hub₁ hub' chunk chunks hsettles hfeeds ih =>
    obtain ⟨hq₁, steps, hsteps, rfl⟩ := hsettles
    obtain ⟨hroom, hmodest⟩ := hmodest
    obtain ⟨st₀, h₀, hstream₀⟩ := h.write hq chunk
    rw [List.flatten_cons, ← List.append_assoc, ← hstream₀] at hsound ⊢
    rw [← hstream₀] at hroom hmodest
    have hsound₀ : (Decoder.new.receive st₀.stream).error = none := by
      rw [(Decoder.receive_append ..).error, Option.or_eq_none_iff] at hsound
      exact hsound.1
    obtain ⟨st₁, h₁, hstream₁⟩ := h₀.run hsteps hsound₀ ⟨Router.replies_closesLast, hroom⟩
    rw [← hstream₁] at hsound hmodest ⊢
    exact ih h₁ hq₁ hsound hmodest

/-- Of a client whose chunks are modest it is told by the bytes alone what it is written in the end,
and whether its session is over. -/
theorem exists_outcome_of_serves {chunks : List Bytes}
    (hsound : (Decoder.new.receive chunks.flatten).error = none)
    (hmodest : Modest check maxQoS [] chunks) (hserves : Serves check maxQoS chunks hub) :
    ∃ st, hub.stations = [st] ∧
      st.written = (Router.replies check maxQoS ⟨1⟩ chunks.flatten).flatMap Outbound.wire ∧
      (st.session.isEnded = true ↔ .close ∈ Router.replies check maxQoS ⟨1⟩ chunks.flatten) := by
  obtain ⟨hub₀, ⟨hq, steps, hsteps, rfl⟩, hfeeds⟩ := hserves
  have hempty : (Decoder.new.receive []).error = none := by rw [Decoder.settled_new]
  have hfits : Outbound.Fits [] (Router.replies check maxQoS ⟨1⟩ (Station.new ⟨1⟩).stream) := by
    rw [Station.stream_new, Router.replies_nil]
    exact ⟨fun front hfront _ => List.prefix_nil.mp hfront, Nat.zero_le _⟩
  obtain ⟨st₀, h₀, hstream⟩ := (fares_connect check maxQoS).run hsteps hempty hfits
  have hnil : st₀.stream = [] := hstream
  obtain ⟨base, acts, st, h, hq', hstream'⟩ := h₀.feeds hq hfeeds (by rwa [hnil]) (by rwa [hnil])
  rw [hnil, List.nil_append] at hstream'
  rw [← hstream']
  exact ⟨st, h.stations, h.outcome hq'⟩

/-! ### There is always a way -/

lemma exists_feeds (h : hub.connections = [c]) (chunks : List Bytes) :
    ∃ hub', hub.Feeds chunks hub' := by
  induction chunks generalizing hub with
  | nil => exact ⟨hub, .nil hub⟩
  | cons chunk chunks ih =>
    have hwrite : (hub.step (.move 0 (.write chunk))).connections = [c] :=
      (connections_step (by rintro ⟨⟩)).trans h
    obtain ⟨hub₁, hsettles, h₁⟩ := exists_settles_of_connections hwrite
    obtain ⟨hub', hfeeds⟩ := ih h₁
    exact ⟨hub', .cons hsettles hfeeds⟩

/-- However a client splits what it writes, it is served. -/
theorem exists_serves (check : CredentialCheck) (maxQoS : QoS) (chunks : List Bytes) :
    ∃ hub, Serves check maxQoS chunks hub := by
  have hconnect : ((new check maxQoS).step .connect).connections = [⟨1⟩] := rfl
  obtain ⟨hub, hsettles, h⟩ := exists_settles_of_connections hconnect
  obtain ⟨hub', hfeeds⟩ := exists_feeds h chunks
  exact ⟨hub', hub, hsettles, hfeeds⟩

/-! ### Splitting a stream -/

/-- The clients of both have been written the same, and the same sessions are over. -/
structure SameOutcome (hub hub' : Hub) : Prop where
  written : hub.stations.map (·.written) = hub'.stations.map (·.written)
  ended : hub.stations.map (·.session.isEnded) = hub'.stations.map (·.session.isEnded)

/-- A single client who writes a stream in modest chunks is written the same however the stream is
split and whatever happens when, and its session is over in both cases or in none: it ends only
where the router asks for it. -/
theorem sameOutcome_of_serves (check : CredentialCheck) (maxQoS : QoS)
    {chunks chunks' : List Bytes} {hub hub' : Hub} (hflatten : chunks.flatten = chunks'.flatten)
    (hsound : (Decoder.new.receive chunks.flatten).error = none)
    (hmodest : Modest check maxQoS [] chunks) (hmodest' : Modest check maxQoS [] chunks')
    (hserves : Serves check maxQoS chunks hub) (hserves' : Serves check maxQoS chunks' hub') :
    hub.SameOutcome hub' ∧ ∀ st ∈ hub.stations, st.session.isEnded = true →
      .close ∈ Router.replies check maxQoS ⟨1⟩ chunks.flatten := by
  obtain ⟨st, hs, hwritten, hended⟩ := exists_outcome_of_serves hsound hmodest hserves
  obtain ⟨st', hs', hwritten', hended'⟩ :=
    exists_outcome_of_serves (hflatten ▸ hsound) hmodest' hserves'
  rw [← hflatten] at hwritten' hended'
  have hsame : st.session.isEnded = st'.session.isEnded :=
    Bool.eq_iff_iff.mpr (hended.trans hended'.symm)
  refine ⟨⟨?_, ?_⟩, ?_⟩
  · rw [hs, hs', List.map_singleton, List.map_singleton, hwritten, hwritten']
  · rw [hs, hs', List.map_singleton, List.map_singleton, hsame]
  · rw [hs]
    simpa using hended.mp

/-- A client pings and says goodbye, in four chunks or in one. -/
theorem sameOutcome_of_serves_goodbye :
    let chunks : List Bytes := [[0x10, 0x0D, 0x00, 0x04, 0x4D, 0x51, 0x54],
      [0x54, 0x04, 0x02, 0x00, 0x00, 0x00, 0x01, 0x78, 0xC0], [], [0x00, 0xE0, 0x00]]
    let chunks' : List Bytes := [chunks.flatten]
    chunks.flatten = chunks'.flatten ∧ (Decoder.new.receive chunks.flatten).error = none ∧
      Modest .anyone .atMostOnce [] chunks ∧ Modest .anyone .atMostOnce [] chunks' ∧
      ∃ hub hub', Serves .anyone .atMostOnce chunks hub ∧ Serves .anyone .atMostOnce chunks' hub' ∧
        hub.SameOutcome hub' ∧ ∀ st ∈ hub.stations, st.session.isEnded = true →
          .close ∈ Router.replies .anyone .atMostOnce ⟨1⟩ chunks.flatten := by
  intro chunks chunks'
  have hflatten : chunks.flatten = chunks'.flatten := rfl
  have hsound : (Decoder.new.receive chunks.flatten).error = none := by cbv
  have hmodest : Modest .anyone .atMostOnce [] chunks := by cbv
  have hmodest' : Modest .anyone .atMostOnce [] chunks' := by cbv
  obtain ⟨hub, hserves⟩ := exists_serves .anyone .atMostOnce chunks
  obtain ⟨hub', hserves'⟩ := exists_serves .anyone .atMostOnce chunks'
  exact ⟨hflatten, hsound, hmodest, hmodest', hub, hub', hserves, hserves',
    sameOutcome_of_serves _ _ hflatten hsound hmodest hmodest' hserves hserves'⟩

end Hub

end Mqtt
