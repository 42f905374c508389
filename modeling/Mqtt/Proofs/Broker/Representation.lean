import Mathlib.Logic.Function.Basic
import Mqtt.Broker.Server
import Mqtt.Proofs.Broker.Hub

/-!
# Servers and hubs

A `Server` and a `Hub` keep the same things in different ways: a server knows only what its clients
have not been told yet, a hub keeps all that has passed, and it may stop where a server does not.
`Hub.Represents` says when a server is a view of a hub, and the lemmas on it say what stays so when
something happens to a single session.
-/

namespace Mqtt

/-! ### Steps of a server -/

namespace Server

/-- What may happen next at a server. -/
inductive Step where
  /-- A new client connects. -/
  | connect
  /-- The client in place `i` writes a chunk. -/
  | send (i : Nat) (chunk : Bytes)
  /-- The client in place `i` ends its stream. -/
  | endStream (i : Nat)
  /-- It is reported what the clients have seen. -/
  | report
deriving DecidableEq

/-- Take a step; the answer includes what is reported. -/
def step (server : Server) : Step → Server × List News
  | .connect      => (server.connect, [])
  | .send i chunk => (server.send i chunk, [])
  | .endStream i  => (server.endStream i, [])
  | .report       => server.report

/-- Take steps in order. -/
def run (server : Server) : List Step → Server × List News
  | []         => (server, [])
  | a :: steps =>
    let (server, news) := server.step a
    let (server, more) := server.run steps
    (server, news ++ more)

end Server

/-- The bytes that the client in place `j` is reported to have seen. -/
def News.bytesFor (j : Nat) (news : List News) : Bytes :=
  news.flatMap fun n => if n.client = j then n.bytes else []

namespace News

variable {j : Nat}

lemma bytesFor_append (before after : List News) :
    bytesFor j (before ++ after) = bytesFor j before ++ bytesFor j after := List.flatMap_append

/-- News that are not reported have no bytes. -/
lemma bytesFor_filter_isAny (news : List News) :
    bytesFor j (news.filter News.isAny) = bytesFor j news := by
  induction news with
  | nil => rfl
  | cons n news ih =>
    by_cases hn : n.isAny = true
    · rw [List.filter_cons_of_pos hn]
      exact congrArg (_ ++ ·) ih
    · have hbytes : n.bytes = [] := by
        simp only [isAny, Bool.or_eq_true, Bool.not_eq_true', not_or, Bool.not_eq_false,
          List.isEmpty_iff] at hn
        exact hn.1
      rw [List.filter_cons_of_neg hn, ih, bytesFor, bytesFor, List.flatMap_cons, hbytes, ite_self,
        List.nil_append]

lemma bytesFor_mapIdx_news (clients : List Client) :
    bytesFor j (clients.mapIdx Client.news) = (clients[j]?.map Client.unread).getD [] := by
  induction clients using List.reverseRecOn with
  | nil => rfl
  | append_singleton clients client ih =>
    have hlast : bytesFor j [client.news clients.length] =
        if clients.length = j then client.unread else [] := List.flatMap_singleton ..
    rw [List.mapIdx_concat, bytesFor_append, ih, hlast]
    rcases Nat.lt_trichotomy j clients.length with hj | rfl | hj
    · rw [List.getElem?_append_left hj, if_neg hj.ne', List.append_nil]
    · rw [List.getElem?_concat_length, if_pos rfl, List.getElem?_eq_none (Nat.le_refl _)]
      rfl
    · rw [List.getElem?_eq_none hj.le, if_neg hj.ne, List.getElem?_eq_none]
      · rfl
      · simpa using hj

/-- Every client's bytes are reported. -/
lemma bytesFor_report (server : Server) :
    bytesFor j server.report.2 = (server.clients[j]?.map Client.unread).getD [] :=
  (bytesFor_filter_isAny _).trans (bytesFor_mapIdx_news _)

end News

/-- `client` and `st` are two views of one session, which is about to submit `outgoing`. The client
has been reported to have seen `seen`. -/
structure Client.Mirrors (seen : Bytes) (outgoing : List Event) (client : Client) (st : Station) :
    Prop where
  session : client.session = st.session
  unread : st.unread = []
  written : st.written = seen ++ client.unread
  outgoing : st.outgoing = outgoing

namespace Client

variable {seen : Bytes} {outgoing : List Event} {client : Client} {st : Station}

lemma Mirrors.connection (hm : client.Mirrors seen outgoing st) :
    st.connection = client.session.connection :=
  congrArg Session.connection hm.session.symm

lemma Mirrors.isWaiting (hm : client.Mirrors seen [] st) (h : client.session.isEnded = false) :
    st.IsWaiting :=
  ⟨hm.outgoing, (congrArg Session.isEnded hm.session.symm).trans h⟩

lemma Mirrors.react (hm : client.Mirrors seen [] st) (input : Session.Input) :
    (client.react input).1.Mirrors seen (client.react input).2 (st.react input) := by
  obtain ⟨hsession, hunread, hwritten, houtgoing⟩ := hm
  rw [Client.react, Station.react, hsession, hwritten, houtgoing]
  exact ⟨rfl, hunread, List.append_assoc .., rfl⟩

/-- A chunk is written and read as a whole. -/
lemma Mirrors.readSome (hm : client.Mirrors seen [] st) (chunk : Bytes) :
    (client.react (.chunk chunk)).1.Mirrors seen (client.react (.chunk chunk)).2
      (({ st with unread := st.unread ++ chunk } : Station).readSome chunk.length) := by
  obtain ⟨hsession, -, hwritten, houtgoing⟩ := hm.react (.chunk chunk)
  rw [Station.readSome, hm.unread, List.nil_append, List.take_length]
  exact ⟨hsession, List.drop_length, hwritten, houtgoing⟩

lemma connection_react (client : Client) (input : Session.Input) :
    (client.react input).1.session.connection = client.session.connection :=
  client.session.connection_react input

lemma react_of_isEnded (h : client.session.isEnded = true) (input : Session.Input) :
    client.react input = (client, []) := by
  simp [react, Session.react, h]

end Client

namespace Actor

variable {s : Actor} {a : Step} {acts : List Step} {c : ConnectionId}

lemma isAttached_step (hr : s.broker.isRunning = true) (ha : ∀ d, a ≠ .detach d)
    (h : ∀ box, s.broker.outbox? c = some box → box.isAttached = true) {box : Outbox}
    (hbox : (s.step a).broker.outbox? c = some box) : box.isAttached = true := by
  by_cases ho : s.Opens c a
  · rw [outbox?_of_opens hr ho] at hbox
    cases hbox
    rfl
  · cases hold : s.broker.outbox? c with
    | none =>
      rw [outbox?_step ho, hold] at hbox
      cases hbox
    | some old =>
      obtain ⟨box', hbox', htreats⟩ := exists_treats hold ho
      obtain rfl := Option.some.inj (hbox'.symm.trans hbox)
      exact htreats.isAttached (fun hd => ha c hd.1) (h old hold)

lemma isAttached_run (hr : s.broker.isRunning = true) (ha : ∀ a ∈ acts, ∀ d, a ≠ .detach d)
    (h : ∀ box, s.broker.outbox? c = some box → box.isAttached = true) :
    ∀ box, (s.run acts).broker.outbox? c = some box → box.isAttached = true := by
  induction acts generalizing s with
  | nil => exact h
  | cons a acts ih =>
    obtain ⟨hfirst, hrest⟩ := List.forall_mem_cons.mp ha
    exact ih (isRunning_step hr) hrest fun box => isAttached_step hr hfirst h

end Actor

lemma Station.Moved.ne_detach {s : Actor} {st st' : Station} {m : Move} {act : Option Actor.Step}
    (hm : st.Moved s m st' act) (hleave : m ≠ .leave) {a : Actor.Step} (ha : act = some a)
    {d : ConnectionId} : a ≠ .detach d := by
  cases hm with
  | idle | write | read | endOfStream | endOfOutbox => cases ha
  | leave => exact absurd rfl hleave
  | take =>
    cases ha
    rintro ⟨⟩
  | @submit event =>
    cases ha
    cases event <;> rintro ⟨⟩

namespace Hub

variable {check : CredentialCheck} {maxQoS : QoS} {n j : Nat} {seen : Nat → Bytes}
  {outgoing : Nat → List Event} {hub : Hub} {server : Server} {b b' : Broker}
  {clients : List Client} {client client' : Client} {st : Station} {c : ConnectionId} {box : Outbox}
  {event : Event} {events : List Event}

/-! ### What a server is a view of -/

/-- A hub comes to `hub` when `n` clients connect and no session that is over drops its outbox. -/
def Reached (check : CredentialCheck) (maxQoS : QoS) (n : Nat) (hub : Hub) : Prop :=
  ∃ steps : List Step, steps.count .connect = n ∧ (∀ i, .move i .leave ∉ steps) ∧
    (new check maxQoS).run steps = hub

/-- `server` is a view of `hub`, in which the session in place `j` is about to submit `outgoing j`,
and its client has been reported to have seen `seen j`. -/
structure Represents (check : CredentialCheck) (maxQoS : QoS) (n : Nat) (seen : Nat → Bytes)
    (outgoing : Nat → List Event) (hub : Hub) (server : Server) : Prop where
  reached : Reached check maxQoS n hub
  actor : hub.actor = ⟨server.broker, []⟩
  events : server.broker.events = []
  clients : ∀ j, Option.Rel (Client.Mirrors (seen j) (outgoing j)) server.clients[j]?
    hub.stations[j]?
  unseen : ∀ j, server.clients.length ≤ j → seen j = []

lemma represents_new (check : CredentialCheck) (maxQoS : QoS) :
    Represents check maxQoS 0 (fun _ => []) (fun _ => []) (new check maxQoS)
    (.new check maxQoS) where
  reached := ⟨[], rfl, fun _ => List.not_mem_nil, rfl⟩
  actor := rfl
  events := rfl
  clients _ := .none
  unseen _ _ := rfl

lemma Reached.run (h : Reached check maxQoS n hub) {steps : List Step} {k : Nat}
    (hcount : n + steps.count .connect = k) (hleave : ∀ i, .move i .leave ∉ steps) :
    Reached check maxQoS k (hub.run steps) := by
  obtain ⟨before, rfl, hbefore, rfl⟩ := h
  refine ⟨before ++ steps, by rw [List.count_append, hcount], fun i hmem => ?_, run_append ..⟩
  rcases List.mem_append.mp hmem with hmem | hmem
  · exact hbefore i hmem
  · exact hleave i hmem

lemma Reached.exists_inOrder (h : Reached check maxQoS n hub) (hn : n < 2 ^ 64) :
    ∃ acts, InOrder check maxQoS acts hub ∧ acts.count .openConnection = n := by
  obtain ⟨steps, hcount, -, rfl⟩ := h
  obtain ⟨horder, hopens⟩ := inOrder_run check maxQoS (hcount.trans_lt hn)
  exact ⟨_, horder, hopens.trans hcount⟩

/-- Nobody drops an outbox. -/
lemma detach_not_mem_actsOf {steps : List Step} (h : ∀ i, .move i .leave ∉ steps) :
    ∀ act ∈ hub.actsOf steps, ∀ d, act ≠ .detach d := by
  refine hub.forall_mem_actsOf fun a ha hub act hact d => ?_
  cases a with
  | connect | decide | perform =>
    rw [List.mem_singleton.mp hact]
    rintro ⟨⟩
  | move i m =>
    rw [acts] at hact
    split at hact
    · cases hact
    · rename_i st hi
      refine (st.moved_move hub.actor m).ne_detach ?_ (Option.mem_toList.mp hact)
      rintro rfl
      exact h i ha

lemma Reached.isAttached (h : Reached check maxQoS n hub)
    (hbox : hub.actor.broker.outbox? c = some box) : box.isAttached = true := by
  obtain ⟨steps, -, hleave, rfl⟩ := h
  rw [actor_run] at hbox
  refine Actor.isAttached_run rfl (detach_not_mem_actsOf hleave) (fun box hbox => ?_) box hbox
  cases hbox

lemma Represents.exists_station (h : Represents check maxQoS n seen outgoing hub server)
    (hj : server.clients[j]? = some client) :
    ∃ st, hub.stations[j]? = some st ∧ client.Mirrors (seen j) (outgoing j) st := by
  have hrel := h.clients j
  rw [hj] at hrel
  generalize hst : hub.stations[j]? = station at hrel
  cases hrel with
  | some hm => exact ⟨_, rfl, hm⟩

lemma Represents.rel_set (h : Represents check maxQoS n seen outgoing hub server)
    (hj : server.clients[j]? = some client) (hm : client'.Mirrors (seen j) events st) :
    ∀ k, Option.Rel (Client.Mirrors (seen k) (Function.update outgoing j events k))
      (server.clients.set j client')[k]? (hub.stations.set j st)[k]? := by
  intro k
  obtain ⟨old, hold, -⟩ := h.exists_station hj
  by_cases hk : k = j
  · subst hk
    have hlt : k < server.clients.length := (List.getElem?_eq_some_iff.mp hj).1
    have hlt' : k < hub.stations.length := (List.getElem?_eq_some_iff.mp hold).1
    rw [List.getElem?_set_self hlt, List.getElem?_set_self hlt', Function.update_self]
    exact .some hm
  · rw [List.getElem?_set_ne (Ne.symm hk), List.getElem?_set_ne (Ne.symm hk),
      Function.update_of_ne hk]
    exact h.clients k

lemma Represents.isRunning (hn : n < 2 ^ 64)
    (h : Represents check maxQoS n seen outgoing hub server) : server.broker.isRunning = true := by
  obtain ⟨acts, horder, -⟩ := h.reached.exists_inOrder hn
  have hrunning := horder.isRunning
  rwa [h.actor] at hrunning

lemma set_eq_self (hj : clients[j]? = some client) : clients.set j client = clients := by
  obtain ⟨hlt, rfl⟩ := List.getElem?_eq_some_iff.mp hj
  exact List.set_getElem_self hlt

lemma step_move_of_getElem? (hst : hub.stations[j]? = some st) (m : Move) :
    hub.step (.move j m) = ⟨hub.actor.run (st.move hub.actor m).2.toList,
      hub.stations.set j (st.move hub.actor m).1⟩ := by
  simp only [step, acts, stationsAfter, hst]

/-- Whatever else happens, it happens to a single session. -/
lemma Represents.of_run (h : Represents check maxQoS n seen outgoing hub ⟨b, clients⟩)
    (hj : clients[j]? = some client) {steps : List Step} (hcount : steps.count .connect = 0)
    (hleave : ∀ i, .move i .leave ∉ steps)
    (hrun : hub.run steps = ⟨⟨b', []⟩, hub.stations.set j st⟩) (hevents : b'.events = [])
    (hm : client'.Mirrors (seen j) events st) :
    Represents check maxQoS n seen (Function.update outgoing j events) (hub.run steps)
      ⟨b', clients.set j client'⟩ := by
  refine ⟨h.reached.run (by rw [hcount, Nat.add_zero]) hleave, ?_, hevents, ?_, fun k hk => ?_⟩
  · rw [hrun]
  · rw [hrun]
    exact h.rel_set hj hm
  · rw [List.length_set] at hk
    exact h.unseen k hk

lemma Represents.move (h : Represents check maxQoS n seen outgoing hub ⟨b, clients⟩)
    (hj : clients[j]? = some client) (hst : hub.stations[j]? = some st) {m : Move} {st' : Station}
    {act : Option Actor.Step} (hmove : st.move hub.actor m = (st', act)) (hleave : m ≠ .leave)
    (hactor : hub.actor.run act.toList = ⟨b', []⟩) (hevents : b'.events = [])
    (hm : client'.Mirrors (seen j) events st') :
    Represents check maxQoS n seen (Function.update outgoing j events) (hub.run [.move j m])
      ⟨b', clients.set j client'⟩ := by
  refine h.of_run hj (by simp) (fun i hmem => hleave ?_) ?_ hevents hm
  · cases List.mem_singleton.mp hmem
    rfl
  · rw [run, run, step_move_of_getElem? hst, hmove, hactor]

/-! ### Submitting -/

lemma run_perform (hub : Hub) (k : Nat) : hub.run (.replicate k .perform) =
    ⟨hub.actor.run (.replicate k .perform), hub.stations⟩ := by
  induction k generalizing hub with
  | zero => rfl
  | succ k ih => exact ih (hub.step .perform)

lemma submitAll_singleton (hr : b.isRunning = true) (he : b.events = []) :
    Server.submitAll b [event] = (b.accept event).handleNext := by
  rw [Broker.accept_eq hr, he]
  simp [Server.submitAll, Broker.submit, hr, he, Broker.settle, Broker.handleNext]

lemma events_submitAll (hr : b.isRunning = true) (he : b.events = []) :
    (Server.submitAll b [event]).events = [] := by
  rw [submitAll_singleton hr he, Broker.accept_eq hr, Broker.handleNext, he]
  rfl

/-- The router handles an event as soon as it is submitted. -/
lemma Represents.submit (hn : n < 2 ^ 64)
    (h : Represents check maxQoS n seen outgoing hub ⟨b, clients⟩) (hj : clients[j]? = some client)
    (ho : outgoing j = event :: events) :
    ∃ hub', Represents check maxQoS n seen (Function.update outgoing j events) hub'
      ⟨Server.submitAll b [event], clients⟩ := by
  obtain ⟨st, hst, hm⟩ := h.exists_station hj
  obtain ⟨acts, horder, -⟩ := h.reached.exists_inOrder hn
  obtain ⟨reported, -, hkeeps⟩ := horder.keeps st (List.mem_of_getElem? hst)
  have hactor : hub.actor = ⟨b, []⟩ := h.actor
  have hr : b.isRunning = true := h.isRunning hn
  have hout : st.outgoing = event :: events := hm.outgoing.trans ho
  have hmove : st.move hub.actor .submit =
      ({ st with outgoing := events }, some event.report) := by
    simp only [Station.move, hout]
  -- No session submits an opening, so that the broker is told of just this event.
  have hreport : hub.actor.step event.report = ⟨b.accept event, []⟩ := by
    have hown := hkeeps.own (show event ∈ reported ++ st.outgoing by simp [hout])
    rw [hactor]
    rcases hown with ⟨p, rfl⟩ | rfl <;> rfl
  obtain ⟨k, hk⟩ := Actor.run_handleNext (b.accept event)
  rw [Actor.run, ← hreport] at hk
  have hrun : hub.run (.move j .submit :: .decide :: .replicate k .perform) =
      ⟨⟨Server.submitAll b [event], []⟩, hub.stations.set j { st with outgoing := events }⟩ := by
    rw [run, run, run_perform, step_move_of_getElem? hst, hmove, submitAll_singleton hr h.events]
    exact congrArg (Hub.mk · _) hk
  have hm' : client.Mirrors (seen j) events { st with outgoing := events } :=
    ⟨hm.session, hm.unread, hm.written, rfl⟩
  have h' := h.of_run hj (by simp [List.count_replicate]) (fun i hmem => by simp at hmem) hrun
    (events_submitAll hr h.events) hm'
  rw [set_eq_self hj] at h'
  exact ⟨_, h'⟩

lemma update_nil_eq_self (ho : outgoing j = []) : Function.update outgoing j [] = outgoing := by
  rw [← ho]
  exact Function.update_eq_self ..

/-- All events of a session are handled in a row if nobody comes in between. -/
lemma Represents.submitAll (hn : n < 2 ^ 64)
    (h : Represents check maxQoS n seen outgoing hub ⟨b, clients⟩) (hj : clients[j]? = some client)
    (ho : outgoing j = events) :
    ∃ hub', Represents check maxQoS n seen (Function.update outgoing j []) hub'
      ⟨Server.submitAll b events, clients⟩ := by
  induction events generalizing outgoing hub b with
  | nil =>
    rw [update_nil_eq_self ho]
    exact ⟨hub, h⟩
  | cons event events ih =>
    obtain ⟨hub₁, h₁⟩ := h.submit hn hj ho
    obtain ⟨hub', h'⟩ := ih h₁ (Function.update_self ..)
    rw [Function.update_idem] at h'
    exact ⟨hub', h'⟩

end Hub

end Mqtt
