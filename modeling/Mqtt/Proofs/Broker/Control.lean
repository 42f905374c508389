import Mqtt.Proofs.Broker.Agreement
import Mqtt.Proofs.Broker.WireForms

/-!
# Sessions and replies

How far a connection comes, and what it is sent apart from messages and their acknowledgements, is
told by what happens to it, whatever the other connections do: the router might as well be alone
with it (`Router.AgreeOn.run_eventsOf`). So both can be read off its own events
(`Router.autonomous_of_delivered`).
-/

namespace Mqtt

/-! ### What concerns one connection -/

/-- The events that happen to `c`, in order. -/
def eventsOf (c : ConnectionId) (events : List Event) : List Event :=
  events.filter (·.connection = c)

/-- What some actions do to `c` on the control plane, in order. -/
def controlTo (c : ConnectionId) (actions : List Action) : List Action :=
  (actions.filter Action.isControl).filter (·.connection = c)

section

variable {c : ConnectionId} {event : Event} {events : List Event} {actions more : List Action}

lemma eventsOf_cons_of_eq (h : event.connection = c) :
    eventsOf c (event :: events) = event :: eventsOf c events :=
  List.filter_cons_of_pos (by simpa using h)

lemma eventsOf_cons_of_ne (h : event.connection ≠ c) :
    eventsOf c (event :: events) = eventsOf c events :=
  List.filter_cons_of_neg (by simpa using h)

lemma controlTo_append :
    controlTo c (actions ++ more) = controlTo c actions ++ controlTo c more := by
  simp [controlTo]

lemma controlTo_send {packet : Packet} (h : packet.body.kind.isControl = true) :
    controlTo c [.send c packet] = [.send c packet] := by
  simp [controlTo, Action.isControl, Action.connection, h]

lemma controlTo_eq_nil (h : ∀ action ∈ actions, action.connection = c → action.isControl = false) :
    controlTo c actions = [] := by
  refine List.filter_eq_nil_iff.mpr fun action ha hc => ?_
  obtain ⟨ha, hcontrol⟩ := List.mem_filter.mp ha
  rw [h action ha (by simpa using hc)] at hcontrol
  cases hcontrol

end

/-! ### What a session is made of -/

/-- Whether a packet of this kind may be sent within a session that goes on. -/
def PacketKind.keepsSession : PacketKind → Bool
  | .publish | .subscribe | .unsubscribe | .pingReq | .pubAck | .pubRec | .pubRel | .pubComp => true
  | _ => false

lemma PacketKind.keepsSession_eq (k : PacketKind) : k.keepsSession = !k.endsSession := by
  cases k <;> rfl

/-- Whether the event is a CONNECT whose credentials pass; those left out count as empty. -/
def Event.opensSession (check : CredentialCheck) : Event → Bool
  | .packet _ p =>
    match p.body with
    | .connect _ payload => check (payload.userName.getD "") (payload.password.getD [])
    | _                  => false
  | .opened _ | .closed _ => false

/-- Whether a session goes on after the event. -/
def Event.keepsSession : Event → Bool
  | .packet _ p           => p.body.kind.keepsSession
  | .opened _ | .closed _ => false

/-- The reply to a SUBSCRIBE, an UNSUBSCRIBE or a PINGREQ, header and body, where nothing above
`maxQoS` is granted. -/
def Packet.reply? (maxQoS : QoS) (packet : Packet) : Option Packet :=
  match packet.body with
  | .subscribe id requested => some (Router.answer maxQoS id requested)
  | .unsubscribe id _       => some ⟨⟨.unsubAck, false, .atMostOnce, false, 2⟩, .unsubAck id⟩
  | .pingReq                => some ⟨⟨.pingResp, false, .atMostOnce, false, 0⟩, .pingResp⟩
  | _                       => none

/-- The CONNACK that opens a session. -/
def Packet.welcome : Packet :=
  ⟨⟨.connAck, false, .atMostOnce, false, 2⟩, .connAck ⟨false, .accepted⟩⟩

/-- The reply that is sent when such a packet comes in. -/
def Event.reply? (maxQoS : QoS) : Event → Option Action
  | .packet c p           => (p.reply? maxQoS).map (.send c)
  | .opened _ | .closed _ => none

/-- What has happened to a connection since its opening let it in, and has kept it: a CONNECT that
is accepted first, and packets of its session after that. -/
def Admitted (check : CredentialCheck) (own : List Event) : Prop :=
  ∃ first rest, own = first :: rest ∧ first.opensSession check = true ∧
    ∀ event ∈ rest, event.keepsSession = true

lemma admitted_cons_iff {check : CredentialCheck} {event : Event} {own : List Event} :
    Admitted check (event :: own) ↔
      event.opensSession check = true ∧ ∀ later ∈ own, later.keepsSession = true := by
  constructor
  · rintro ⟨first, rest, heq, h⟩
    cases heq
    exact h
  · intro h
    exact ⟨event, own, rfl, h⟩

/-- A CONNECT is answered by its CONNACK and by no other reply. -/
lemma Event.reply?_of_opensSession {check : CredentialCheck} {maxQoS : QoS} {event : Event}
    (h : event.opensSession check = true) : event.reply? maxQoS = none := by
  cases event with
  | packet d p =>
    rw [opensSession] at h
    rw [reply?, Packet.reply?]
    split at h <;> rename_i hbody
    · rw [hbody]
      rfl
    · cases h
  | opened | closed => rfl

namespace Router

variable {r r' s : Router} {event : Event} {events own : List Event} {actions : List Action}
  {c : ConnectionId}

/-- How far `c` has come after each of the events that happen to it. -/
def phasesOf (c : ConnectionId) (r : Router) : List Event → List (Option Phase)
  | []              => []
  | event :: events =>
    let r' := (r.step event).1
    if event.connection = c then r'.phase c :: r'.phasesOf c events else r'.phasesOf c events

/-! ### The other connections -/

/-- Routers agree on a connection to which nothing happens. -/
lemma agreeOn_run {known : ConnectionId → Prop} (h : ∀ event ∈ events, ¬ known event.connection) :
    AgreeOn known (r.run events).1 r := by
  induction events generalizing r with
  | nil => exact .refl known r
  | cons event events ih =>
    rw [List.forall_mem_cons] at h
    exact (ih h.2).trans ((turn_step r event).agreeOn h.1)

lemma Turn.controlTo_of_ne (turn : Turn r event r' actions) (hc : event.connection ≠ c) :
    controlTo c actions = [] := by
  refine controlTo_eq_nil fun action ha hac => turn.isControl_of_ne ha ?_
  rwa [hac]

/-- With the events of the other connections left out, `c` comes as far at each of its own, and the
same is done to it on the control plane. -/
theorem AgreeOn.run_eventsOf (h : AgreeOn (· = c) r s) (events : List Event) :
    r.phasesOf c events = s.phasesOf c (eventsOf c events) ∧
      controlTo c (r.run events).2 = controlTo c (s.run (eventsOf c events)).2 ∧
      AgreeOn (· = c) (r.run events).1 (s.run (eventsOf c events)).1 := by
  induction events generalizing r s with
  | nil => exact ⟨rfl, rfl, h⟩
  | cons event events ih =>
    rw [phasesOf, run_cons, controlTo_append]
    by_cases he : event.connection = c
    · have hsame := h.step he
      obtain ⟨hphases, hcontrol, hagree⟩ := ih hsame.agree
      have hstep : controlTo c (r.step event).2 = controlTo c (s.step event).2 := by
        rw [controlTo, hsame.control, controlTo]
      rw [eventsOf_cons_of_eq he, phasesOf, run_cons, controlTo_append]
      rw [if_pos he, if_pos he, hphases, hcontrol, hstep, hsame.agree.phase c rfl]
      exact ⟨rfl, rfl, hagree⟩
    · -- Here the second router stays where it is.
      have turn := turn_step r event
      rw [eventsOf_cons_of_ne he, if_neg he, turn.controlTo_of_ne he, List.nil_append]
      exact ih ((turn.agreeOn he).trans h)

/-! ### One turn -/

/-- A connection that waits for its CONNECT is let in by a valid one, and by nothing else that
happens to it. -/
lemma Turn.of_awaiting (turn : Turn r event r' actions)
    (hp : r.phase event.connection = some .awaitingConnect)
    (ho : event ≠ .opened event.connection) :
    (event.opensSession r.check = true ∧ r'.isConnected event.connection = true ∧
        controlTo event.connection actions =
          [.send event.connection .welcome]) ∨
      (event.opensSession r.check = false ∧ r'.Ignores event.connection) := by
  have hnot : ¬ r.isConnected event.connection = true := by
    simp [isConnected_eq_false_of_phase hp]
  cases turn with
  | opened d => exact absurd rfl ho
  | closed d => exact .inr ⟨rfl, .inl (phase_noteClosed.trans (if_pos rfl))⟩
  | dropped hd => exact absurd hp (Ignores.phase_ne_awaiting hd)
  | accepted hd hbody hcheck =>
    refine .inl ⟨by rw [Event.opensSession, hbody]; exact hcheck, ?_, controlTo_send rfl⟩
    exact isConnected_iff.mpr ⟨_, phase_set.trans (if_pos rfl)⟩
  | refused hd hbody hcheck =>
    exact .inr ⟨by rw [Event.opensSession, hbody]; exact hcheck, ignores_shut (by simp [hd])⟩
  | premature hd hbody =>
    refine .inr ⟨?_, ignores_shut (by simp [hd])⟩
    rw [Event.opensSession]
    split
    · simp_all [Body.kind]
    · rfl
  | ended hd | ignored hd | pinged hd | published hd | subscribed hd | unsubscribed hd =>
    exact absurd hd hnot

/-- A session goes on with a packet of the kinds that keep it, which is answered if it is a request,
and ends with whatever else happens. -/
lemma Turn.of_connected (turn : Turn r event r' actions)
    (hc : r.isConnected event.connection = true) (ho : event ≠ .opened event.connection) :
    (event.keepsSession = true ∧ r'.isConnected event.connection = true ∧
        controlTo event.connection actions = (event.reply? r.maxQoS).toList) ∨
      (event.keepsSession = false ∧ r'.Ignores event.connection) := by
  obtain ⟨id, hid⟩ := isConnected_iff.mp hc
  cases turn with
  | opened d => exact absurd rfl ho
  | closed d => exact .inr ⟨rfl, .inl (phase_noteClosed.trans (if_pos rfl))⟩
  | dropped hd => exact absurd hc (Ignores.not_isConnected hd)
  | accepted hd | refused hd | premature hd => exact absurd (hid.symm.trans hd) (by simp)
  | ended hd hbody =>
    refine .inr ⟨?_, ignores_shut fun h => by cases hid.symm.trans h⟩
    rw [Event.keepsSession, PacketKind.keepsSession_eq, hbody]
    rfl
  | @ignored d p hd hbody =>
    refine .inl ⟨?_, hc, ?_⟩
    · rw [Event.keepsSession]
      cases hkind : p.body.kind <;> simp_all [PacketKind.isDeliveryStep, PacketKind.keepsSession]
    · rw [Event.reply?, Packet.reply?]
      split <;> simp_all [Body.kind, PacketKind.isDeliveryStep]
      rfl
  | pinged hd hbody =>
    refine .inl ⟨by rw [Event.keepsSession, hbody]; rfl, hc, ?_⟩
    rw [Event.reply?, Packet.reply?, hbody]
    exact controlTo_send rfl
  | published hd hbody =>
    refine .inl ⟨by rw [Event.keepsSession, hbody]; rfl, hc, ?_⟩
    rw [Event.reply?, Packet.reply?, hbody]
    exact controlTo_eq_nil fun action ha _ => isControl_publish ha
  | subscribed hd hbody =>
    refine .inl ⟨by rw [Event.keepsSession, hbody]; rfl, hc, ?_⟩
    rw [Event.reply?, Packet.reply?, hbody]
    dsimp only
    rw [← subAck_eq_answer]
    exact controlTo_send rfl
  | unsubscribed hd hbody =>
    refine .inl ⟨by rw [Event.keepsSession, hbody]; rfl, hc, ?_⟩
    rw [Event.reply?, Packet.reply?, hbody]
    exact controlTo_send rfl

/-! ### Runs of one connection -/

lemma run_of_connected (hc : r.isConnected c = true) (hown : ∀ event ∈ own, event.connection = c)
    (ho : .opened c ∉ own) :
    ((r.run own).1.isConnected c = true ↔ ∀ event ∈ own, event.keepsSession = true) ∧
      ((r.run own).1.isConnected c = true →
        controlTo c (r.run own).2 = own.filterMap (·.reply? r.maxQoS)) := by
  induction own generalizing r with
  | nil => exact ⟨⟨fun _ _ he => (List.not_mem_nil he).elim, fun _ => hc⟩, fun _ => rfl⟩
  | cons event own ih =>
    obtain ⟨rfl, hown⟩ := List.forall_mem_cons.mp hown
    rw [List.mem_cons, not_or] at ho
    have turn := turn_step r event
    rw [List.forall_mem_cons, run_cons]
    rcases turn.of_connected hc (Ne.symm ho.1) with ⟨hkeeps, hc', hreply⟩ | ⟨hends, hi⟩
    · obtain ⟨hiff, hreplies⟩ := ih hc' hown ho.2
      refine ⟨by simpa [hkeeps] using hiff, fun hrun => ?_⟩
      rw [controlTo_append, hreply, hreplies hrun, turn.maxQoS_eq, List.filterMap_cons]
      cases event.reply? r.maxQoS <;> rfl
    · have hnot := hi.not_isConnected_run ho.2
      exact ⟨by simp [hends, hnot], fun hrun => absurd hrun hnot⟩

lemma run_of_awaiting (hp : r.phase c = some .awaitingConnect)
    (hown : ∀ event ∈ own, event.connection = c) (ho : .opened c ∉ own) :
    ((r.run own).1.isConnected c = true ↔ Admitted r.check own) ∧
      ((r.run own).1.isConnected c = true → controlTo c (r.run own).2 =
        .send c .welcome :: own.filterMap (·.reply? r.maxQoS)) := by
  cases own with
  | nil =>
    have hnot : ¬ r.isConnected c = true := by simp [isConnected_eq_false_of_phase hp]
    refine ⟨⟨fun hc => absurd hc hnot, ?_⟩, fun hc => absurd hc hnot⟩
    rintro ⟨first, rest, heq, -⟩
    cases heq
  | cons event own =>
    obtain ⟨rfl, hown⟩ := List.forall_mem_cons.mp hown
    rw [List.mem_cons, not_or] at ho
    have turn := turn_step r event
    rw [admitted_cons_iff, run_cons]
    rcases turn.of_awaiting hp (Ne.symm ho.1) with ⟨hopens, hc, hack⟩ | ⟨hfails, hi⟩
    · obtain ⟨hiff, hreplies⟩ := run_of_connected hc hown ho.2
      refine ⟨by simpa [hopens] using hiff, fun hrun => ?_⟩
      rw [controlTo_append, hack, hreplies hrun, turn.maxQoS_eq, List.filterMap_cons,
        Event.reply?_of_opensSession hopens]
      rfl
    · have hnot := hi.not_isConnected_run ho.2
      exact ⟨by simp [hfails, hnot], fun hrun => absurd hrun hnot⟩

/-- Whatever happens to others meanwhile, a connection that waits for its CONNECT gets a session by
its own events, and the replies to them. -/
lemma run_eventsOf_of_awaiting (hp : r.phase c = some .awaitingConnect)
    (ho : .opened c ∉ events) :
    ((r.run events).1.isConnected c = true ↔ Admitted r.check (eventsOf c events)) ∧
      ((r.run events).1.isConnected c = true → controlTo c (r.run events).2 =
        .send c .welcome ::
          (eventsOf c events).filterMap (·.reply? r.maxQoS)) := by
  obtain ⟨-, hcontrol, hagree⟩ := (AgreeOn.refl (· = c) r).run_eventsOf events
  rw [isConnected_congr (hagree.phase c rfl), hcontrol]
  refine run_of_awaiting hp ?_ fun hmem => ho (List.mem_of_mem_filter hmem)
  intro event he
  simpa using (List.mem_filter.mp he).2

lemma phase_eq_none_run (h : r.phase c = none) (ho : .opened c ∉ events) :
    (r.run events).1.phase c = none := by
  induction events generalizing r with
  | nil => exact h
  | cons event events ih =>
    rw [List.mem_cons, not_or] at ho
    exact ih ((turn_step r event).phase_eq_none h (Ne.symm ho.1)) ho.2

/-- How far `c` has come when the events have been handled, and what was done to it on the control
plane, follow from the events of `c` alone. -/
structure Autonomous (check : CredentialCheck) (maxQoS : QoS) (c : ConnectionId)
    (events : List Event) : Prop where
  /-- Both are the same whenever the same happens to `c`. -/
  own : ∀ others, eventsOf c others = eventsOf c events →
    (new check maxQoS).phasesOf c others = (new check maxQoS).phasesOf c events ∧
      controlTo c ((new check maxQoS).run others).2 = controlTo c ((new check maxQoS).run events).2
  /-- No reply is dropped on its way out. -/
  transmitted : ∀ action ∈ controlTo c ((new check maxQoS).run events).2,
    ∃ t, action.transmission? = some t
  unopened : .opened c ∉ events → ((new check maxQoS).run events).1.phase c = none
  /-- Who has a session is told by what happened since the last opening. -/
  session : ∀ before after, events = before ++ .opened c :: after → .opened c ∉ after →
    (((new check maxQoS).run events).1.isConnected c = true ↔ Admitted check (eventsOf c after))
  /-- To a session belongs one CONNACK, and one reply to each request, in the same order. -/
  replies : ∀ before after, events = before ++ .opened c :: after → .opened c ∉ after →
    ((new check maxQoS).run events).1.isConnected c = true →
    controlTo c ((new check maxQoS).run events).2 =
      controlTo c ((new check maxQoS).run (before ++ [.opened c])).2 ++
        .send c .welcome :: (eventsOf c after).filterMap (·.reply? maxQoS)

/-- What the router does to a connection on the control plane is told by the events of this
connection, and by the rules of the router. -/
theorem autonomous_of_delivered (check : CredentialCheck) (maxQoS : QoS)
    (hd : ∀ event ∈ events, event.IsDelivered) (c : ConnectionId) :
    Autonomous check maxQoS c events := by
  -- The rules are those of a new router at any time.
  have hrules : ∀ before, AgreeOn (fun _ => False) ((new check maxQoS).run before).1
      (new check maxQoS) := fun before => agreeOn_run fun _ _ => id
  have hopened : ∀ before : List Event,
      ((new check maxQoS).run (before ++ [.opened c])).1.phase c = some .awaitingConnect := by
    intro before
    rw [run_append]
    exact phase_noteOpened.trans (if_pos rfl)
  have hafter := fun before (after : List Event) (ho : .opened c ∉ after) =>
    run_eventsOf_of_awaiting (hopened before) ho
  refine ⟨?_, ?_, phase_eq_none_run rfl, ?_, ?_⟩
  · intro others hothers
    have hproject := (AgreeOn.refl (· = c) (new check maxQoS)).run_eventsOf
    rw [(hproject others).1, (hproject events).1, (hproject others).2.1, (hproject events).2.1,
      hothers]
    exact ⟨rfl, rfl⟩
  · intro action ha
    have hmem := List.mem_of_mem_filter (List.mem_of_mem_filter ha)
    exact exists_transmission? (fun d packet => delivered_of_run hd) hmem
  · rintro before after rfl ho
    have h := (hafter before after ho).1
    rw [List.append_cons, run_append]
    rwa [(hrules _).check] at h
  · rintro before after rfl ho hc
    rw [List.append_cons, run_append] at hc ⊢
    have h := (hafter before after ho).2 hc
    rw [(hrules _).maxQoS] at h
    rw [controlTo_append, h]
    rfl

/-- A client is shut out for what it sends before its CONNECT, and comes back to be served, each
reply under the identifier of its request; with or without another client to which its messages
go. -/
theorem autonomous_of_delivered_reopened :
    let connect : Packet := ((ConnectRequest.new "x" 0).withCredentials "u" (some [1])).packet
    let subscribe : Packet := .subscribe 7 [⟨"a", .exactlyOnce⟩]
    let publish : Packet := .publish "a" .exactlyOnce (some 5) [0xFF]
    let unsubscribe : Packet := .unsubscribe 0x0109 ["a"]
    let before : List Event := [.opened ⟨1⟩, .packet ⟨1⟩ .pingReq, .closed ⟨1⟩]
    let after : List Event := [.packet ⟨1⟩ connect, .packet ⟨1⟩ subscribe, .packet ⟨1⟩ publish,
      .packet ⟨1⟩ unsubscribe, .packet ⟨1⟩ .pingReq]
    let alone : List Event := before ++ .opened ⟨1⟩ :: after
    let events : List Event := [.opened ⟨2⟩, .opened ⟨1⟩, .packet ⟨1⟩ .pingReq,
      .packet ⟨2⟩ connect, .packet ⟨2⟩ subscribe, .closed ⟨1⟩, .opened ⟨1⟩, .packet ⟨1⟩ connect,
      .packet ⟨1⟩ subscribe, .packet ⟨1⟩ publish, .packet ⟨1⟩ unsubscribe, .packet ⟨2⟩ connect,
      .packet ⟨1⟩ .pingReq]
    let r := new (.only "u" [1]) .atLeastOnce
    (∀ event ∈ alone, event.IsDelivered) ∧ eventsOf ⟨1⟩ events = alone ∧
      Autonomous (.only "u" [1]) .atLeastOnce ⟨1⟩ alone ∧
      r.phasesOf ⟨1⟩ events = [some .awaitingConnect, some .closed, none, some .awaitingConnect,
        some (.connected "x"), some (.connected "x"), some (.connected "x"),
        some (.connected "x"), some (.connected "x")] ∧
      (controlTo ⟨1⟩ (r.run events).2).filterMap Action.transmission? = [.close ⟨1⟩,
        .bytes ⟨1⟩ [0x20, 0x02, 0x00, 0x00], .bytes ⟨1⟩ [0x90, 0x03, 0x00, 0x07, 0x01],
        .bytes ⟨1⟩ [0xB0, 0x02, 0x01, 0x09], .bytes ⟨1⟩ [0xD0, 0x00]] ∧
      Admitted (.only "u" [1]) after := by
  intro connect subscribe publish unsubscribe before after alone events r
  have hconnect : connect.encode = .ok [0x10, 0x13, 0x00, 0x04, 0x4D, 0x51, 0x54, 0x54, 0x04, 0xC2,
    0x00, 0x00, 0x00, 0x01, 0x78, 0x00, 0x01, 0x75, 0x00, 0x01, 0x01] := rfl
  have hsubscribe : subscribe.encode = .ok [0x82, 0x06, 0x00, 0x07, 0x00, 0x01, 0x61, 0x02] := rfl
  have hpublish : publish.encode = .ok [0x34, 0x06, 0x00, 0x01, 0x61, 0x00, 0x05, 0xFF] := rfl
  have hunsubscribe : unsubscribe.encode = .ok [0xA2, 0x05, 0x01, 0x09, 0x00, 0x01, 0x61] := rfl
  have hpingReq : Packet.pingReq.encode = .ok [0xC0, 0x00] := rfl
  have hping : Packet.pingReq.Delivered := Packet.delivered_of_encode ⟨rfl, trivial⟩ rfl hpingReq
  have hd : ∀ event ∈ alone, event.IsDelivered := by
    simp only [alone, before, after, List.cons_append, List.nil_append, List.forall_mem_cons]
    exact ⟨trivial, hping, trivial, trivial,
      Packet.delivered_of_encode ⟨rfl, trivial⟩ rfl hconnect,
      Packet.delivered_of_encode ⟨rfl, trivial⟩ rfl hsubscribe,
      Packet.delivered_of_encode ⟨rfl, trivial⟩ rfl hpublish,
      Packet.delivered_of_encode ⟨rfl, trivial⟩ rfl hunsubscribe, hping, by simp⟩
  have hautonomous := autonomous_of_delivered (.only "u" [1]) .atLeastOnce hd ⟨1⟩
  have hown : eventsOf ⟨1⟩ events = alone := rfl
  obtain ⟨hphases, hcontrol⟩ := hautonomous.own events hown
  have hsession := hautonomous.session before after rfl (by decide)
  refine ⟨hd, hown, hautonomous, hphases.trans (by decide), ?_, hsession.mp (by decide)⟩
  rw [hcontrol]
  decide

end Router

end Mqtt
