import Mqtt.Proofs.Broker.Consistency

/-!
# What goes out to one connection

Whatever packets come, from whatever connections and in whatever order, what goes out to one of them
follows a simple grammar (`Conversation`): a connection is accepted or refused first, is served only
while it has a session, and is sent nothing before its opening and after its end. This is
`Router.orderly_of_opensOnce`.
-/

namespace Mqtt

/-! ### Output -/

/-- The connection that an action is for. -/
def Action.connection : Action → ConnectionId
  | .send c _ => c
  | .close c  => c

/-- The connection that a transmission is for. -/
def Transmission.connection : Transmission → ConnectionId
  | .bytes c _ => c
  | .close c   => c

/-- What some actions put out to `c`, in order. -/
def outputTo (c : ConnectionId) (actions : List Action) : List Transmission :=
  (actions.filterMap Action.transmission?).filter (·.connection = c)

section Output

variable {c : ConnectionId} {action : Action} {actions more : List Action} {t : Transmission}

lemma Action.connection_of_transmission? (h : action.transmission? = some t) :
    t.connection = action.connection := by
  cases action with
  | close d => cases h; rfl
  | send d packet =>
    rw [transmission?] at h
    split at h <;> cases h
    rfl

lemma filter_filterMap_transmission? (p : ConnectionId → Bool) (actions : List Action) :
    (actions.filterMap Action.transmission?).filter (p ·.connection) =
      (actions.filter (p ·.connection)).filterMap Action.transmission? := by
  rw [List.filter_filterMap, List.filterMap_filter]
  refine List.filterMap_congr fun action _ => ?_
  cases ht : action.transmission? with
  | none => simp
  | some t => simp [Option.filter, Action.connection_of_transmission? ht]

lemma outputTo_eq :
    outputTo c actions = (actions.filter (·.connection = c)).filterMap Action.transmission? :=
  filter_filterMap_transmission? (· = c) actions

lemma outputTo_append : outputTo c (actions ++ more) = outputTo c actions ++ outputTo c more := by
  simp [outputTo]

lemma mem_outputTo (h : t ∈ outputTo c actions) :
    ∃ action ∈ actions, action.connection = c ∧ action.transmission? = some t := by
  rw [outputTo_eq] at h
  obtain ⟨action, ha, ht⟩ := List.mem_filterMap.mp h
  obtain ⟨ha, hc⟩ := List.mem_filter.mp ha
  exact ⟨action, ha, by simpa using hc, ht⟩

lemma outputTo_cons_send {packet : Packet} {wire : Bytes} (h : packet.encode = .ok wire) :
    outputTo c (.send c packet :: actions) = .bytes c wire :: outputTo c actions := by
  simp [outputTo, Action.transmission?, h, Transmission.connection]

lemma outputTo_cons_of_ne (h : action.connection ≠ c) :
    outputTo c (action :: actions) = outputTo c actions := by
  rw [outputTo_eq, outputTo_eq, List.filter_cons_of_neg (by simpa using h)]

lemma outputTo_cons_close : outputTo c (.close c :: actions) = .close c :: outputTo c actions := by
  simp [outputTo, Action.transmission?, Transmission.connection]

end Output

/-! ### The grammar -/

/-- Whether a packet of this kind serves a client that has a session. -/
def PacketKind.isService : PacketKind → Bool
  | .publish | .pubAck | .pubRec | .subAck | .unsubAck | .pingResp => true
  | _                                                              => false

/-- The packet is a PUBLISH, PUBACK, PUBREC, SUBACK, UNSUBACK or PINGRESP, and its header says
so. -/
def Packet.IsService (packet : Packet) : Prop :=
  packet.header.kind = packet.body.kind ∧ packet.body.kind.isService = true

/-- The transmission is such a packet for `c`. -/
def Transmission.Serves (c : ConnectionId) (t : Transmission) : Prop :=
  ∃ (packet : Packet) (wire : Bytes),
    packet.IsService ∧ packet.encode = .ok wire ∧ t = .bytes c wire

/-- What may go out to a client that has a session: packets that serve it, and at most one request
to close, at the end. -/
inductive Service (c : ConnectionId) : List Transmission → Prop where
  | nil : Service c []
  | close : Service c [.close c]
  | packet {t : Transmission} {log : List Transmission} (ht : t.Serves c) (hs : Service c log) :
      Service c (t :: log)

/-- What may go out to a client in all. -/
inductive Conversation (c : ConnectionId) : List Transmission → Prop where
  | silent : Conversation c []
  | rejected : Conversation c [.close c]
  | refused {wire : Bytes} (hw : (Packet.connAck false .badUserNameOrPassword).encode = .ok wire) :
      Conversation c [.bytes c wire, .close c]
  | accepted {wire : Bytes} {log : List Transmission}
      (hw : (Packet.connAck false .accepted).encode = .ok wire) (hs : Service c log) :
      Conversation c (.bytes c wire :: log)

/-- The CONNACK that refuses ends in 0x04, the one that accepts in 0x00. -/
lemma encode_connAck (code : ConnectCode) :
    (Packet.connAck false code).encode = .ok [0x20, 0x02, 0x00, code.toByte] := rfl

lemma Service.append {c : ConnectionId} {front log : List Transmission}
    (hf : ∀ t ∈ front, t.Serves c) (hs : Service c log) : Service c (front ++ log) := by
  induction front with
  | nil => exact hs
  | cons t front ih =>
    exact .packet (hf t List.mem_cons_self) (ih fun u hu => hf u (List.mem_cons_of_mem _ hu))

section Close

variable {c : ConnectionId} {log front back : List Transmission}

lemma Service.eq_nil_of_close_mem (h : Service c log) (hlog : log = front ++ back)
    (hc : .close c ∈ front) : back = [] := by
  induction h generalizing front with
  | nil => exact (List.append_eq_nil_iff.mp hlog.symm).2
  | close =>
    cases front with
    | nil => cases hc
    | cons t front =>
      rw [List.cons_append, List.cons.injEq] at hlog
      exact (List.append_eq_nil_iff.mp hlog.2.symm).2
  | packet ht hs ih =>
    obtain ⟨packet, wire, -, -, rfl⟩ := ht
    cases front with
    | nil => cases hc
    | cons t front =>
      rw [List.cons_append, List.cons.injEq] at hlog
      obtain ⟨rfl, hlog⟩ := hlog
      exact ih hlog (by simpa using hc)

lemma Service.eq_nil_behind_bytes (h : Service c log) {wire : Bytes}
    (hlog : .bytes c wire :: log = front ++ back) (hc : .close c ∈ front) : back = [] := by
  cases front with
  | nil => cases hc
  | cons t front =>
    rw [List.cons_append, List.cons.injEq] at hlog
    obtain ⟨rfl, hlog⟩ := hlog
    exact h.eq_nil_of_close_mem hlog (by simpa using hc)

/-- A request to close is always the last. -/
lemma Conversation.eq_nil_of_close_mem (h : Conversation c log) (hlog : log = front ++ back)
    (hc : .close c ∈ front) : back = [] := by
  cases h with
  | silent => exact Service.nil.eq_nil_of_close_mem hlog hc
  | rejected => exact Service.close.eq_nil_of_close_mem hlog hc
  | refused hw => exact Service.close.eq_nil_behind_bytes hlog hc
  | accepted hw hs => exact hs.eq_nil_behind_bytes hlog hc

end Close

namespace Router

variable {r r' : Router} {event : Event} {actions : List Action} {events : List Event}
  {c : ConnectionId}

/-- What goes out to `c` while some events are handled. -/
def sentTo (c : ConnectionId) (r : Router) (events : List Event) : List Transmission :=
  outputTo c (r.run events).2

lemma sentTo_cons : r.sentTo c (event :: events) =
    outputTo c (r.step event).2 ++ (r.step event).1.sentTo c events := by
  rw [sentTo, run_cons, outputTo_append]
  rfl

lemma sentTo_append {before after : List Event} : r.sentTo c (before ++ after) =
    r.sentTo c before ++ (r.run before).1.sentTo c after := by
  rw [sentTo, run_append, outputTo_append]
  rfl

/-! ### One turn -/

/-- The router drops what comes from `c`, which it does not know or has closed. -/
def Ignores (r : Router) (c : ConnectionId) : Prop :=
  r.phase c = none ∨ r.phase c = some .closed

lemma Ignores.phase_ne_awaiting (h : r.Ignores c) : r.phase c ≠ some .awaitingConnect := by
  rcases h with h | h <;> simp [h]

lemma Ignores.not_isConnected (h : r.Ignores c) : ¬ r.isConnected c = true := by
  rw [isConnected_iff]
  rintro ⟨id, hid⟩
  rcases h with h | h <;> rw [h] at hid <;> cases hid

lemma isService_forward {qos : QoS} {h : PublishHeader} {message : Bytes} {s : Subscriber} :
    (forward qos h message s).IsService := ⟨rfl, rfl⟩

lemma acknowledgement_cases {id : Option UInt16} {levels : List QoS} {packet : Packet}
    (h : acknowledgement id levels = some packet) :
    ∃ i, packet = .pubAck i ∨ packet = .pubRec i := by
  rw [acknowledgement.eq_def] at h
  split at h <;> cases h
  · exact ⟨_, .inl rfl⟩
  · exact ⟨_, .inr rfl⟩

lemma isService_of_acknowledgement {id : Option UInt16} {levels : List QoS} {packet : Packet}
    (h : acknowledgement id levels = some packet) : packet.IsService := by
  obtain ⟨i, rfl | rfl⟩ := acknowledgement_cases h <;> exact ⟨rfl, rfl⟩

/-- Publishing acknowledges to the publisher, and forwards to subscribers that can be served. -/
lemma mem_publish {qos : QoS} {h : PublishHeader} {message : Bytes} {action : Action}
    (ha : action ∈ (r.publish c qos h message).2) :
    (∃ packet levels, acknowledgement h.packetId levels = some packet ∧ action = .send c packet) ∨
      ∃ s ∈ r.subscriptions.subscribers h.topic, isServed h.packetId s = true ∧
        action = .send s.connection (forward qos h message s) := by
  rw [publish] at ha
  rcases List.mem_append.mp ha with ha | ha
  · obtain ⟨packet, hp, rfl⟩ := Option.map_eq_some_iff.mp (Option.mem_toList.mp ha)
    exact .inl ⟨packet, _, hp, rfl⟩
  · obtain ⟨s, hs, rfl⟩ := List.mem_map.mp ha
    obtain ⟨hs, hserved⟩ := List.mem_filter.mp hs
    exact .inr ⟨s, hs, hserved, rfl⟩

lemma serves_of_send {packet : Packet} {t : Transmission} (hp : packet.IsService)
    (ht : (Action.send c packet).transmission? = some t) : t.Serves c := by
  rw [Action.transmission?] at ht
  split at ht <;> cases ht
  exact ⟨packet, _, hp, ‹_›, rfl⟩

lemma serves_of_mem_output {packet : Packet} {t : Transmission} (hp : packet.IsService)
    (ht : t ∈ outputTo c [.send c packet]) : t.Serves c := by
  obtain ⟨action, ha, -, hta⟩ := mem_outputTo ht
  rw [List.mem_singleton.mp ha] at hta
  exact serves_of_send hp hta

/-- All that an event brings to another connection than its own is a message to which that one is
subscribed. -/
lemma Turn.forward_of_ne (turn : Turn r event r' actions) {action : Action} (ha : action ∈ actions)
    (hc : event.connection ≠ action.connection) :
    ∃ qos h message, ∃ s ∈ r.subscriptions.subscribers h.topic,
      action = .send s.connection (forward qos h message s) := by
  cases turn with
  | published hd hp =>
    rcases mem_publish ha with ⟨packet, _, -, rfl⟩ | ⟨s, hs, -, rfl⟩
    · exact absurd rfl hc
    · exact ⟨_, _, _, s, hs, rfl⟩
  | accepted | pinged | subscribed | unsubscribed | premature | ended =>
    rw [List.mem_singleton.mp ha] at hc
    exact absurd rfl hc
  | refused hd hp hcheck =>
    rcases List.mem_cons.mp ha with rfl | ha
    · exact absurd rfl hc
    · rw [List.mem_singleton.mp ha] at hc
      exact absurd rfl hc
  | opened | closed | dropped | ignored => cases ha

/-- What goes out to another connection than the one an event happens to serves its session. -/
lemma Turn.serves_of_ne (turn : Turn r event r' actions) (hw : r.subscriptions.WellFormed)
    (hs : r.Settled c) (hc : event.connection ≠ c) {t : Transmission}
    (ht : t ∈ outputTo c actions) : r.isConnected c = true ∧ t.Serves c := by
  obtain ⟨action, ha, rfl, hta⟩ := mem_outputTo ht
  obtain ⟨qos, h, message, s, hmem, rfl⟩ := turn.forward_of_ne ha hc
  exact ⟨(hs _ _ ((mem_subscribers_iff hw).mp hmem)).1, serves_of_send isService_forward hta⟩

/-- Nothing goes out to a connection that is ignored. -/
lemma Turn.output_of_ignores (turn : Turn r event r' actions) (hw : r.subscriptions.WellFormed)
    (hs : r.Settled c) (hi : r.Ignores c) : outputTo c actions = [] := by
  by_cases hc : event.connection = c
  · subst hc
    cases turn with
    | opened | closed | dropped => rfl
    | accepted hd | refused hd | premature hd => exact absurd hd hi.phase_ne_awaiting
    | ended hd | ignored hd | pinged hd | published hd | subscribed hd | unsubscribed hd =>
      exact absurd hd hi.not_isConnected
  · refine List.eq_nil_iff_forall_not_mem.mpr fun t ht => ?_
    exact hi.not_isConnected (turn.serves_of_ne hw hs hc ht).1

/-- What is ignored stays so until it is opened. -/
lemma Turn.ignores (turn : Turn r event r' actions) (hi : r.Ignores c)
    (ho : event ≠ .opened c) : r'.Ignores c := by
  by_cases hc : event.connection = c
  · subst hc
    cases turn with
    | opened d => exact absurd rfl ho
    | closed d => exact .inl (phase_noteClosed.trans (if_pos rfl))
    | dropped => exact hi
    | accepted hd | refused hd | premature hd => exact absurd hd hi.phase_ne_awaiting
    | ended hd | ignored hd | pinged hd | published hd | subscribed hd | unsubscribed hd =>
      exact absurd hd hi.not_isConnected
  · rwa [Ignores, turn.phase_of_ne hc]

lemma ignores_shut (h : r.phase c ≠ none) : (r.shut c).1.Ignores c := by
  obtain ⟨p, hp⟩ := Option.ne_none_iff_exists'.mp h
  right
  rw [phase_shut, if_pos rfl, hp]
  rfl

/-- A connection that waits for its CONNECT goes on waiting, is accepted, or is shut out. -/
lemma Turn.output_of_awaiting (turn : Turn r event r' actions) (hw : r.subscriptions.WellFormed)
    (hs : r.Settled c) (hp : r.phase c = some .awaitingConnect) (ho : event ≠ .opened c) :
    (r'.phase c = some .awaitingConnect ∧ outputTo c actions = []) ∨
      (r'.isConnected c = true ∧ ∃ wire, (Packet.connAck false .accepted).encode = .ok wire ∧
        outputTo c actions = [.bytes c wire]) ∨
      (r'.Ignores c ∧ Conversation c (outputTo c actions)) := by
  have hnot : ¬ r.isConnected c = true := by
    rw [isConnected_eq_false_of_phase hp (by simp)]
    simp
  by_cases hc : event.connection = c
  · subst hc
    cases turn with
    | opened d => exact absurd rfl ho
    | closed d => exact .inr (.inr ⟨.inl (phase_noteClosed.trans (if_pos rfl)), .silent⟩)
    | dropped hd => exact absurd hp (Ignores.phase_ne_awaiting hd)
    | accepted hd hbody hcheck =>
      refine .inr (.inl ⟨isConnected_iff.mpr ⟨_, phase_set.trans (if_pos rfl)⟩, ?_⟩)
      exact ⟨_, encode_connAck .accepted, outputTo_cons_send (encode_connAck .accepted)⟩
    | refused hd hbody hcheck =>
      refine .inr (.inr ⟨ignores_shut (by simp [hd]), ?_⟩)
      have hwire := encode_connAck .badUserNameOrPassword
      rw [Event.connection, outputTo_cons_send hwire, outputTo_cons_close]
      exact .refused hwire
    | premature hd hbody =>
      refine .inr (.inr ⟨ignores_shut (by simp [hd]), ?_⟩)
      rw [Event.connection, outputTo_cons_close]
      exact .rejected
    | ended hd | ignored hd | pinged hd | published hd | subscribed hd | unsubscribed hd =>
      exact absurd hd hnot
  · refine .inl ⟨(turn.phase_of_ne hc).trans hp, List.eq_nil_iff_forall_not_mem.mpr fun t ht => ?_⟩
    exact hnot (turn.serves_of_ne hw hs hc ht).1

/-- A connection that has a session is served, or its session ends. -/
lemma Turn.output_of_connected (turn : Turn r event r' actions) (hw : r.subscriptions.WellFormed)
    (hs : r.Settled c) (hc : r.isConnected c = true) (ho : event ≠ .opened c) :
    (r'.isConnected c = true ∧ ∀ t ∈ outputTo c actions, t.Serves c) ∨
      (r'.Ignores c ∧ Service c (outputTo c actions)) := by
  have hphase : r.phase c ≠ some .awaitingConnect ∧ r.phase c ≠ none := by
    obtain ⟨id, hid⟩ := isConnected_iff.mp hc
    simp [hid]
  by_cases he : event.connection = c
  · subst he
    cases turn with
    | opened d => exact absurd rfl ho
    | closed d => exact .inr ⟨.inl (phase_noteClosed.trans (if_pos rfl)), .nil⟩
    | dropped hd => exact absurd hc (Ignores.not_isConnected hd)
    | accepted hd | refused hd | premature hd => exact absurd hd hphase.1
    | ended hd hbody =>
      refine .inr ⟨ignores_shut hphase.2, ?_⟩
      rw [Event.connection, outputTo_cons_close]
      exact .close
    | ignored hd hbody => exact .inl ⟨hc, fun t ht => by cases ht⟩
    | pinged hd hbody => exact .inl ⟨hc, fun t ht => serves_of_mem_output ⟨rfl, rfl⟩ ht⟩
    | published hd hbody =>
      refine .inl ⟨hc, fun t ht => ?_⟩
      obtain ⟨action, ha, hac, hta⟩ := mem_outputTo ht
      rcases mem_publish ha with ⟨packet, _, hack, rfl⟩ | ⟨s, -, -, rfl⟩
      · exact serves_of_send (isService_of_acknowledgement hack) hta
      · rw [← hac]
        exact serves_of_send isService_forward hta
    | subscribed hd hbody => exact .inl ⟨hc, fun t ht => serves_of_mem_output ⟨rfl, rfl⟩ ht⟩
    | unsubscribed hd hbody => exact .inl ⟨hc, fun t ht => serves_of_mem_output ⟨rfl, rfl⟩ ht⟩
  · refine .inl ⟨(isConnected_congr (turn.phase_of_ne he)).trans hc, fun t ht => ?_⟩
    exact (turn.serves_of_ne hw hs he ht).2

/-! ### Runs -/

lemma sentTo_of_ignores (hw : r.subscriptions.WellFormed) (hs : r.Settled c) (hi : r.Ignores c)
    (ho : .opened c ∉ events) : r.sentTo c events = [] := by
  induction events generalizing r with
  | nil => rfl
  | cons event events ih =>
    rw [List.mem_cons, not_or] at ho
    have turn := turn_step r event
    have hs' := turn.settled hw hs fun h => absurd h.symm ho.1
    rw [sentTo_cons, turn.output_of_ignores hw hs hi, List.nil_append]
    exact ih (turn.wellFormed hw) hs' (turn.ignores hi (Ne.symm ho.1)) ho.2

lemma service_of_isConnected (hw : r.subscriptions.WellFormed) (hs : r.Settled c)
    (hc : r.isConnected c = true) (ho : .opened c ∉ events) : Service c (r.sentTo c events) := by
  induction events generalizing r with
  | nil => exact .nil
  | cons event events ih =>
    rw [List.mem_cons, not_or] at ho
    have turn := turn_step r event
    have hs' := turn.settled hw hs fun h => absurd h.symm ho.1
    rw [sentTo_cons]
    rcases turn.output_of_connected hw hs hc (Ne.symm ho.1) with ⟨hc', hserves⟩ | ⟨hi, hservice⟩
    · exact .append hserves (ih (turn.wellFormed hw) hs' hc' ho.2)
    · rwa [sentTo_of_ignores (turn.wellFormed hw) hs' hi ho.2, List.append_nil]

lemma conversation_of_awaiting (hw : r.subscriptions.WellFormed) (hs : r.Settled c)
    (hp : r.phase c = some .awaitingConnect) (ho : .opened c ∉ events) :
    Conversation c (r.sentTo c events) := by
  induction events generalizing r with
  | nil => exact .silent
  | cons event events ih =>
    rw [List.mem_cons, not_or] at ho
    have turn := turn_step r event
    have hs' := turn.settled hw hs fun h => absurd h.symm ho.1
    rw [sentTo_cons]
    rcases turn.output_of_awaiting hw hs hp (Ne.symm ho.1) with
      ⟨hp', hout⟩ | ⟨hc, wire, hwire, hout⟩ | ⟨hi, hconversation⟩
    · rw [hout]
      exact ih (turn.wellFormed hw) hs' hp' ho.2
    · rw [hout]
      exact .accepted hwire (service_of_isConnected (turn.wellFormed hw) hs' hc ho.2)
    · rwa [sentTo_of_ignores (turn.wellFormed hw) hs' hi ho.2, List.append_nil]

lemma conversation_of_unknown (hw : r.subscriptions.WellFormed) (hs : r.Settled c)
    (hp : r.phase c = none) (ho : events.count (.opened c) ≤ 1) :
    Conversation c (r.sentTo c events) := by
  induction events generalizing r with
  | nil => exact .silent
  | cons event events ih =>
    have turn := turn_step r event
    have hs' := turn.settled hw hs fun _ => hp
    rw [sentTo_cons, turn.output_of_ignores hw hs (.inl hp), List.nil_append]
    by_cases he : event = .opened c
    · subst he
      rw [List.count_cons_self] at ho
      have hnot : .opened c ∉ events := List.count_eq_zero.mp (by omega)
      exact conversation_of_awaiting hw hs' (phase_noteOpened.trans (if_pos rfl)) hnot
    · rw [List.count_cons_of_ne he] at ho
      exact ih (turn.wellFormed hw) hs' (turn.phase_eq_none hp he) ho

/-- What goes out to `c` while the events are handled keeps to the grammar, and to the time between
the opening of `c` and its end. -/
structure Orderly (r : Router) (c : ConnectionId) (events : List Event) : Prop where
  conversation : Conversation c (r.sentTo c events)
  /-- Nothing goes out before `c` is opened. -/
  unopened : ∀ before after, events = before ++ after → .opened c ∉ before →
    r.sentTo c before = []
  /-- Nothing goes out after a request to close. -/
  shut : ∀ before after, events = before ++ after → .close c ∈ r.sentTo c before →
    r.sentTo c events = r.sentTo c before
  /-- Nothing goes out after the end of `c` was reported. The condition sets aside only an end that
was reported before `c` was opened: where the opening happens once, it follows no other. -/
  ended : ∀ before after, events = before ++ .closed c :: after → .opened c ∉ after →
    r.sentTo c events = r.sentTo c before

/-- Where no connection is opened twice, what goes out to each of them is orderly. -/
theorem orderly_of_opensOnce (check : CredentialCheck) (maxQoS : QoS)
    (ho : ∀ d, events.count (.opened d) ≤ 1) (c : ConnectionId) :
    (new check maxQoS).Orderly c events := by
  have hreach : ∀ before after, events = before ++ after →
      Reachable check maxQoS ((new check maxQoS).run before).1 := by
    rintro before after rfl
    refine Reachable.new.run fun d => opensOnce_new (Nat.le_trans ?_ (ho d))
    rw [List.count_append]
    omega
  have hconversation : Conversation c ((new check maxQoS).sentTo c events) :=
    conversation_of_unknown Subscriptions.wellFormed_empty (settled_of_reachable .new c) rfl (ho c)
  refine ⟨hconversation, ?_, ?_, ?_⟩
  · intro before after _ hnot
    exact sentTo_of_ignores Subscriptions.wellFormed_empty (settled_of_reachable .new c)
      (.inl rfl) hnot
  · rintro before after rfl hclose
    rw [sentTo_append] at hconversation ⊢
    rw [hconversation.eq_nil_of_close_mem rfl hclose, List.append_nil]
  · rintro before after rfl hnot
    have hr := hreach before (.closed c :: after) rfl
    have hr' := @Reachable.step check maxQoS _ (.closed c) hr (by simp)
    have hi : (((new check maxQoS).run before).1.noteClosed c).Ignores c :=
      .inl (phase_noteClosed.trans (if_pos rfl))
    rw [sentTo_append, sentTo_cons,
      sentTo_of_ignores (wellFormed_of_reachable hr') (settled_of_reachable hr' c) hi hnot]
    exact List.append_nil _

/-- One client is served, and sends a PINGREQ after its DISCONNECT; the other one is refused, and
subscribes nevertheless to what the first one publishes. -/
theorem orderly_of_opensOnce_two :
    let subscribe : Packet := .subscribe 7 [⟨"a", .exactlyOnce⟩]
    let publish : Packet := .publish "a" .exactlyOnce (some 5) [0xFF]
    let events : List Event :=
      [.opened ⟨1⟩, .opened ⟨2⟩,
        .packet ⟨1⟩ ((ConnectRequest.new "x" 0).withCredentials "u" (some [1])).packet,
        .packet ⟨2⟩ (ConnectRequest.new "y" 0).packet, .packet ⟨2⟩ subscribe,
        .packet ⟨1⟩ subscribe, .packet ⟨1⟩ publish, .packet ⟨1⟩ .disconnect,
        .packet ⟨1⟩ .pingReq, .closed ⟨1⟩]
    let r := new (.only "u" [1]) .atLeastOnce
    (∀ d, events.count (.opened d) ≤ 1) ∧
      r.sentTo ⟨1⟩ events =
        [.bytes ⟨1⟩ [0x20, 0x02, 0x00, 0x00], .bytes ⟨1⟩ [0x90, 0x03, 0x00, 0x07, 0x01],
          .bytes ⟨1⟩ [0x40, 0x02, 0x00, 0x05],
          .bytes ⟨1⟩ [0x32, 0x06, 0x00, 0x01, 0x61, 0x00, 0x05, 0xFF], .close ⟨1⟩] ∧
      r.sentTo ⟨2⟩ events = [.bytes ⟨2⟩ [0x20, 0x02, 0x00, 0x04], .close ⟨2⟩] ∧
      r.Orderly ⟨1⟩ events ∧ r.Orderly ⟨2⟩ events := by
  intro subscribe publish events r
  have ho : ∀ d, events.count (.opened d) ≤ 1 := fun d =>
    List.nodup_iff_count_le_one.mp (by decide) _
  exact ⟨ho, by decide, by decide, orderly_of_opensOnce _ _ ho ⟨1⟩, orderly_of_opensOnce _ _ ho ⟨2⟩⟩

end Router

end Mqtt
