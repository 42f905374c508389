import Mqtt.Proofs.Broker.Splitting

/-!
# Too much in one chunk

A session submits all packets of a chunk before it looks at its outbox again. Where one chunk brings
more packets than there is room for, the outbox may therefore overflow, and the session is over
before its time (`Hub.exists_serves_isEnded`), though the client reads all it is written and the
same bytes in smaller chunks do no harm.
-/

namespace Mqtt

namespace Station

variable {s : Actor} {st st' : Station} {m : Move} {act : Option Actor.Step}

lemma connection_readSome (st : Station) (n : Nat) : (st.readSome n).connection = st.connection :=
  connection_react (.chunk (st.unread.take n))

lemma Moved.isReceiving_eq_false (hm : Moved s st m st' act)
    {i : Nat} (hb : (Hub.Step.move i m).isBusy = true) {a : Actor.Step} (ha : act = some a) :
    a.isReceiving = false := by
  cases hm with
  | idle | write | read | endOfStream | endOfOutbox => cases ha
  | take | leave => cases hb
  | @submit event =>
    cases ha
    cases event <;> rfl

end Station

namespace Hub

variable {check : CredentialCheck} {maxQoS : QoS} {hub : Hub} {steps : List Step} {st : Station}

/-! ### Nobody looks -/

/-- A busy session does not look at its outbox. -/
lemma isReceiving_actsOf (h : ∀ a ∈ steps, a.isBusy = true) :
    ∀ act ∈ hub.actsOf steps, act.isReceiving = false := by
  refine hub.forall_mem_actsOf fun a ha hub act hact => ?_
  have hbusy := h a ha
  cases a with
  | connect => cases hbusy
  | decide | perform =>
    rw [List.mem_singleton.mp hact]
    rfl
  | move i m =>
    rw [acts] at hact
    split at hact
    · cases hact
    · rename_i st hi
      exact (st.moved_move hub.actor m).isReceiving_eq_false hbusy (Option.mem_toList.mp hact)

lemma settles_connect (check : CredentialCheck) (maxQoS : QoS) :
    ((new check maxQoS).step .connect).Settles
      (((new check maxQoS).step .connect).step .decide) := by
  refine ⟨⟨rfl, rfl, ?_, ?_⟩, [.decide], by simp [Step.isInternal], rfl⟩
  · intro st hst
    rw [List.mem_singleton.mp hst]
    rfl
  · intro st hst _
    rw [List.mem_singleton.mp hst]
    exact ⟨rfl, rfl, rfl⟩

/-- A client connects, and writes a chunk as soon as it is known to the router. -/
def opening (chunk : Bytes) : List Step := [.connect, .decide, .move 0 (.write chunk)]

/-- The session may read a chunk as a whole and submit all of it before it looks at its outbox. -/
lemma exists_exhausted_of_chunk (check : CredentialCheck) (maxQoS : QoS) (chunk : Bytes) :
    ∃ busy st, (∀ a ∈ busy, a.isBusy = true) ∧ st.connection = ⟨1⟩ ∧ st.read = chunk ∧
      ((new check maxQoS).run (opening chunk ++ busy)).Exhausted st := by
  have hs : ((new check maxQoS).run (opening chunk)).stations =
      [{ Station.new ⟨1⟩ with unread := chunk }] := rfl
  obtain ⟨hub, ⟨busy, hbusy, rfl⟩, hexhausted⟩ := exists_exhausted_of_isWaiting hs ⟨rfl, rfl⟩
  rw [← run_append] at hexhausted
  refine ⟨busy, _, hbusy, ?_, List.take_length, hexhausted⟩
  exact Station.connection_readSome { Station.new ⟨1⟩ with unread := chunk } chunk.length

/-- A session that submits more than there is room for in its outbox, and does not look at this, is
cut off for good. -/
lemma isRegistered_eq_false_of_exhausted {busy more : List Step} {chunk : Bytes}
    (hbusy : ∀ a ∈ busy, a.isBusy = true) (hmore : ∀ a ∈ more, a.isInternal = true)
    (hexhausted : ((new check maxQoS).run (opening chunk ++ busy)).Exhausted st)
    (hlt : Outbox.capacity < Outbound.packets (Router.replies check maxQoS st.connection st.read)) :
    ((new check maxQoS).run (opening chunk ++ busy ++ more)).actor.broker.isRegistered
      st.connection = false := by
  have hbefore : (opening chunk ++ busy).count .connect = 1 := by
    rw [List.count_append, count_connect_eq_zero fun a ha => Step.isInternal_of_isBusy (hbusy a ha)]
    rfl
  have hall : (opening chunk ++ busy ++ more).count .connect = 1 := by
    rw [List.count_append, hbefore, count_connect_eq_zero hmore]
  obtain ⟨horder, -⟩ := inOrder_run check maxQoS (hbefore.trans_lt (by decide))
  obtain ⟨horder', hopens⟩ := inOrder_run check maxQoS (hall.trans_lt (by decide))
  have hissued := horder.issued_eq hexhausted.stations hexhausted.pending hexhausted.events
    hexhausted.outgoing
  rw [horder'.actor]
  rw [actsOf_append] at hopens ⊢
  refine Actor.not_isRegistered_of_lt (hopens.trans_le hall.le) rfl ?_ ?_
  · have hacts : (new check maxQoS).actsOf (opening chunk) = [.openConnection, .decide] := rfl
    rw [actsOf_append, hacts]
    exact List.forall_mem_append.mpr ⟨by decide, isReceiving_actsOf hbusy⟩
  · rw [hissued]
    exact hlt.trans_le (Outbound.packets_le_length _)

/-! ### The session is over -/

/-- Where one chunk brings more packets than there is room for, the session may be over when
everything has come to rest, whether the router asks for it or not. -/
theorem exists_serves_isEnded (check : CredentialCheck) (maxQoS : QoS) {stream : Bytes}
    (hlt : Outbox.capacity < Outbound.packets (Router.replies check maxQoS ⟨1⟩ stream)) :
    ∃ hub, Serves check maxQoS [stream] hub ∧
      hub.stations.map (·.session.isEnded) = [true] := by
  obtain ⟨busy, st, hbusy, hconnection, hread, hexhausted⟩ :=
    exists_exhausted_of_chunk check maxQoS stream
  obtain ⟨hub', hquiescent, more, hmore, hrun⟩ := exists_settles_of_exhausted hexhausted
  rw [← hconnection, ← hread] at hlt
  have hcut := isRegistered_eq_false_of_exhausted hbusy hmore hexhausted hlt
  rw [run_append, hrun] at hcut
  have hconnections : hub'.connections = [st.connection] := by
    rw [← hrun, connections_run hmore, connections, hexhausted.stations, List.map_singleton]
  obtain ⟨st', hs', hconnection'⟩ := List.map_eq_singleton_iff.mp hconnections
  have hended : st'.session.isEnded = true := by
    by_contra hgoing
    obtain ⟨-, -, hregistered⟩ :=
      hquiescent.waiting st' (hs' ▸ List.mem_singleton_self st') (Bool.eq_false_iff.mpr hgoing)
    rw [hconnection', hcut] at hregistered
    cases hregistered
  refine ⟨hub', ⟨_, settles_connect check maxQoS, .cons ?_ (.nil hub')⟩, by simp [hs', hended]⟩
  refine .of_run (fun a ha => Step.isInternal_of_isBusy (hbusy a ha)) ?_
  refine ⟨hquiescent, more, hmore, ?_⟩
  rw [← hrun, run_append]
  rfl

end Hub

/-! ### Pings -/

/-- The CONNECT of a client named "x". -/
def greeting : Bytes :=
  [0x10, 0x0D, 0x00, 0x04, 0x4D, 0x51, 0x54, 0x54, 0x04, 0x02, 0x00, 0x00, 0x00, 0x01, 0x78]

/-- As many PINGREQs in a row. -/
def pings (k : Nat) : Bytes := (List.replicate k [0xC0, 0x00]).flatten

lemma pings_append (k l : Nat) : pings k ++ pings l = pings (k + l) := by
  rw [pings, pings, pings, ← List.flatten_append, List.replicate_append_replicate]

lemma receive_pings (k : Nat) : (Decoder.new.receive (pings k)).error = none ∧
    (Decoder.new.receive (pings k)).packets = List.replicate k .pingReq := by
  induction k with
  | zero =>
    rw [pings, List.replicate_zero, List.flatten_nil, Decoder.settled_new]
    exact ⟨rfl, rfl⟩
  | succ k ih =>
    have hsplits := Decoder.receive_append .new [0xC0, 0x00] (pings k)
    have hping : Decoder.new.receive [0xC0, 0x00] = ⟨.new, [⟨.pingReq, 0, []⟩], none⟩ := by cbv
    rw [hping] at hsplits
    have hpings : pings (k + 1) = [0xC0, 0x00] ++ pings k := by
      rw [pings, List.replicate_succ, List.flatten_cons]
      rfl
    rw [hpings, hsplits.error, hsplits.packets, ih.1, ih.2, List.replicate_succ]
    exact ⟨rfl, rfl⟩

namespace Router

variable {r : Router} {c : ConnectionId} {check : CredentialCheck} {maxQoS : QoS} {stream : Bytes}

lemma step_pingReq (h : r.isConnected c = true) :
    r.step (.packet c .pingReq) = (r, [.send c .pingResp]) := by
  rw [step_of_isConnected h]
  rfl

lemma sentTo_pingReq (h : r.isConnected c = true) (k : Nat) :
    (r.sentTo c (List.replicate k (.packet c .pingReq))).map (·.item) =
      List.replicate k (.packet [0xD0, 0x00]) := by
  induction k with
  | zero => rfl
  | succ k ih =>
    have hpong : Packet.pingResp.encode = .ok [0xD0, 0x00] := rfl
    rw [List.replicate_succ, sentTo_cons, step_pingReq h, List.map_append, ih,
      outputTo_cons_send hpong, List.replicate_succ]
    rfl

/-- Every ping of a client who is connected is answered. -/
lemma replies_pings (hd : (Decoder.new.receive stream).decoder = .new)
    (hc : ((new check maxQoS).run (.opened c ::
      (Decoder.new.receive stream).packets.map (.packet c))).1.isConnected c = true) (k : Nat) :
    replies check maxQoS c (stream ++ pings k) =
      replies check maxQoS c stream ++ List.replicate k (.packet [0xD0, 0x00]) := by
  have hsplits := Decoder.receive_append .new stream (pings k)
  rw [hd] at hsplits
  rw [replies, hsplits.packets, (receive_pings k).2, List.map_append, List.map_replicate,
    ← List.cons_append, sentTo_append, List.map_append, sentTo_pingReq hc]
  rfl

end Router

section Greeted

variable (k : Nat)

lemma error_greeting_pings : (Decoder.new.receive (greeting ++ pings k)).error = none := by
  have hsplits := Decoder.receive_append .new greeting (pings k)
  have hdecoder : (Decoder.new.receive greeting).decoder = .new := by cbv
  have herror : (Decoder.new.receive greeting).error = none := by cbv
  rw [hsplits.error, hdecoder, herror, (receive_pings k).1]
  rfl

lemma replies_greeting_pings :
    Router.replies .anyone .atMostOnce ⟨1⟩ (greeting ++ pings k) =
      .packet [0x20, 0x02, 0x00, 0x00] :: List.replicate k (.packet [0xD0, 0x00]) := by
  have hconnAck : Router.replies .anyone .atMostOnce ⟨1⟩ greeting =
      [.packet [0x20, 0x02, 0x00, 0x00]] := by cbv
  rw [Router.replies_pings (by cbv) (by cbv), hconnAck]
  rfl

lemma close_not_mem_replies_pings :
    .close ∉ Router.replies .anyone .atMostOnce ⟨1⟩ (greeting ++ pings k) := by
  rw [replies_greeting_pings]
  simp

lemma packets_replies_pings :
    Outbound.packets (Router.replies .anyone .atMostOnce ⟨1⟩ (greeting ++ pings k)) = k + 1 := by
  rw [Outbound.packets_eq_length (close_not_mem_replies_pings k), replies_greeting_pings,
    List.length_cons, List.length_replicate]

end Greeted

namespace Hub

/-- Two thousand PINGREQs are answered when they come in two chunks. In one chunk they may be the end
of the session, though a decoder accepts them and the client reads all it is written. -/
theorem not_sameOutcome_of_pings :
    let chunks := [greeting, pings 1000, pings 1000]
    let stream := greeting ++ pings 2000
    chunks.flatten = stream ∧ (Decoder.new.receive stream).error = none ∧
      ∃ hub hub', Serves .anyone .atMostOnce chunks hub ∧
        Serves .anyone .atMostOnce [stream] hub' ∧ ¬ hub.SameOutcome hub' := by
  intro chunks stream
  have hflatten : chunks.flatten = stream := by
    simp only [chunks, List.flatten_cons, List.flatten_nil, List.append_nil, pings_append]
    rfl
  have hsound : (Decoder.new.receive chunks.flatten).error = none :=
    hflatten ▸ error_greeting_pings 2000
  have hgreeting : Outbound.packets (Router.replies .anyone .atMostOnce ⟨1⟩ greeting) = 1 := by
    simpa [pings] using packets_replies_pings 0
  have hmodest : Modest .anyone .atMostOnce [] chunks := by
    simp only [chunks, Modest, List.nil_append, List.append_assoc, pings_append,
      packets_replies_pings, hgreeting, Outbox.capacity]
    exact ⟨by omega, by omega, by omega, trivial⟩
  have hlt : Outbox.capacity <
      Outbound.packets (Router.replies .anyone .atMostOnce ⟨1⟩ stream) := by
    rw [packets_replies_pings]
    decide
  obtain ⟨hub, hserves⟩ := exists_serves .anyone .atMostOnce chunks
  obtain ⟨hub', hserves', hended'⟩ := exists_serves_isEnded .anyone .atMostOnce hlt
  refine ⟨hflatten, hflatten ▸ hsound, hub, hub', hserves, hserves', fun hsame => ?_⟩
  obtain ⟨st, hs, -, hended⟩ := exists_outcome_of_serves hsound hmodest hserves
  rw [hflatten] at hended
  have hst : st.session.isEnded = true := by
    have heq := hsame.ended
    rw [hs, hended'] at heq
    exact List.singleton_inj.mp heq
  exact close_not_mem_replies_pings 2000 (hended.mp hst)

end Hub

end Mqtt
