import Mqtt.Proofs.Broker.Representation

/-!
# Servers as hubs

A `Server` takes its steps in a fixed order: what its clients do is handled to the end before they
do anything else. Whatever it comes to in this way, a hub may come to as well
(`Hub.exists_run_represents`), so that what holds of all runs of hubs holds of the server.
-/

namespace Mqtt

/-- What a session finds in its outbox. -/
def Drained.inputs (drained : Drained) : List Session.Input :=
  let inputs := drained.items.map Session.Input.outbound
  if drained.isEnded then inputs ++ [.endOfOutbox] else inputs

namespace Client

variable {client : Client}

lemma react_packet (h : client.session.isEnded = false) (bytes : Bytes) :
    client.react (.outbound (.packet bytes)) =
      ({ client with unread := client.unread ++ bytes }, []) := by
  simp [react, Session.react, h]

lemma isEnded_react_close : (client.react (.outbound .close)).1.session.isEnded = true := by
  by_cases h : client.session.isEnded = true
  · rw [react_of_isEnded h, h]
  · simp [react, Session.react, Session.finish, h]

lemma reactAll_cons (client : Client) (input : Session.Input) (inputs : List Session.Input) :
    client.reactAll (input :: inputs) = (((client.react input).1.reactAll inputs).1,
      (client.react input).2 ++ ((client.react input).1.reactAll inputs).2) := rfl

lemma connection_reactAll (client : Client) (inputs : List Session.Input) :
    (client.reactAll inputs).1.session.connection = client.session.connection := by
  induction inputs generalizing client with
  | nil => rfl
  | cons input inputs ih =>
    rw [reactAll_cons]
    exact (ih _).trans (client.connection_react input)

lemma reactAll_concat (client : Client) (inputs : List Session.Input) (input : Session.Input) :
    client.reactAll (inputs ++ [input]) = (((client.reactAll inputs).1.react input).1,
      (client.reactAll inputs).2 ++ ((client.reactAll inputs).1.react input).2) := by
  induction inputs generalizing client with
  | nil =>
    rw [List.nil_append, reactAll_cons, reactAll, reactAll, List.append_nil, List.nil_append]
  | cons first inputs ih =>
    rw [List.cons_append, reactAll_cons, ih, reactAll_cons, List.append_assoc]

lemma reactAll_of_isEnded (h : client.session.isEnded = true) (inputs : List Session.Input) :
    client.reactAll inputs = (client, []) := by
  induction inputs with
  | nil => rfl
  | cons input inputs ih =>
    rw [reactAll_cons, react_of_isEnded h, ih]
    rfl

/-- A session that goes on after what it took has nothing to submit. -/
lemma reactAll_snd_eq_nil {items : List Outbound}
    (h : (client.reactAll (items.map .outbound)).1.session.isEnded = false) :
    (client.reactAll (items.map .outbound)).2 = [] := by
  induction items generalizing client with
  | nil => rfl
  | cons item items ih =>
    rw [List.map_cons, reactAll_cons] at h ⊢
    by_cases he : client.session.isEnded = true
    · rw [react_of_isEnded he, reactAll_of_isEnded he]
      rfl
    · cases item with
      | packet bytes =>
        rw [react_packet (Bool.eq_false_iff.mpr he)] at h ⊢
        exact ih h
      | close =>
        rw [reactAll_of_isEnded isEnded_react_close, isEnded_react_close] at h
        cases h

end Client

namespace Roster

variable {α : Type} {c : ConnectionId} {roster : Roster α}

lemma set_modify (f : α → α) (a : α) : (roster.modify c f).set c a = roster.set c a := by
  induction roster with
  | nil => rfl
  | cons entry rest ih =>
    obtain ⟨d, b⟩ := entry
    by_cases hd : d = c <;> simp [modify, set, hd, ih]

lemma set_eq_self {a : α} (h : roster.find? c = some a) : roster.set c a = roster := by
  induction roster with
  | nil => cases h
  | cons entry rest ih =>
    obtain ⟨d, b⟩ := entry
    by_cases hd : d = c
    · rw [find?, if_pos hd] at h
      cases h
      rw [set, if_pos hd, hd]
    · rw [find?, if_neg hd] at h
      rw [set, if_neg hd, ih h]

end Roster

namespace Hub

variable {check : CredentialCheck} {maxQoS : QoS} {n j : Nat} {seen : Nat → Bytes}
  {outgoing : Nat → List Event} {hub : Hub} {server : Server} {b b' : Broker}
  {clients : List Client} {client client' : Client} {st : Station} {c : ConnectionId} {box : Outbox}
  {event : Event} {events : List Event}

/-! ### Writing -/

/-- Nothing is in the outbox behind the request to close. -/
lemma InOrder.queued_eq_nil {acts : List Actor.Step} (h : InOrder check maxQoS acts hub)
    (hcount : acts.count .openConnection < 2 ^ 64) (hst : st ∈ hub.stations)
    (hclose : .close ∈ (Actor.new check maxQoS).taken st.connection acts) :
    hub.actor.queued st.connection = [] := by
  have hproceeds : (Actor.new check maxQoS).Proceeds st.connection acts := Actor.proceeds_new hcount
  have hle : _ <+: (Actor.new check maxQoS).issued st.connection acts :=
    Actor.taken_append_queued_le hproceeds
  have htaken := Actor.eq_issued_of_close_mem (h.count_opened_le hst)
    ((List.prefix_append ..).trans hle) hclose
  rw [← h.actor, ← htaken] at hle
  exact List.append_right_eq_self.mp (hle.eq_of_length_le (by simp))

/-- What happens where a session takes the next item out of its outbox. -/
lemma Represents.move_take (h : Represents check maxQoS n seen outgoing hub ⟨b, clients⟩)
    (hj : clients[j]? = some client) (ho : outgoing j = [])
    (hgoing : client.session.isEnded = false) (hc : client.session.connection = c)
    (hbox : b.outbox? c = some box) {item : Outbound} {rest : List Outbound}
    (hitems : box.items = item :: rest) :
    ∃ st, hub.stations[j]? = some st ∧ client.Mirrors (seen j) [] st ∧
      st.move hub.actor .take = (st.react (.outbound item), some (.receive c 1)) := by
  obtain ⟨st, hst, hm⟩ := h.exists_station hj
  rw [ho] at hm
  have hactor : hub.actor = ⟨b, []⟩ := h.actor
  have hconnection : st.connection = c := hm.connection.trans hc
  have hw : st.IsWaiting := hm.isWaiting hgoing
  have hq : hub.actor.queued c = item :: rest := by
    rw [hactor, Actor.queued_of_some hbox, hitems]
  refine ⟨st, hst, hm, ?_⟩
  simp only [Station.move, if_pos hw, hconnection, hq]

lemma Represents.take (h : Represents check maxQoS n seen outgoing hub ⟨b, clients⟩)
    (hj : clients[j]? = some client) (ho : outgoing j = [])
    (hgoing : client.session.isEnded = false) (hc : client.session.connection = c)
    (hbox : b.outbox? c = some box) {item : Outbound} {rest : List Outbound}
    (hitems : box.items = item :: rest) :
    Represents check maxQoS n seen (Function.update outgoing j (client.react (.outbound item)).2)
      (hub.run [.move j .take])
      ⟨{ b with outboxes := b.outboxes.modify c (Outbox.discard 1) },
        clients.set j (client.react (.outbound item)).1⟩ := by
  obtain ⟨st, hst, hm, hmove⟩ := h.move_take hj ho hgoing hc hbox hitems
  refine h.move hj hst hmove (by rintro ⟨⟩) ?_ h.events (hm.react _)
  rw [h.actor]
  rfl

lemma outbox?_discard (hbox : b.outbox? c = some box) :
    ({ b with outboxes := b.outboxes.modify c (Outbox.discard 1) } : Broker).outbox? c =
      some (box.discard 1) := by
  rw [Broker.outbox?, Roster.find?_modify_self]
  exact congrArg _ hbox

/-- The request to close is the last that a session takes. -/
lemma Represents.rest_eq_nil (hn : n < 2 ^ 64)
    (h : Represents check maxQoS n seen outgoing hub ⟨b, clients⟩) (hj : clients[j]? = some client)
    (ho : outgoing j = []) (hgoing : client.session.isEnded = false)
    (hc : client.session.connection = c) (hbox : b.outbox? c = some box) {rest : List Outbound}
    (hitems : box.items = .close :: rest) : rest = [] := by
  have h₁ := h.take hj ho hgoing hc hbox hitems
  obtain ⟨st, hst, hm, hmove⟩ := h.move_take hj ho hgoing hc hbox hitems
  have hlt : j < clients.length := (List.getElem?_eq_some_iff.mp hj).1
  obtain ⟨st₁, hst₁, hm₁⟩ := h₁.exists_station (List.getElem?_set_self hlt)
  have hconnection : st₁.connection = c := by
    rw [hm₁.connection, ← hc]
    exact client.connection_react _
  obtain ⟨before, horder, hcount⟩ := h.reached.exists_inOrder hn
  have hacts : hub.acts (.move j .take) = [.receive c 1] := by
    simp only [acts, hst, hmove, Option.toList_some]
  have horder₁ := horder.step (a := .move j .take) (by rw [hcount]; simpa using hn)
  rw [hacts] at horder₁
  have hclose : .close ∈ (Actor.new check maxQoS).taken st₁.connection
      (before ++ [.receive c 1]) := by
    rw [hconnection, horder.taken_append, h.actor, Actor.taken, Actor.taken, Actor.takenAt_receive,
      Actor.queued_of_some hbox, hitems]
    simp
  have hnil := horder₁.queued_eq_nil (by simpa [hcount] using hn) (List.mem_of_getElem? hst₁) hclose
  have hactor₁ : (hub.step (.move j .take)).actor = ⟨_, []⟩ := h₁.actor
  rw [hactor₁, hconnection, Actor.queued_of_some (outbox?_discard hbox), Outbox.discard,
    hitems] at hnil
  exact hnil

/-- A session takes all that is in its outbox. -/
lemma Represents.takeAll (hn : n < 2 ^ 64)
    (h : Represents check maxQoS n seen outgoing hub ⟨b, clients⟩) (hj : clients[j]? = some client)
    (ho : outgoing j = []) (hgoing : client.session.isEnded = false)
    (hc : client.session.connection = c) (hbox : b.outbox? c = some box) :
    ∃ hub', Represents check maxQoS n seen
      (Function.update outgoing j (client.reactAll (box.items.map .outbound)).2) hub'
      ⟨{ b with outboxes := b.outboxes.set c box.drain.2 },
        clients.set j (client.reactAll (box.items.map .outbound)).1⟩ := by
  have hlt : j < clients.length := (List.getElem?_eq_some_iff.mp hj).1
  induction hitems : box.items generalizing hub b clients client box outgoing with
  | nil =>
    have hdrain : box.drain.2 = box := by
      rw [Outbox.drain, ← hitems]
    rw [hdrain, Roster.set_eq_self hbox, List.map_nil, Client.reactAll, set_eq_self hj,
      update_nil_eq_self ho]
    exact ⟨hub, h⟩
  | cons item rest ih =>
    have h₁ := h.take hj ho hgoing hc hbox hitems
    rw [List.map_cons, Client.reactAll_cons]
    cases item with
    | packet bytes =>
      rw [Client.react_packet hgoing] at h₁ ⊢
      obtain ⟨hub', h'⟩ := ih h₁ (List.getElem?_set_self hlt) (Function.update_self ..) hgoing hc
        (outbox?_discard hbox) (by simpa using hlt) (by rw [Outbox.discard, hitems]; rfl)
      rw [Function.update_idem, Roster.set_modify, List.set_set] at h'
      exact ⟨hub', h'⟩
    | close =>
      obtain rfl := h.rest_eq_nil hn hj ho hgoing hc hbox hitems
      have hdiscard : box.discard 1 = box.drain.2 := by
        rw [Outbox.discard, Outbox.drain, hitems]
        rfl
      rw [← Roster.set_eq_modify hbox, hdiscard] at h₁
      rw [List.map_nil, Client.reactAll, List.append_nil]
      exact ⟨_, h₁⟩

/-- A session finds that no more will come. -/
lemma Represents.endOfOutbox (h : Represents check maxQoS n seen outgoing hub ⟨b, clients⟩)
    (hj : clients[j]? = some client) (ho : outgoing j = [])
    (hgoing : client.session.isEnded = false) (hc : client.session.connection = c)
    (hbox : b.outbox? c = some box) (hitems : box.items = []) (hopen : box.isOpen = false) :
    Represents check maxQoS n seen (Function.update outgoing j (client.react .endOfOutbox).2)
      (hub.run [.move j .take]) ⟨b, clients.set j (client.react .endOfOutbox).1⟩ := by
  obtain ⟨st, hst, hm⟩ := h.exists_station hj
  rw [ho] at hm
  have hactor : hub.actor = ⟨b, []⟩ := h.actor
  have hconnection : st.connection = c := hm.connection.trans hc
  have hw : st.IsWaiting := hm.isWaiting hgoing
  have hq : hub.actor.queued c = [] := by
    rw [hactor, Actor.queued_of_some hbox, hitems]
  have hr : ¬ hub.actor.broker.isRegistered c = true := by
    rw [hactor, Broker.isRegistered, hbox]
    simp [hopen]
  have hmove : st.move hub.actor .take = (st.react .endOfOutbox, none) := by
    simp only [Station.move, if_pos hw, hconnection, hq, if_neg hr]
  exact h.move hj hst hmove (by rintro ⟨⟩) hactor h.events (hm.react _)

lemma Represents.exists_outbox (hn : n < 2 ^ 64)
    (h : Represents check maxQoS n seen outgoing hub ⟨b, clients⟩)
    (hj : clients[j]? = some client) :
    ∃ box, b.outbox? client.session.connection = some box ∧ box.isAttached = true := by
  obtain ⟨st, hst, hm⟩ := h.exists_station hj
  obtain ⟨acts, horder, -⟩ := h.reached.exists_inOrder hn
  have hne := horder.opened _ (List.mem_map_of_mem (List.mem_of_getElem? hst))
  obtain ⟨box, hbox⟩ := Option.ne_none_iff_exists'.mp hne
  have ha := h.reached.isAttached hbox
  rw [h.actor, hm.connection] at hbox
  exact ⟨box, hbox, ha⟩

/-- A session takes all that is in its outbox, and finds out if no more will come. -/
lemma Represents.receive (hn : n < 2 ^ 64)
    (h : Represents check maxQoS n seen outgoing hub ⟨b, clients⟩) (hj : clients[j]? = some client)
    (ho : outgoing j = []) (hgoing : client.session.isEnded = false) :
    let (b', drained) := b.receive client.session.connection
    ∃ hub', Represents check maxQoS n seen
      (Function.update outgoing j (client.reactAll drained.inputs).2) hub'
      ⟨b', clients.set j (client.reactAll drained.inputs).1⟩ := by
  have hlt : j < clients.length := (List.getElem?_eq_some_iff.mp hj).1
  obtain ⟨box, hbox, ha⟩ := h.exists_outbox hn hj
  obtain ⟨hub₁, h₁⟩ := h.takeAll hn hj ho hgoing rfl hbox
  have hreceive : b.receive client.session.connection =
      ({ b with outboxes := b.outboxes.set client.session.connection box.drain.2 },
        ⟨box.items, !box.isOpen⟩) := by
    rw [Broker.receive, hbox]
    simp [Outbox.drain, ha]
  rw [hreceive]
  dsimp only [Drained.inputs]
  cases hopen : box.isOpen with
  | true => exact ⟨hub₁, h₁⟩
  | false =>
    rw [Bool.not_false, if_pos rfl, Client.reactAll_concat]
    by_cases he : (client.reactAll (box.items.map .outbound)).1.session.isEnded = true
    · rw [Client.react_of_isEnded he, List.append_nil]
      exact ⟨hub₁, h₁⟩
    · have hgoing' := Bool.eq_false_iff.mpr he
      rw [Client.reactAll_snd_eq_nil hgoing'] at h₁ ⊢
      rw [List.nil_append]
      have h₂ := h₁.endOfOutbox (List.getElem?_set_self hlt) (Function.update_self ..) hgoing'
        (Client.connection_reactAll ..) (Roster.find?_set_self ..) rfl hopen
      rw [Function.update_idem, List.set_set] at h₂
      exact ⟨_, h₂⟩

/-- A session writes what is in its outbox. -/
lemma Represents.flush (hn : n < 2 ^ 64)
    (h : Represents check maxQoS n seen outgoing hub ⟨b, clients⟩) (hj : clients[j]? = some client)
    (ho : outgoing j = []) : ∃ hub', Represents check maxQoS n seen outgoing hub'
      ⟨(Server.flush b client).1, clients.set j (Server.flush b client).2⟩ := by
  have hlt : j < clients.length := (List.getElem?_eq_some_iff.mp hj).1
  by_cases he : client.session.isEnded = true
  · rw [Server.flush, if_pos he, set_eq_self hj]
    exact ⟨hub, h⟩
  · obtain ⟨hub₁, h₁⟩ := h.receive hn hj ho (Bool.eq_false_iff.mpr he)
    obtain ⟨hub', h'⟩ := h₁.submitAll hn (List.getElem?_set_self hlt) (Function.update_self ..)
    rw [Function.update_idem, update_nil_eq_self ho] at h'
    rw [Server.flush, if_neg he]
    exact ⟨hub', h'⟩

lemma Represents.flushAll (hn : n < 2 ^ 64) {may : Client → Bool} (front : List Client)
    (h : Represents check maxQoS n seen outgoing hub ⟨b, front ++ clients⟩)
    (hidle : ∀ k client, clients[k]? = some client → may client = true →
      outgoing (front.length + k) = []) :
    ∃ hub', Represents check maxQoS n seen outgoing hub'
      ⟨(Server.flushAll may b clients).1, front ++ (Server.flushAll may b clients).2⟩ := by
  induction clients generalizing hub b front with
  | nil => exact ⟨hub, h⟩
  | cons client clients ih =>
    have hrest : ∀ (client' : Client) k other, clients[k]? = some other → may other = true →
        outgoing ((front ++ [client']).length + k) = [] := by
      intro client' k other hk hmay
      rw [List.length_append, List.length_singleton, Nat.add_assoc, Nat.add_comm 1]
      exact hidle (k + 1) other hk hmay
    by_cases hmay : may client = true
    · have hj : (front ++ client :: clients)[front.length]? = some client := by simp
      obtain ⟨hub₁, h₁⟩ := h.flush hn hj (hidle 0 client rfl hmay)
      rw [List.set_append_right _ _ (Nat.le_refl _), Nat.sub_self, List.set_cons_zero,
        List.append_cons] at h₁
      obtain ⟨hub', h'⟩ := ih _ h₁ (hrest _)
      rw [List.append_assoc, List.singleton_append] at h'
      simp only [Server.flushAll, if_pos hmay]
      exact ⟨hub', h'⟩
    · rw [List.append_cons] at h
      obtain ⟨hub', h'⟩ := ih _ h (hrest _)
      rw [List.append_assoc, List.singleton_append] at h'
      simp only [Server.flushAll, if_neg hmay]
      exact ⟨hub', h'⟩

/-- Idle sessions write what is in their outboxes. -/
lemma Represents.settle (hn : n < 2 ^ 64) (h : Represents check maxQoS n seen outgoing hub server)
    (may : Client → Bool) (hidle : ∀ k client, server.clients[k]? = some client →
      may client = true → outgoing k = []) :
    ∃ hub', Represents check maxQoS n seen outgoing hub' (server.settle may) := by
  refine Represents.flushAll hn [] h fun k client hk hmay => ?_
  rw [List.length_nil, Nat.zero_add]
  exact hidle k client hk hmay

/-! ### Reacting -/

lemma getElem?_flushAll {may : Client → Bool} (hj : clients[j]? = some client)
    (hmay : may client = false) : (Server.flushAll may b clients).2[j]? = some client := by
  induction clients generalizing b j with
  | nil => cases hj
  | cons first clients ih =>
    cases j with
    | zero =>
      cases hj
      simp [Server.flushAll, hmay]
    | succ j => exact ih hj

/-- A session submits its events one by one, while all others write. -/
lemma Represents.submitFrom (hn : n < 2 ^ 64)
    (h : Represents check maxQoS n seen outgoing hub server)
    (hj : server.clients[j]? = some client) (ho : outgoing j = events)
    (hidle : ∀ k, k ≠ j → outgoing k = []) :
    ∃ hub', Represents check maxQoS n seen (fun _ => []) hub'
      (server.submitFrom client.session.connection events) := by
  induction events generalizing outgoing hub server with
  | nil =>
    have hnone : outgoing = fun _ => [] := by
      funext k
      by_cases hk : k = j
      · rw [hk, ho]
      · exact hidle k hk
    rw [hnone] at h
    exact ⟨hub, h⟩
  | cons event events ih =>
    obtain ⟨hub₁, h₁⟩ := h.submit hn hj ho
    have hidle₁ : ∀ k, k ≠ j → Function.update outgoing j events k = [] := fun k hk =>
      (Function.update_of_ne hk ..).trans (hidle k hk)
    obtain ⟨hub₂, h₂⟩ := h₁.settle hn (fun other =>
        other.session.connection ≠ client.session.connection) fun k other hk hmay => by
      refine hidle₁ k ?_
      rintro rfl
      obtain rfl := Option.some.inj (hj.symm.trans hk)
      simp at hmay
    exact ih h₂ (getElem?_flushAll hj (by simp)) (Function.update_self ..) hidle₁

/-- What a session makes of an input is submitted, and then all sessions write. -/
lemma Represents.input (hn : n < 2 ^ 64) {i : Nat} {input : Session.Input}
    (hi : server.clients[i]? = some client)
    (h : Represents check maxQoS n seen (Function.update (fun _ => []) i (client.react input).2) hub
      ⟨server.broker, server.clients.set i (client.react input).1⟩) :
    ∃ hub', Represents check maxQoS n seen (fun _ => []) hub' (server.input i input) := by
  have hlt : i < server.clients.length := (List.getElem?_eq_some_iff.mp hi).1
  obtain ⟨hub₁, h₁⟩ := h.submitFrom hn (List.getElem?_set_self hlt) (Function.update_self ..)
    fun k hk => Function.update_of_ne hk ..
  obtain ⟨hub', h'⟩ := h₁.settle hn (fun _ => true) fun _ _ _ _ => rfl
  rw [Server.input, hi]
  exact ⟨hub', h'⟩

/-! ### Steps of clients -/

lemma Represents.send (hn : n < 2 ^ 64)
    (h : Represents check maxQoS n seen (fun _ => []) hub server) (i : Nat) (chunk : Bytes) :
    ∃ hub', Represents check maxQoS n seen (fun _ => []) hub' (server.send i chunk) := by
  by_cases hcan : server.canWrite i = true
  · rw [Server.send, if_pos hcan]
    cases hi : server.clients[i]? with
    | none => simp [Server.canWrite, hi] at hcan
    | some client =>
      have hgoing : client.session.isEnded = false := by
        simp only [Server.canWrite, hi, Bool.and_eq_true, Bool.not_eq_true'] at hcan
        exact hcan.2
      obtain ⟨st, hst, hm⟩ := h.exists_station hi
      have hw : st.IsWaiting := hm.isWaiting hgoing
      have hactor : hub.actor = ⟨server.broker, []⟩ := h.actor
      have hlt : i < hub.stations.length := (List.getElem?_eq_some_iff.mp hst).1
      have hread : hub.run [.move i (.write chunk), .move i (.read chunk.length)] =
          ⟨⟨server.broker, []⟩, hub.stations.set i
            (({ st with unread := st.unread ++ chunk } : Station).readSome chunk.length)⟩ := by
        have hw' : ({ st with unread := st.unread ++ chunk } : Station).IsWaiting := hw
        rw [run, run, step_move_of_getElem? hst, run, Station.move,
          step_move_of_getElem? (List.getElem?_set_self hlt), Station.move, if_pos hw',
          List.set_set, hactor]
        rfl
      exact Represents.input hn hi (h.of_run hi (by simp) (fun i hmem => by simp at hmem) hread
        h.events (hm.readSome chunk))
  · rw [Server.send, if_neg hcan]
    exact ⟨hub, h⟩

/-- A session whose client has ended its stream finds this out at once. -/
lemma Represents.endOfStream (h : Represents check maxQoS n seen (fun _ => []) hub ⟨b, clients⟩)
    (hj : clients[j]? = some client) :
    ∃ hub', Represents check maxQoS n seen
      (Function.update (fun _ => []) j (client.react .endOfStream).2) hub'
      ⟨b, clients.set j (client.react .endOfStream).1⟩ := by
  obtain ⟨st, hst, hm⟩ := h.exists_station hj
  by_cases he : client.session.isEnded = true
  · rw [Client.react_of_isEnded he, set_eq_self hj, update_nil_eq_self rfl]
    exact ⟨hub, h⟩
  · have hw : st.IsWaiting := hm.isWaiting (Bool.eq_false_iff.mpr he)
    have hmove : st.move hub.actor .endOfStream = (st.react .endOfStream, none) := by
      rw [Station.move, if_pos ⟨hw, hm.unread⟩]
    exact ⟨_, h.move hj hst hmove (by rintro ⟨⟩) h.actor h.events (hm.react _)⟩

/-- Whether a client may still write is no matter of the hub. -/
lemma Represents.modify (h : Represents check maxQoS n seen outgoing hub server) (i : Nat)
    {f : Client → Client} (hsession : ∀ client, (f client).session = client.session)
    (hunread : ∀ client, (f client).unread = client.unread) :
    Represents check maxQoS n seen outgoing hub ⟨server.broker, server.clients.modify i f⟩ := by
  refine ⟨h.reached, h.actor, h.events, fun j => ?_, fun j hj => ?_⟩
  · have hrel := h.clients j
    rw [List.getElem?_modify]
    generalize server.clients[j]? = client at hrel ⊢
    generalize hub.stations[j]? = station at hrel ⊢
    cases hrel with
    | none => exact .none
    | @some client st hm =>
      refine .some ?_
      split
      · exact ⟨(hsession _).trans hm.session, hm.unread,
          hm.written.trans (congrArg _ (hunread _).symm), hm.outgoing⟩
      · exact hm
  · rw [List.length_modify] at hj
    exact h.unseen j hj

lemma Represents.endStream (hn : n < 2 ^ 64)
    (h : Represents check maxQoS n seen (fun _ => []) hub server) (i : Nat) :
    ∃ hub', Represents check maxQoS n seen (fun _ => []) hub' (server.endStream i) := by
  have hstop := h.modify i (f := fun client => { client with isWriting := false }) (fun _ => rfl)
    fun _ => rfl
  rw [Server.endStream]
  generalize server.clients.modify i _ = clients at hstop ⊢
  cases hi : clients[i]? with
  | none =>
    rw [Server.input, hi]
    exact ⟨hub, hstop⟩
  | some client =>
    obtain ⟨hub₁, h₁⟩ := hstop.endOfStream hi
    exact Represents.input hn hi h₁

lemma Represents.length_eq (h : Represents check maxQoS n seen outgoing hub server) :
    server.clients.length = hub.stations.length := by
  refine Nat.le_antisymm ?_ ?_
  · have hrel := h.clients hub.stations.length
    rw [List.getElem?_eq_none (Nat.le_refl hub.stations.length)] at hrel
    generalize hc : server.clients[hub.stations.length]? = client at hrel
    cases hrel
    exact List.getElem?_eq_none_iff.mp hc
  · have hrel := h.clients server.clients.length
    rw [List.getElem?_eq_none (Nat.le_refl server.clients.length)] at hrel
    generalize hst : hub.stations[server.clients.length]? = station at hrel
    cases hrel
    exact List.getElem?_eq_none_iff.mp hst

lemma Represents.connect (hn : n + 1 < 2 ^ 64)
    (h : Represents check maxQoS n seen (fun _ => []) hub server) :
    ∃ hub', Represents check maxQoS (n + 1) seen (fun _ => []) hub' server.connect := by
  obtain ⟨b, clients⟩ := server
  have hr : b.isRunning = true := h.isRunning (by omega)
  have he : b.events = [] := h.events
  have hactor : hub.actor = ⟨b, []⟩ := h.actor
  have hconnect : Server.connect ⟨b, clients⟩ =
      ⟨b.openConnection.1.handleNext, clients ++ [.new b.ids.upcoming]⟩ := by
    simp [Server.connect, Broker.openConnection, Broker.submit, hr, he, ConnectionIds.generate,
      Broker.settle, Broker.handleNext]
  obtain ⟨k, hk⟩ := Actor.run_handleNext b.openConnection.1
  have hrun : hub.run (.connect :: .decide :: .replicate k .perform) =
      ⟨⟨b.openConnection.1.handleNext, []⟩, hub.stations ++ [.new b.ids.upcoming]⟩ := by
    rw [run, run, run_perform]
    simp only [step, acts, stationsAfter, hactor]
    exact congrArg (Hub.mk · _) hk
  have hcount : n + (Step.connect :: .decide :: .replicate k .perform).count .connect = n + 1 := by
    simp [List.count_replicate]
  rw [hconnect]
  refine ⟨_, h.reached.run hcount (fun i hmem => by simp at hmem), ?_, ?_, fun j => ?_,
    fun j hj => h.unseen j ?_⟩
  · rw [hrun]
  · rw [Broker.openConnection_eq hr, Broker.handleNext, he]
    rfl
  · rw [hrun]
    have hlength : clients.length = hub.stations.length := h.length_eq
    rcases Nat.lt_trichotomy j clients.length with hj | rfl | hj
    · rw [List.getElem?_append_left hj, List.getElem?_append_left (hlength ▸ hj)]
      exact h.clients j
    · rw [List.getElem?_concat_length, hlength, List.getElem?_concat_length]
      exact .some ⟨rfl, rfl, by rw [h.unseen _ hlength.le]; rfl, rfl⟩
    · rw [List.getElem?_eq_none (by simpa using hj),
        List.getElem?_eq_none (by simpa [← hlength] using hj)]
      exact .none
  · rw [List.length_append] at hj
    exact Nat.le_of_add_right_le hj

lemma Represents.report (h : Represents check maxQoS n seen outgoing hub server) :
    Represents check maxQoS n (fun j => seen j ++ News.bytesFor j server.report.2) outgoing hub
      server.report.1 := by
  refine ⟨h.reached, h.actor, h.events, fun j => ?_, fun j hj => ?_⟩
  · have hrel := h.clients j
    rw [News.bytesFor_report, Server.report, List.getElem?_map]
    generalize server.clients[j]? = client at hrel ⊢
    generalize hub.stations[j]? = station at hrel ⊢
    cases hrel with
    | none => exact .none
    | some hm =>
      exact .some ⟨hm.session, hm.unread, hm.written.trans (List.append_nil _).symm, hm.outgoing⟩
  · rw [Server.report, List.length_map] at hj
    rw [News.bytesFor_report, h.unseen j hj, List.getElem?_eq_none hj]
    rfl

/-- Whatever happens at a server, a hub may come to the same. -/
theorem Represents.step {a : Server.Step} {k : Nat}
    (h : Represents check maxQoS n seen (fun _ => []) hub server)
    (hk : n + [a].count .connect = k) (hn : k < 2 ^ 64) :
    ∃ hub', Represents check maxQoS k (fun j => seen j ++ News.bytesFor j (server.step a).2)
      (fun _ => []) hub' (server.step a).1 := by
  have hsilent : (fun j => seen j ++ News.bytesFor j []) = seen :=
    funext fun j => List.append_nil _
  subst hk
  cases a with
  | connect =>
    rw [Server.step, hsilent]
    exact h.connect hn
  | send i chunk =>
    rw [Server.step, hsilent]
    exact h.send hn i chunk
  | endStream i =>
    rw [Server.step, hsilent]
    exact h.endStream hn i
  | report => exact ⟨hub, h.report⟩

theorem Represents.run {steps : List Server.Step}
    (h : Represents check maxQoS n seen (fun _ => []) hub server)
    (hn : n + steps.count .connect < 2 ^ 64) :
    ∃ hub', Represents check maxQoS (n + steps.count .connect)
      (fun j => seen j ++ News.bytesFor j (server.run steps).2) (fun _ => []) hub'
      (server.run steps).1 := by
  induction steps generalizing n seen hub server with
  | nil =>
    have hsilent : (fun j => seen j ++ News.bytesFor j []) = seen :=
      funext fun j => List.append_nil _
    rw [Server.run, hsilent]
    exact ⟨hub, h⟩
  | cons a steps ih =>
    have hcount : (a :: steps).count .connect = [a].count .connect + steps.count .connect := by
      rw [← List.count_append]
      rfl
    rw [hcount, ← Nat.add_assoc] at hn ⊢
    obtain ⟨hub₁, h₁⟩ := h.step (a := a) rfl (by omega)
    obtain ⟨hub', h'⟩ := ih h₁ hn
    refine ⟨hub', ?_⟩
    simpa only [Server.run, News.bytesFor_append, List.append_assoc] using h'

/-- Whatever happens at a server, there is a run of a hub that comes to the same: the broker is in
the same state, the sessions are in the same states, nothing is left to be done, and the clients
were written the same bytes, be they reported or not. -/
theorem exists_run_represents (check : CredentialCheck) (maxQoS : QoS) {steps : List Server.Step}
    (h : steps.count .connect < 2 ^ 64) :
    let (server, news) := (Server.new check maxQoS).run steps
    ∃ hub, Represents check maxQoS (steps.count .connect) (News.bytesFor · news) (fun _ => []) hub
      server := by
  obtain ⟨hub, hhub⟩ := (represents_new check maxQoS).run (by rwa [Nat.zero_add])
  simp only [Nat.zero_add, List.nil_append] at hhub
  exact ⟨hub, hhub⟩

end Hub

end Mqtt
