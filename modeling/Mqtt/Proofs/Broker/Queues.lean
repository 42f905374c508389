import Mqtt.Proofs.Broker.Actor

/-!
# What goes through an outbox

The law of an outbox is one of conservation: what a step takes out of it, and what is left then, is
what was there and what was put in (`Actor.Treats`). The law fails only for an outbox that loses one
of its ends, and such an outbox takes in nothing more. In the end what was taken and what is queued
is the beginning of what was issued (`Actor.taken_append_queued_le`), and what was issued is what
the router puts out (`Actor.exists_handled`).
-/

namespace Mqtt

namespace Outbox

variable {box : Outbox} {item : Outbound}

/-- Items are still queued, as far as there is room. -/
def Accepts (box : Outbox) : Prop := box.isOpen = true ∧ box.isAttached = true

lemma push_of_not_accepts (h : ¬ box.Accepts) : box.push item = box := by
  rw [push, if_pos]
  rw [Accepts] at h
  cases ho : box.isOpen <;> cases ha : box.isAttached <;> simp_all

lemma push_of_lt (h : box.Accepts) (hlt : box.items.length < capacity) :
    box.push item = { box with items := box.items ++ [item] } := by
  rw [push, if_neg (by simp [h.1, h.2]), if_pos hlt]

lemma push_of_ge (h : box.Accepts) (hge : capacity ≤ box.items.length) :
    box.push item = box.hangUp := by
  rw [push, if_neg (by simp [h.1, h.2]), if_neg (Nat.not_lt.mpr hge)]
  rfl

lemma not_accepts_of_isOpen (h : box.isOpen = false) : ¬ box.Accepts := by
  rintro ⟨ho, -⟩
  rw [h] at ho
  cases ho

lemma not_accepts_hangUp : ¬ box.hangUp.Accepts := not_accepts_of_isOpen rfl

end Outbox

/-- The item that a command sends to `c`, if it sends any. -/
def Command.itemTo? (c : ConnectionId) : Command → Option Outbound
  | .transmit t => if t.connection = c then some t.item else none
  | .hangUp _   => none

namespace Actor

variable {s : Actor} {a : Step} {steps : List Step} {c : ConnectionId} {box : Outbox}

/-! ### What goes in and out -/

/-- What `c` takes out of its outbox by a step. -/
def takenAt (c : ConnectionId) (s : Actor) : Step → List Outbound
  | .receive d n => if d = c then (s.broker.receiveSome c n).2 else []
  | _            => []

/-- What the router sends to `c` by a step, whether there is room for it or not. -/
def issuedAt (c : ConnectionId) (s : Actor) : Step → List Outbound
  | .perform =>
    match s.pending with
    | []           => []
    | command :: _ => (command.itemTo? c).toList
  | _ => []

/-- All that `c` takes out of its outbox, in order. -/
def taken (c : ConnectionId) (s : Actor) : List Step → List Outbound
  | []         => []
  | a :: steps => s.takenAt c a ++ (s.step a).taken c steps

/-- All that the router sends to `c`, in order. -/
def issued (c : ConnectionId) (s : Actor) : List Step → List Outbound
  | []         => []
  | a :: steps => s.issuedAt c a ++ (s.step a).issued c steps

/-- All events that are queued for the router, in order. -/
def submitted (s : Actor) : List Step → List Event
  | []         => []
  | a :: steps => (s.queues a).toList ++ (s.step a).submitted steps

lemma taken_append (s : Actor) (before after : List Step) :
    s.taken c (before ++ after) = s.taken c before ++ (s.run before).taken c after := by
  induction before generalizing s with
  | nil => rfl
  | cons a before ih => rw [List.cons_append, taken, ih, taken, run, List.append_assoc]

lemma issued_append (s : Actor) (before after : List Step) :
    s.issued c (before ++ after) = s.issued c before ++ (s.run before).issued c after := by
  induction before generalizing s with
  | nil => rfl
  | cons a before ih => rw [List.cons_append, issued, ih, issued, run, List.append_assoc]

lemma submitted_append (s : Actor) (before after : List Step) :
    s.submitted (before ++ after) = s.submitted before ++ (s.run before).submitted after := by
  induction before generalizing s with
  | nil => rfl
  | cons a before ih => rw [List.cons_append, submitted, ih, submitted, run, List.append_assoc]

/-- What is in the outbox of `c`. -/
def queued (c : ConnectionId) (s : Actor) : List Outbound :=
  match s.broker.outbox? c with
  | none     => []
  | some box => box.items

lemma queued_of_none (h : s.broker.outbox? c = none) : s.queued c = [] := by
  rw [queued, h]

lemma queued_of_some (h : s.broker.outbox? c = some box) : s.queued c = box.items := by
  rw [queued, h]

lemma takenAt_of_none (h : s.broker.outbox? c = none) : s.takenAt c a = [] := by
  cases a with
  | receive d n =>
    rw [takenAt, Broker.receiveSome, h]
    split <;> rfl
  | openConnection | packet | close | detach | decide | perform => rfl

lemma Quiet.issuedAt (h : s.Quiet c) : s.issuedAt c a = [] := by
  cases a with
  | perform =>
    rw [Actor.issuedAt]
    split <;> rename_i hp
    · rfl
    · rename_i command rest
      cases command with
      | transmit t =>
        have ht : t.connection ≠ c := h.silent t (by rw [hp]; exact List.mem_cons_self)
        simp [Command.itemTo?, ht]
      | hangUp d => rfl
  | openConnection | packet | close | receive | detach | decide => rfl

/-! ### What is issued

However the steps are mixed, what is issued to a connection and what is still to be issued is what
the router puts out to it when it handles one event after the other.
-/

/-- What will be sent to `c` about the event that is being handled. -/
def pendingTo (c : ConnectionId) (s : Actor) : List Outbound :=
  s.pending.filterMap (Command.itemTo? c)

lemma pendingTo_perform :
    s.issuedAt c .perform ++ (s.step .perform).pendingTo c = s.pendingTo c := by
  rw [issuedAt]
  rcases perform_cases s with ⟨hp, heq⟩ | ⟨command, rest, hp, heq⟩
  · rw [heq, hp]
    rfl
  · rw [heq, hp, pendingTo, pendingTo, hp, List.filterMap_cons]
    cases hitem : command.itemTo? c <;> simp [hitem]

lemma filterMap_itemTo?_ofEvent (event : Event) (actions : List Action) :
    (Command.ofEvent event actions).filterMap (Command.itemTo? c) =
      (outputTo c actions).map (·.item) := by
  have hhang : (Command.ofEvent event []).filterMap (Command.itemTo? c) = [] := by
    cases event <;> rfl
  have hitem : ∀ transmissions : List Transmission,
      (transmissions.map Command.transmit).filterMap (Command.itemTo? c) =
        (transmissions.filter (·.connection = c)).map (·.item) := by
    intro transmissions
    induction transmissions with
    | nil => rfl
    | cons t rest ih =>
      rw [List.map_cons, List.filterMap_cons, ih, Command.itemTo?]
      by_cases ht : t.connection = c <;> simp [ht]
  rw [Command.ofEvent.eq_def, List.filterMap_append, hitem]
  exact (congrArg _ hhang).trans (List.append_nil _)

/-- Handling an event is told by its actions, and the rest of the steps does not change what is
issued in all. -/
lemma issued_step (hr : s.broker.isRunning = true) :
    ((s.step a).broker.router = s.broker.router ∧
        (s.step a).broker.events = s.broker.events ++ (s.queues a).toList ∧
        s.issuedAt c a ++ (s.step a).pendingTo c = s.pendingTo c) ∨
      ∃ event, (s.step a).broker.router = (s.broker.router.step event).1 ∧
        s.broker.events ++ (s.queues a).toList = event :: (s.step a).broker.events ∧
        s.issuedAt c a = [] ∧ s.pendingTo c = [] ∧
        (s.step a).pendingTo c = (outputTo c (s.broker.router.step event).2).map (·.item) := by
  have hnone : s.broker.events = s.broker.events ++ (none : Option Event).toList := by simp
  cases a with
  | openConnection =>
    rw [step, Broker.openConnection_eq hr]
    exact .inl ⟨rfl, rfl, rfl⟩
  | packet d p | close d =>
    rw [step, Broker.accept_eq hr]
    exact .inl ⟨rfl, rfl, rfl⟩
  | receive d n | detach d => exact .inl ⟨rfl, hnone, rfl⟩
  | decide =>
    rcases decide_cases s with heq | ⟨event, events, hp, he, heq⟩
    · rw [heq]
      exact .inl ⟨rfl, hnone, rfl⟩
    · rw [heq, pendingTo, pendingTo, hp]
      exact .inr ⟨event, rfl, hnone.symm.trans he, rfl, rfl, filterMap_itemTo?_ofEvent ..⟩
  | perform =>
    refine .inl ⟨?_, ?_, pendingTo_perform⟩ <;>
      rcases perform_cases s with ⟨-, heq⟩ | ⟨command, rest, -, heq⟩ <;> rw [heq]
    · exact hnone
    · exact hnone

/-- What is issued is what the router puts out to `c` about the events that it has taken up, and
these are the first of those that were queued. -/
theorem exists_handled_of_submitted (hr : s.broker.isRunning = true) (steps : List Step)
    (c : ConnectionId) :
    ∃ events, s.broker.events ++ s.submitted steps = events ++ (s.run steps).broker.events ∧
      (s.run steps).broker.router = (s.broker.router.run events).1 ∧
      s.issued c steps ++ (s.run steps).pendingTo c =
        s.pendingTo c ++ (s.broker.router.sentTo c events).map (·.item) := by
  induction steps generalizing s with
  | nil => exact ⟨[], List.append_nil _, rfl, (List.append_nil _).symm⟩
  | cons a steps ih =>
    obtain ⟨events, hevents, hrouter, hissued⟩ := ih (isRunning_step hr)
    rw [run, issued, submitted, List.append_assoc, hissued, hrouter, ← List.append_assoc]
    rcases issued_step hr (a := a) (c := c) with
      ⟨hsame, hqueue, heq⟩ | ⟨event, hstep, hqueue, hnone, hempty, hout⟩
    · refine ⟨events, by rw [← hqueue, hevents], by rw [hsame], ?_⟩
      rw [← List.append_assoc, heq, hsame]
    · refine ⟨event :: events, ?_, by rw [hstep]; rfl, ?_⟩
      · rw [hqueue, List.cons_append, hevents, List.cons_append]
      · rw [hnone, hempty, hout, hstep, Router.sentTo_cons, List.map_append]

/-- What is issued is what the router puts out to `c` about the events that it has taken up. -/
theorem exists_handled (hr : s.broker.isRunning = true) (steps : List Step) (c : ConnectionId) :
    ∃ events, (s.run steps).broker.router = (s.broker.router.run events).1 ∧
      s.issued c steps ++ (s.run steps).pendingTo c =
        s.pendingTo c ++ (s.broker.router.sentTo c events).map (·.item) := by
  obtain ⟨events, -, hrouter, hissued⟩ := exists_handled_of_submitted hr steps c
  exact ⟨events, hrouter, hissued⟩

/-! ### One step -/

/-- `c` drops the receiving end of its outbox. -/
def Detaches (c : ConnectionId) (s : Actor) (a : Step) : Prop :=
  a = .detach c ∧ s.broker.outbox? c ≠ none

/-- How a step may treat an outbox of `c`: what is taken out of it, what is sent to it, and the
outbox after this. -/
inductive Treats (c : ConnectionId) (s : Actor) (box : Outbox) :
    Step → List Outbound → List Outbound → Outbox → Prop where
  | leave {a : Step} : Treats c s box a [] [] box
  | receive {n : Nat} : Treats c s box (.receive c n) (box.items.take n) [] (box.discard n)
  | detach (hd : s.Detaches c (.detach c)) : Treats c s box (.detach c) [] [] box.detach
  | push {t : Transmission} {rest : List Command} (hp : s.pending = .transmit t :: rest)
      (ht : t.connection = c) : Treats c s box .perform [] [t.item] (box.push t.item)
  | hangUp {rest : List Command} (hp : s.pending = .hangUp c :: rest) :
      Treats c s box .perform [] [] box.hangUp

/-- A step treats every outbox in one of these ways. -/
lemma exists_treats (hbox : s.broker.outbox? c = some box) (ho : ¬ s.Opens c a) :
    ∃ box', (s.step a).broker.outbox? c = some box' ∧
      Treats c s box a (s.takenAt c a) (s.issuedAt c a) box' := by
  refine ⟨s.touch c a box, by rw [outbox?_step ho, hbox]; rfl, ?_⟩
  cases a with
  | receive d n =>
    rw [touch, takenAt, Broker.receiveSome, hbox]
    by_cases hd : d = c
    · subst hd
      rw [if_pos rfl, if_pos rfl]
      exact .receive
    · rw [if_neg hd, if_neg hd]
      exact .leave
  | detach d =>
    rw [touch]
    by_cases hd : d = c
    · subst hd
      rw [if_pos rfl]
      exact .detach ⟨rfl, by simp [hbox]⟩
    · rw [if_neg hd]
      exact .leave
  | perform =>
    rw [touch, issuedAt]
    cases hp : s.pending with
    | nil => exact .leave
    | cons command rest =>
      cases command with
      | transmit t =>
        dsimp only [Command.touch, Command.itemTo?]
        by_cases ht : t.connection = c
        · rw [if_pos ht, if_pos ht]
          exact .push hp ht
        · rw [if_neg ht, if_neg ht]
          exact .leave
      | hangUp d =>
        dsimp only [Command.touch]
        by_cases hd : d = c
        · subst hd
          rw [if_pos rfl]
          exact .hangUp hp
        · rw [if_neg hd]
          exact .leave
  | openConnection | packet | close | decide => exact .leave

/-- An item for `c` meets an outbox without room. -/
def Overflows (c : ConnectionId) (s : Actor) (a : Step) : Prop :=
  a = .perform ∧ ∃ t rest box, s.pending = .transmit t :: rest ∧ t.connection = c ∧
    s.broker.outbox? c = some box ∧ box.Accepts ∧ Outbox.capacity ≤ box.items.length

namespace Treats

variable {box' : Outbox} {gone sent : List Outbound}

lemma length_le (h : Treats c s box a gone sent box') (hle : box.items.length ≤ Outbox.capacity) :
    box'.items.length ≤ Outbox.capacity := by
  cases h with
  | leave | hangUp hp => exact hle
  | receive =>
    rw [Outbox.discard, List.length_drop]
    exact (Nat.sub_le ..).trans hle
  | detach => exact Nat.zero_le _
  | push hp ht =>
    by_cases hacc : box.Accepts
    · rcases Nat.lt_or_ge box.items.length Outbox.capacity with hlt | hge
      · rw [Outbox.push_of_lt hacc hlt]
        simpa using hlt
      · rwa [Outbox.push_of_ge hacc hge]
    · rwa [Outbox.push_of_not_accepts hacc]

/-- An outbox takes in what is sent to it, or takes in nothing more. -/
lemma of_accepts (h : Treats c s box a gone sent box') (hacc : box.Accepts) :
    (box'.Accepts ∧ gone ++ box'.items = box.items ++ sent) ∨
      (¬ box'.Accepts ∧ gone ++ box'.items <+: box.items) := by
  cases h with
  | leave => exact .inl ⟨hacc, by simp⟩
  | receive => exact .inl ⟨hacc, by simp [Outbox.discard]⟩
  | detach => exact .inr ⟨by simp [Outbox.Accepts, Outbox.detach], List.nil_prefix⟩
  | push hp ht =>
    rcases Nat.lt_or_ge box.items.length Outbox.capacity with hlt | hge
    · rw [Outbox.push_of_lt hacc hlt]
      exact .inl ⟨hacc, rfl⟩
    · rw [Outbox.push_of_ge hacc hge]
      exact .inr ⟨Outbox.not_accepts_hangUp, List.prefix_rfl⟩
  | hangUp hp => exact .inr ⟨Outbox.not_accepts_hangUp, List.prefix_rfl⟩

/-- Nothing comes into an outbox that has lost one of its ends. -/
lemma of_not_accepts (h : Treats c s box a gone sent box') (hacc : ¬ box.Accepts) :
    ¬ box'.Accepts ∧ gone ++ box'.items <+: box.items := by
  cases h with
  | leave => exact ⟨hacc, List.prefix_rfl⟩
  | receive => exact ⟨hacc, by simp [Outbox.discard]⟩
  | detach => exact ⟨by simp [Outbox.Accepts, Outbox.detach], List.nil_prefix⟩
  | push hp ht =>
    rw [Outbox.push_of_not_accepts hacc]
    exact ⟨hacc, List.prefix_rfl⟩
  | hangUp hp => exact ⟨Outbox.not_accepts_hangUp, List.prefix_rfl⟩

/-- What is queued is lost with the receiving end only. -/
lemma eq_of_not_accepts (h : Treats c s box a gone sent box') (hacc : ¬ box.Accepts)
    (hd : ¬ Detaches c s a) : gone ++ box'.items = box.items := by
  cases h with
  | leave | hangUp hp => rfl
  | receive => simp [Outbox.discard]
  | detach hd' => exact absurd hd' hd
  | push hp ht => rw [Outbox.push_of_not_accepts hacc, List.nil_append]

lemma isOpen_eq_false (h : Treats c s box a gone sent box') (ho : box.isOpen = false) :
    box'.isOpen = false := by
  cases h with
  | leave | receive | detach => exact ho
  | push hp ht => rwa [Outbox.push_of_not_accepts (Outbox.not_accepts_of_isOpen ho)]
  | hangUp hp => rfl

lemma isAttached (h : Treats c s box a gone sent box') (hd : ¬ Detaches c s a)
    (ha : box.isAttached = true) : box'.isAttached = true := by
  cases h with
  | leave | receive | hangUp => exact ha
  | detach hd' => exact absurd hd' hd
  | push hp ht =>
    rw [Outbox.push]
    split
    · exact ha
    · split <;> exact ha

end Treats

/-! ### Runs -/

lemma queued_step_of_none (h : s.Regular c) (hbox : s.broker.outbox? c = none) :
    (s.step a).queued c = [] := by
  by_cases ho : s.Opens c a
  · rw [queued_of_some (outbox?_of_opens h.running ho)]
    rfl
  · rw [queued, outbox?_step ho, hbox]
    rfl

lemma length_queued_run (h : s.Proceeds c steps) (hle : (s.queued c).length ≤ Outbox.capacity) :
    ((s.run steps).queued c).length ≤ Outbox.capacity := by
  induction steps generalizing s with
  | nil => exact hle
  | cons a steps ih =>
    refine ih h.tail ?_
    cases hbox : s.broker.outbox? c with
    | none =>
      rw [queued_step_of_none h.regular hbox]
      exact Nat.zero_le _
    | some box =>
      obtain ⟨box', hbox', htreats⟩ := exists_treats hbox (h.not_opens hbox)
      rw [queued_of_some hbox] at hle
      rw [queued_of_some hbox']
      exact htreats.length_le hle

/-- Of an outbox that has lost one of its ends nothing is seen but what is in it. -/
lemma run_of_not_accepts (h : s.Proceeds c steps) (hbox : s.broker.outbox? c = some box)
    (hacc : ¬ box.Accepts) : ∃ box', (s.run steps).broker.outbox? c = some box' ∧
      s.taken c steps ++ box'.items <+: box.items ∧
      (box.isOpen = false → box'.isOpen = false) ∧
      (Never (Detaches c) s steps → s.taken c steps ++ box'.items = box.items) := by
  induction steps generalizing s box with
  | nil => exact ⟨box, hbox, List.prefix_rfl, id, fun _ => rfl⟩
  | cons a steps ih =>
    obtain ⟨box₁, hbox₁, htreats⟩ := exists_treats hbox (h.not_opens hbox)
    obtain ⟨hacc₁, hle₁⟩ := htreats.of_not_accepts hacc
    obtain ⟨box', hbox', hle, hopen, heq⟩ := ih h.tail hbox₁ hacc₁
    refine ⟨box', hbox', ?_, fun ho => hopen (htreats.isOpen_eq_false ho), fun hd => ?_⟩
    · rw [taken, List.append_assoc]
      exact ((List.prefix_append_right_inj _).mpr hle).trans hle₁
    · rw [taken, List.append_assoc, heq hd.tail]
      exact htreats.eq_of_not_accepts hacc hd.head

/-- What is taken and what is left is the beginning of what was there and what was sent. -/
theorem taken_append_queued_le (h : s.Proceeds c steps) :
    s.taken c steps ++ (s.run steps).queued c <+: s.queued c ++ s.issued c steps := by
  -- Equality is what the steps keep; the induction goes on only while the outbox accepts.
  induction steps generalizing s with
  | nil => exact ⟨[], by simp [taken, issued, run]⟩
  | cons a steps ih =>
    cases hbox : s.broker.outbox? c with
    | none =>
      have hrest := ih h.tail
      rw [queued_step_of_none h.regular hbox] at hrest
      rw [taken, issued, takenAt_of_none hbox, (h.regular.unopened hbox).2.issuedAt,
        queued_of_none hbox]
      exact hrest
    | some box =>
      by_cases hacc : box.Accepts
      · obtain ⟨box', hbox', htreats⟩ := exists_treats hbox (h.not_opens hbox)
        rw [queued_of_some hbox]
        rcases htreats.of_accepts hacc with ⟨-, heq⟩ | ⟨hacc', hle⟩
        · have hrest := ih h.tail
          rw [queued_of_some hbox'] at hrest
          rw [taken, issued, List.append_assoc, ← List.append_assoc box.items, ← heq,
            List.append_assoc]
          exact (List.prefix_append_right_inj _).mpr hrest
        · -- The outbox loses an end here: whatever is issued from now on stays outside.
          obtain ⟨box'', hbox'', hle', -⟩ := run_of_not_accepts h.tail hbox' hacc'
          rw [taken, run, queued_of_some hbox'', List.append_assoc]
          refine (((List.prefix_append_right_inj _).mpr hle').trans hle).trans ?_
          exact List.prefix_append ..
      · obtain ⟨box', hbox', hle, -⟩ := run_of_not_accepts h hbox hacc
        rw [queued_of_some hbox', queued_of_some hbox]
        exact hle.trans (List.prefix_append ..)

end Actor

end Mqtt
