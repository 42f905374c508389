import Mqtt.Proofs.Broker.Clientele
import Mqtt.Proofs.Broker.Queues

/-!
# Outboxes without gaps

What a connection takes out of its outbox, and what is still in it, is what the router sent, in
order and without a gap, and nothing is missing at the end either, unless the outbox overflows or
its receiving end is dropped (`Actor.gapFree_of_opens`). An outbox that overflows is the end of what
its connection gets to see (`Actor.Ends`).

The order and the bound hold whatever identifiers the steps name. For the end it matters that no
connection is opened while an end of that name is waiting to be handled (`Actor.OpensLate`): what
the router sent would find the outbox closed by it. This never happens among clients, who know of
an identifier only once its connection is opened (`Clientele`), however far the router lags behind;
nor does it happen, whatever the steps name, where the router does not lag behind.
-/

namespace Mqtt

namespace Actor

variable {s : Actor} {a : Step} {steps : List Step} {c : ConnectionId} {box : Outbox}

/-! ### Overflow -/

/-- Of `c` nothing is seen any more but `items`, which are in its outbox. -/
structure Ends (c : ConnectionId) (s : Actor) (steps : List Step) (items : List Outbound) :
    Prop where
  kept : s.queued c = items
  /-- Nothing else is taken or queued. -/
  rest : s.taken c steps ++ (s.run steps).queued c <+: items
  /-- All of it is, unless `c` drops the receiving end. -/
  whole : Never (Detaches c) s steps → s.taken c steps ++ (s.run steps).queued c = items
  /-- The broker sends no more. -/
  unregistered : (s.run steps).broker.isRegistered c = false
  /-- `c` is told so. -/
  ended : ((s.run steps).broker.receive c).2.isEnded = true

lemma ends_of_isOpen_eq_false (h : s.Proceeds c steps) (hbox : s.broker.outbox? c = some box)
    (ho : box.isOpen = false) : s.Ends c steps box.items := by
  have hacc := Outbox.not_accepts_of_isOpen ho
  obtain ⟨box', hbox', hle, hopen, heq⟩ := run_of_not_accepts h hbox hacc
  have ho' := hopen ho
  refine ⟨queued_of_some hbox, ?_, fun hd => ?_, ?_, ?_⟩
  · rwa [queued_of_some hbox']
  · rw [queued_of_some hbox', heq hd]
  · rw [Broker.isRegistered, hbox']
    exact ho'
  · rw [Broker.receive, hbox']
    simp [ho']

lemma ends_of_overflows (h : s.Proceeds c (a :: steps)) (ho : s.Overflows c a) :
    (s.step a).Ends c steps (s.queued c) := by
  obtain ⟨rfl, t, rest, box, hp, ht, hbox, hacc, hge⟩ := ho
  have htouch : s.touch c .perform box = box.hangUp := by
    simp only [touch, hp, Command.touch, if_pos ht, Outbox.push_of_ge hacc hge]
  have hbox' : (s.step .perform).broker.outbox? c = some box.hangUp := by
    rw [outbox?_step (h.not_opens hbox), hbox, Option.map_some, htouch]
  have hends := ends_of_isOpen_eq_false h.tail hbox' rfl
  rwa [queued_of_some hbox]

/-! ### Nothing is lost -/

/-- `c` is opened while the end of a connection of that name, reported before, is still waiting to
be handled. -/
def OpensLate (c : ConnectionId) (s : Actor) (a : Step) : Prop :=
  s.Opens c a ∧ (.closed c ∈ s.broker.events ∨ .hangUp c ∈ s.pending)

/-- No end of `c` is waiting to be handled. -/
def Unreported (c : ConnectionId) (s : Actor) : Prop :=
  .closed c ∉ s.broker.events ∧ .hangUp c ∉ s.pending

lemma Unreported.step (h : s.Unreported c) (hr : s.broker.isRunning = true) (ha : a ≠ .close c) :
    (s.step a).Unreported c := by
  obtain ⟨hreports, hhangs⟩ := h
  cases moves hr a with
  | queue hq hrouter hevents hpending =>
    rw [Unreported, hevents, hpending, List.mem_append, List.mem_singleton, not_or]
    refine ⟨⟨hreports, ?_⟩, hhangs⟩
    rintro rfl
    exact ha (queues_eq_closed_iff.mp hq)
  | leave hrouter hevents hpending =>
    rw [Unreported, hevents, hpending]
    exact ⟨hreports, hhangs⟩
  | decide hp he hrouter hpending =>
    rw [he, List.mem_cons, not_or] at hreports
    rw [Unreported, hpending]
    exact ⟨hreports.2, fun hm => hreports.1 (Command.hangUp_mem_ofEvent hm).symm⟩
  | perform hp hrouter hevents =>
    rw [hp, List.mem_cons, not_or] at hhangs
    rw [Unreported, hevents]
    exact ⟨hreports, hhangs.2⟩

/-- Where ends are reported only of connections that have been opened, none is opened late. -/
theorem never_opensLate (h : s.Proceeds c steps)
    (hs : s.broker.outbox? c = none → s.Unreported c) (he : Never (ClosesEarly c) s steps) :
    Never (OpensLate c) s steps := by
  rintro before a after rfl ⟨ho, hlate⟩
  induction before generalizing s with
  | nil =>
    obtain ⟨hevents, hpending⟩ := hs (h.outbox?_eq_none ho)
    rcases hlate with hclosed | hhang
    · exact hevents hclosed
    · exact hpending hhang
  | cons b before ih =>
    refine ih (fun hnone => ?_) h.tail he.tail ho hlate
    obtain ⟨-, hold⟩ := outbox?_eq_none_step h.regular.running hnone
    exact (hs hold).step h.regular.running fun hb => he.head ⟨hb, hold⟩

/-- No opening of `c` is waiting behind an end of `c`. -/
def Announced (c : ConnectionId) (s : Actor) : Prop :=
  s.broker.events.Pairwise fun e f => e = .closed c → f ≠ .opened c

lemma Announced.step (h : s.Announced c) (hr : s.broker.isRunning = true)
    (hl : s.Opens c a → .closed c ∉ s.broker.events) : (s.step a).Announced c := by
  cases moves hr a with
  | queue hq hrouter hevents =>
    rw [Announced, hevents]
    refine List.pairwise_append.mpr ⟨h, List.pairwise_singleton .., ?_⟩
    rintro e he f hf rfl rfl
    rw [← List.mem_singleton.mp hf] at hq
    exact hl (queues_eq_opened_iff.mp hq) he
  | leave hrouter hevents | perform hp hrouter hevents =>
    rw [Announced, hevents]
    exact h
  | decide hp he =>
    rw [Announced, he] at h
    exact (List.pairwise_cons.mp h).2

/-- The end of `c` comes after its opening. -/
structure Ordered (c : ConnectionId) (s : Actor) : Prop where
  events : s.broker.events.Pairwise fun e f => e = .closed c → f ≠ .opened c
  pending : .hangUp c ∉ s.pending

/-- The outbox of `c` takes in what is sent to `c`, or nothing is sent. -/
def Sound (c : ConnectionId) (s : Actor) : Prop :=
  ∀ box, s.broker.outbox? c = some box →
    box.isAttached = true ∧ (box.isOpen = true ∧ s.Ordered c ∨ s.Quiet c)

lemma ordered_of_opens (hr : s.broker.isRunning = true) (ho : s.Opens c a)
    (hl : ¬ s.OpensLate c a) : (s.step a).Ordered c := by
  rw [OpensLate, not_and, not_or] at hl
  obtain ⟨hclosed, hhang⟩ := hl ho
  have hannounced : s.Announced c := by
    refine List.pairwise_of_forall_mem_list fun e he f _ hec => ?_
    rw [hec] at he
    exact absurd he hclosed
  refine ⟨hannounced.step hr fun _ => hclosed, ?_⟩
  rwa [ho.1]

/-- Once its end is handled, `c` is sent nothing; before, the order is kept. -/
lemma Ordered.step (h : s.Ordered c) (hr : s.Regular c) (ho : ¬ s.Opens c a) :
    (s.step a).Ordered c ∨ (s.step a).Quiet c := by
  have hannounced : s.Announced c := h.events
  have hevents' := hannounced.step (a := a) hr.running fun hopens => absurd hopens ho
  cases moves hr.running a with
  | queue hq hrouter hevents hpending | leave hrouter hevents hpending =>
    exact .inl ⟨hevents', hpending ▸ h.pending⟩
  | @decide event hp he hrouter hpending =>
    by_cases hc : event = .closed c
    · -- The end of `c` is handled now, so its opening is not queued behind it.
      subst hc
      rw [Announced, he] at hannounced
      refine .inr ⟨?_, fun hm => (List.pairwise_cons.mp hannounced).1 _ hm rfl rfl, ?_⟩
      · rw [hrouter]
        exact .inl (Router.phase_noteClosed.trans (if_pos rfl))
      · intro t ht
        rw [hpending] at ht
        have hof : .transmit t ∈ Command.ofEvent (.closed c) [] := ht
        cases Command.transmit_mem_ofEvent hof
    · refine .inl ⟨hevents', fun hm => hc ?_⟩
      rw [hpending] at hm
      exact Command.hangUp_mem_ofEvent hm
  | perform hp =>
    refine .inl ⟨hevents', fun hm => h.pending ?_⟩
    rw [hp]
    exact List.mem_cons_of_mem _ hm

/-- What is sent to an outbox with room is queued. -/
lemma Treats.eq_of_accepts {box' : Outbox} {gone sent : List Outbound}
    (h : Treats c s box a gone sent box') (hbox : s.broker.outbox? c = some box)
    (hsent : box.Accepts ∨ sent = []) (hover : ¬ s.Overflows c a) (hd : ¬ Detaches c s a) :
    gone ++ box'.items = box.items ++ sent := by
  cases h with
  | leave | hangUp => exact (List.append_nil _).symm
  | receive => simp [Outbox.discard]
  | detach hd' => exact absurd hd' hd
  | push hp ht =>
    rcases hsent with hacc | hnil
    · rcases Nat.lt_or_ge box.items.length Outbox.capacity with hlt | hge
      · rw [Outbox.push_of_lt hacc hlt, List.nil_append]
      · exact absurd ⟨rfl, _, _, box, hp, ht, hbox, hacc, hge⟩ hover
    · cases hnil

lemma Treats.isOpen {box' : Outbox} {gone sent : List Outbound}
    (h : Treats c s box a gone sent box') (hbox : s.broker.outbox? c = some box)
    (hacc : box.Accepts) (hs : s.Ordered c) (hover : ¬ s.Overflows c a) : box'.isOpen = true := by
  cases h with
  | leave | receive | detach => exact hacc.1
  | push hp ht =>
    rcases Nat.lt_or_ge box.items.length Outbox.capacity with hlt | hge
    · rw [Outbox.push_of_lt hacc hlt]
      exact hacc.1
    · exact absurd ⟨rfl, _, _, box, hp, ht, hbox, hacc, hge⟩ hover
  | hangUp hp =>
    refine absurd ?_ hs.pending
    rw [hp]
    exact List.mem_cons_self

lemma Sound.step (hs : s.Sound c) (h : s.Proceeds c (a :: steps)) (hover : ¬ s.Overflows c a)
    (hd : ¬ Detaches c s a) (hl : ¬ s.OpensLate c a) : (s.step a).Sound c := by
  intro box' hbox'
  cases hbox : s.broker.outbox? c with
  | none =>
    by_cases ho : s.Opens c a
    · rw [outbox?_of_opens h.regular.running ho] at hbox'
      cases hbox'
      exact ⟨rfl, .inl ⟨rfl, ordered_of_opens h.regular.running ho hl⟩⟩
    · rw [outbox?_step ho, hbox] at hbox'
      cases hbox'
  | some box =>
    have ho := h.not_opens hbox
    obtain ⟨box₁, hbox₁, htreats⟩ := exists_treats hbox ho
    obtain rfl := Option.some.inj (hbox₁.symm.trans hbox')
    obtain ⟨ha, hsound⟩ := hs box hbox
    refine ⟨htreats.isAttached hd ha, ?_⟩
    rcases hsound with ⟨hopen, hordered⟩ | hquiet
    · rcases hordered.step h.regular ho with hordered' | hquiet'
      · exact .inl ⟨htreats.isOpen hbox ⟨hopen, ha⟩ hordered hover, hordered'⟩
      · exact .inr hquiet'
    · exact .inr (hquiet.step h.regular ho)

/-- Where the outbox of `c` is sound, nothing is lost in a step. -/
lemma Sound.conserved (hs : s.Sound c) (h : s.Proceeds c (a :: steps))
    (hover : ¬ s.Overflows c a) (hd : ¬ Detaches c s a) :
    s.takenAt c a ++ (s.step a).queued c = s.queued c ++ s.issuedAt c a := by
  cases hbox : s.broker.outbox? c with
  | none =>
    rw [takenAt_of_none hbox, queued_step_of_none h.regular hbox, queued_of_none hbox,
      (h.regular.unopened hbox).2.issuedAt]
  | some box =>
    obtain ⟨box', hbox', htreats⟩ := exists_treats hbox (h.not_opens hbox)
    obtain ⟨ha, hsound⟩ := hs box hbox
    rw [queued_of_some hbox, queued_of_some hbox']
    refine htreats.eq_of_accepts hbox ?_ hover hd
    rcases hsound with ⟨hopen, -⟩ | hquiet
    · exact .inl ⟨hopen, ha⟩
    · exact .inr hquiet.issuedAt

lemma Sound.taken_append_queued (hs : s.Sound c) (h : s.Proceeds c steps)
    (hover : Never (Overflows c) s steps) (hd : Never (Detaches c) s steps)
    (hl : Never (OpensLate c) s steps) :
    s.taken c steps ++ (s.run steps).queued c = s.queued c ++ s.issued c steps := by
  induction steps generalizing s with
  | nil => simp [taken, issued, run]
  | cons a steps ih =>
    have hstep := hs.conserved h hover.head hd.head
    have hs' := hs.step h hover.head hd.head hl.head
    calc s.taken c (a :: steps) ++ (s.run (a :: steps)).queued c
        = s.takenAt c a ++ ((s.step a).queued c ++ (s.step a).issued c steps) := by
          rw [taken, List.append_assoc, ← ih hs' h.tail hover.tail hd.tail hl.tail, run]
      _ = s.queued c ++ s.issued c (a :: steps) := by
          rw [← List.append_assoc, hstep, List.append_assoc, issued]

/-! ### The router keeping up -/

/-- A step is taken by somebody else while the router still has something to do. -/
def Overtakes (s : Actor) (a : Step) : Prop :=
  a ≠ .decide ∧ a ≠ .perform ∧ (s.broker.events ≠ [] ∨ s.pending ≠ [])

instance : Decidable (Overtakes s a) := inferInstanceAs (Decidable (_ ∧ _ ∧ _))

/-- Where every step is handled before the next one, no connection is opened late. -/
lemma never_opensLate_of_overtakes (h : Never Overtakes s steps) : Never (OpensLate c) s steps := by
  rintro before a after rfl ⟨ho, hlate⟩
  refine h before a after rfl ⟨by simp [ho.1], by simp [ho.1], ?_⟩
  exact hlate.imp List.ne_nil_of_mem List.ne_nil_of_mem

/-! ### Outboxes without gaps -/

/-- What `c` takes out of its outbox along a run, and what is in it then, is the beginning of what is
issued to `c`. -/
structure Contiguous (c : ConnectionId) (s : Actor) (steps : List Step) : Prop where
  /-- What is issued to `c`, now or as soon as the router comes to it, is what the router puts out
  about the events that it has taken up. -/
  handled : ∃ events, (s.run steps).broker.router = (s.broker.router.run events).1 ∧
    s.issued c steps ++ (s.run steps).pendingTo c =
      (s.broker.router.sentTo c events).map (·.item)
  /-- Nothing is reordered, repeated or left out. -/
  ordered : s.taken c steps ++ (s.run steps).queued c <+: s.issued c steps
  bounded : ((s.run steps).queued c).length ≤ Outbox.capacity
  /-- The item that finds no room is lost, and with it all that come after it. -/
  overflow : ∀ before a after, steps = before ++ a :: after → (s.run before).Overflows c a →
    ((s.run before).queued c).length = Outbox.capacity ∧
      ((s.run before).step a).Ends c after ((s.run before).queued c)

/-- Nothing is missing at the end either, unless the outbox overflows or the receiving end is
dropped. -/
structure GapFree (c : ConnectionId) (s : Actor) (steps : List Step) : Prop
    extends Contiguous c s steps where
  whole : Never (Overflows c) s steps → Never (Detaches c) s steps →
    s.taken c steps ++ (s.run steps).queued c = s.issued c steps

section New

variable {check : CredentialCheck} {maxQoS : QoS}

lemma contiguous_new (h : steps.count .openConnection < 2 ^ 64) (c : ConnectionId) :
    (new check maxQoS).Contiguous c steps := by
  have hproceeds : (new check maxQoS).Proceeds c steps := proceeds_new h
  refine ⟨exists_handled hproceeds.regular.running steps c, ?_, ?_, ?_⟩
  · exact taken_append_queued_le hproceeds
  · exact length_queued_run hproceeds (Nat.zero_le _)
  · rintro before a after rfl ho
    refine ⟨?_, ends_of_overflows hproceeds.run ho⟩
    have hbefore : before.count .openConnection < 2 ^ 64 :=
      Nat.lt_of_le_of_lt ((List.sublist_append_left ..).count_le _) h
    have hle : (((new check maxQoS).run before).queued c).length ≤ Outbox.capacity :=
      length_queued_run (proceeds_new hbefore) (Nat.zero_le _)
    obtain ⟨-, t, rest, box, -, -, hbox, -, hge⟩ := ho
    rw [queued_of_some hbox] at hle ⊢
    exact Nat.le_antisymm hle hge

/-- Outboxes have no gaps where no connection is opened late. -/
lemma gapFree_of_never_opensLate (h : steps.count .openConnection < 2 ^ 64)
    (hl : Never (OpensLate c) (new check maxQoS) steps) : (new check maxQoS).GapFree c steps where
  toContiguous := contiguous_new h c
  whole hover hd := by
    have hsound : (new check maxQoS).Sound c := fun box hbox => by cases hbox
    exact hsound.taken_append_queued (proceeds_new h) hover hd hl

/-- The end of a connection is reported before anybody has it, and is handled behind its opening:
what is sent to it then is lost. -/
example :
    let steps : List Step := [.close ⟨1⟩, .openConnection,
      .packet ⟨1⟩ (ConnectRequest.new "x" 0).packet, .decide, .perform, .decide, .decide, .perform]
    let s := new .anyone .atMostOnce
    s.issued ⟨1⟩ steps = [.packet [0x20, 0x02, 0x00, 0x00]] ∧ s.taken ⟨1⟩ steps = [] ∧
      (s.run steps).queued ⟨1⟩ = [] := by
  decide

end New

end Actor

end Mqtt
