import Mqtt.Proofs.Broker.Endings
import Mqtt.Proofs.Broker.Hub

/-!
# Room in an outbox

What a client who is alone gets to see is told by the bytes it writes (`Router.replies`), except for
what finds no room in its outbox. While a client is never sent more packets than there is room for
since it last emptied its outbox (`Outbound.Fits`), nothing that is issued to it gets lost, except
perhaps for the request to close, and then its outbox has been closed in place of it
(`Actor.Lossless`).
-/

namespace Mqtt

/-! ### What is due -/

namespace Outbound

/-- Whether the item is to be written. -/
def isPacket : Outbound → Bool
  | .packet _ => true
  | .close    => false

/-- The number of packets among some items. -/
def packets (items : List Outbound) : Nat := items.countP isPacket

/-- Nothing is behind the request to close. -/
def ClosesLast (items : List Outbound) : Prop :=
  ∀ front, front <+: items → .close ∈ front → front = items

/-- From `base` to `due` there are no more packets than an outbox has room for. -/
structure Fits (base due : List Outbound) : Prop where
  closesLast : ClosesLast due
  packets_le : packets due ≤ packets base + Outbox.capacity

variable {base due front items taken : List Outbound} {item : Outbound}

lemma packets_le_length (items : List Outbound) : packets items ≤ items.length :=
  List.countP_le_length

lemma packets_eq_length (h : .close ∉ items) : packets items = items.length := by
  refine List.countP_eq_length.mpr fun item hitem => ?_
  cases item with
  | packet bytes => rfl
  | close => exact absurd hitem h

lemma packets_le_of_prefix (h : front <+: items) : packets front ≤ packets items :=
  h.sublist.countP_le

lemma ClosesLast.close_not_mem (h : ClosesLast due) (hdue : front ++ [item] <+: due) :
    .close ∉ front := by
  intro hc
  have hlength := hdue.length_le
  rw [← h front ((List.prefix_append ..).trans hdue) hc, List.length_append] at hlength
  exact Nat.not_succ_le_self _ hlength

/-- Where a full outbox meets one item more, this is the request to close. -/
lemma Fits.eq_close (h : Fits base due) (hbase : base <+: taken)
    (hdue : taken ++ items ++ [item] <+: due) (hfull : Outbox.capacity ≤ items.length) :
    item = .close := by
  cases item with
  | close => rfl
  | packet bytes =>
    have hnot : .close ∉ taken ++ items ++ [packet bytes] := by
      simpa using h.closesLast.close_not_mem hdue
    have hcount := packets_le_of_prefix hdue
    rw [packets_eq_length hnot, List.length_append, List.length_append] at hcount
    have hle := hbase.length_le
    have hbase' := packets_le_length base
    have hroom := h.packets_le
    simp only [List.length_singleton] at hcount
    omega

end Outbound

namespace Router

variable {check : CredentialCheck} {maxQoS : QoS} {c : ConnectionId} {stream more : Bytes}

/-- What a new router sends to `c`, who is alone and writes `stream`. -/
def replies (check : CredentialCheck) (maxQoS : QoS) (c : ConnectionId) (stream : Bytes) :
    List Outbound :=
  ((new check maxQoS).sentTo c
    (.opened c :: (Decoder.new.receive stream).packets.map (.packet c))).map (·.item)

lemma replies_nil : replies check maxQoS c [] = [] := by
  rw [replies, Decoder.settled_new]
  rfl

lemma replies_prefix :
    replies check maxQoS c stream <+: replies check maxQoS c (stream ++ more) := by
  rw [replies, replies, (Decoder.receive_append ..).packets, List.map_append, ← List.cons_append,
    sentTo_append, List.map_append]
  exact List.prefix_append ..

lemma replies_closesLast : Outbound.ClosesLast (replies check maxQoS c stream) := by
  refine fun front hfront hclose => eq_of_close_mem ?_ hfront hclose
  rw [List.count_cons_self, List.count_eq_zero.mpr]
  simp

lemma replies_eq_of_close_mem (h : .close ∈ replies check maxQoS c stream) :
    replies check maxQoS c (stream ++ more) = replies check maxQoS c stream :=
  (replies_closesLast _ replies_prefix h).symm

end Router

/-! ### Nothing is lost -/

namespace Actor

variable {s : Actor} {a : Step} {acts : List Step} {c : ConnectionId}
  {base due taken issued : List Outbound}

/-- What was issued to `c` has been taken or is queued, except for a request to close that found no
room. -/
def Lossless (c : ConnectionId) (s : Actor) (taken issued : List Outbound) : Prop :=
  ∃ box, s.broker.outbox? c = some box ∧ box.isAttached = true ∧
    (box.isOpen = true ∧ taken ++ box.items = issued ∨
      box.isOpen = false ∧ taken ++ box.items ++ [.close] = issued)

lemma Lossless.taken_prefix (h : s.Lossless c taken issued) : taken <+: issued := by
  obtain ⟨box, -, -, ⟨-, heq⟩ | ⟨-, heq⟩⟩ := h
  · exact ⟨_, heq⟩
  · rw [List.append_assoc] at heq
    exact ⟨_, heq⟩

/-- Where the outbox of `c` is empty and open, `c` has taken all that was issued. -/
lemma Lossless.eq_of_isRegistered (h : s.Lossless c taken issued) (hq : s.queued c = [])
    (hr : s.broker.isRegistered c = true) : taken = issued := by
  obtain ⟨box, hbox, -, ⟨-, heq⟩ | ⟨hopen, -⟩⟩ := h
  · rw [queued_of_some hbox] at hq
    rwa [hq, List.append_nil] at heq
  · rw [Severed.isRegistered ⟨box, hbox, hopen⟩] at hr
    cases hr

/-- Where the outbox of `c` is empty and closed, `c` was to be asked to close. -/
lemma Lossless.eq_of_not_isRegistered (h : s.Lossless c taken issued) (hq : s.queued c = [])
    (hr : s.broker.isRegistered c = false) : taken ++ [.close] = issued := by
  obtain ⟨box, hbox, -, ⟨hopen, -⟩ | ⟨-, heq⟩⟩ := h
  · rw [Broker.isRegistered, hbox] at hr
    exact absurd hopen (Bool.eq_false_iff.mp hr)
  · rw [queued_of_some hbox] at hq
    rwa [hq, List.append_nil] at heq

/-- What fits into the outbox does not get lost. -/
lemma Lossless.step (h : s.Lossless c taken issued) (ho : ¬ s.Opens c a) (hd : ¬ Detaches c s a)
    (hh : .hangUp c ∉ s.pending) (hfits : Outbound.Fits base due) (hbase : base <+: taken)
    (hdue : issued ++ s.issuedAt c a <+: due) :
    (s.step a).Lossless c (taken ++ s.takenAt c a) (issued ++ s.issuedAt c a) := by
  obtain ⟨box, hbox, ha, hbalance⟩ := h
  obtain ⟨box', hbox', htreats⟩ := exists_treats hbox ho
  refine ⟨box', hbox', htreats.isAttached hd ha, ?_⟩
  generalize s.takenAt c a = gone at htreats ⊢
  generalize s.issuedAt c a = sent at htreats hdue ⊢
  cases htreats with
  | leave => simpa using hbalance
  | receive => simpa [Outbox.discard] using hbalance
  | detach hd' => exact absurd hd' hd
  | hangUp hp => exact absurd (hp ▸ List.mem_cons_self) hh
  | push hp ht =>
    rcases hbalance with ⟨hopen, rfl⟩ | ⟨-, rfl⟩
    · rcases Nat.lt_or_ge box.items.length Outbox.capacity with hlt | hge
      · rw [Outbox.push_of_lt ⟨hopen, ha⟩ hlt]
        exact .inl ⟨hopen, by simp⟩
      · rw [Outbox.push_of_ge ⟨hopen, ha⟩ hge, hfits.eq_close hbase hdue hge]
        exact .inr ⟨rfl, by simp [Outbox.hangUp]⟩
    · -- After the request to close nothing more is issued.
      exact absurd (by simp) (hfits.closesLast.close_not_mem hdue)

/-- Nobody connects by the step, and `c` neither reports its end nor drops its outbox. -/
def Step.Spares (c : ConnectionId) : Step → Prop
  | .openConnection      => False
  | .close d | .detach d => d ≠ c
  | _                    => True

/-- Since `c` took `base`, nothing that was issued to it has been lost, and `c` has not reported its
end. -/
structure UnderWay (check : CredentialCheck) (maxQoS : QoS) (c : ConnectionId)
    (base : List Outbound) (acts : List Step) : Prop where
  unreported : ((new check maxQoS).run acts).Unreported c
  base : base <+: (new check maxQoS).taken c acts
  lossless : ((new check maxQoS).run acts).Lossless c ((new check maxQoS).taken c acts)
    ((new check maxQoS).issued c acts)

/-- Nothing gets lost while what is due fits. -/
lemma UnderWay.step {check : CredentialCheck} {maxQoS : QoS}
    (h : UnderWay check maxQoS c base acts) (hfits : Outbound.Fits base due)
    (hdue : (new check maxQoS).issued c (acts ++ [a]) <+: due) (ha : a.Spares c) :
    UnderWay check maxQoS c base (acts ++ [a]) := by
  have hopens : ¬ ((new check maxQoS).run acts).Opens c a := by
    rintro ⟨rfl, -⟩
    exact ha
  have hdetaches : ¬ Detaches c ((new check maxQoS).run acts) a := by
    rintro ⟨rfl, -⟩
    exact ha rfl
  have hcloses : a ≠ .close c := by
    rintro rfl
    exact ha rfl
  have htaken : (new check maxQoS).taken c (acts ++ [a]) =
      (new check maxQoS).taken c acts ++ ((new check maxQoS).run acts).takenAt c a := by
    rw [taken_append, taken, taken, List.append_nil]
  have hissued : (new check maxQoS).issued c (acts ++ [a]) =
      (new check maxQoS).issued c acts ++ ((new check maxQoS).run acts).issuedAt c a := by
    rw [issued_append, issued, issued, List.append_nil]
  have hstep := h.lossless.step hopens hdetaches h.unreported.2 hfits h.base (hissued ▸ hdue)
  refine ⟨?_, ?_, ?_⟩
  · rw [run_append]
    exact h.unreported.step (isRunning_run rfl) hcloses
  · rw [htaken]
    exact h.base.trans (List.prefix_append ..)
  · rwa [run_append, htaken, hissued]

/-! ### Out of room -/

/-- Whether the step is a client's who looks at its outbox, or drops it. -/
def Step.isReceiving : Step → Bool
  | .receive _ _ | .detach _ => true
  | _                        => false

lemma taken_eq_nil (h : ∀ a ∈ acts, a.isReceiving = false) : s.taken c acts = [] := by
  induction acts generalizing s with
  | nil => rfl
  | cons a acts ih =>
    obtain ⟨ha, hrest⟩ := List.forall_mem_cons.mp h
    rw [taken, ih hrest, List.append_nil]
    cases a with
    | receive d n => cases ha
    | openConnection | packet | close | detach | decide | perform => rfl

/-- A connection that is the only one to be opened is not opened late. -/
lemma never_opensLate_of_count (h : s.Unreported c) (hcount : acts.count .openConnection ≤ 1)
    (hfirst : acts.head? = some .openConnection) : Never (OpensLate c) s acts := by
  rintro before a after rfl ⟨⟨rfl, -⟩, hlate⟩
  cases before with
  | nil => exact (not_or.mpr h) hlate
  | cons b before =>
    obtain rfl := Option.some.inj hfirst
    simp at hcount

/-- Where more is issued to `c` than there is room for, and `c` does not look at its outbox, it is
cut off for good. -/
lemma not_isRegistered_of_lt {check : CredentialCheck} {maxQoS : QoS} {more : List Step}
    (hcount : (acts ++ more).count .openConnection ≤ 1)
    (hfirst : acts.head? = some .openConnection) (hquiet : ∀ a ∈ acts, a.isReceiving = false)
    (hlt : Outbox.capacity < ((new check maxQoS).issued c acts).length) :
    ((new check maxQoS).run (acts ++ more)).broker.isRegistered c = false := by
  have hproceeds : (new check maxQoS).Proceeds c (acts ++ more) := proceeds_new (by omega)
  have hacts : acts.count .openConnection ≤ 1 := by
    rw [List.count_append] at hcount
    omega
  have hlate : Never (OpensLate c) (new check maxQoS) acts :=
    never_opensLate_of_count ⟨List.not_mem_nil, List.not_mem_nil⟩ hacts hfirst
  have hover : ¬ Never (Overflows c) (new check maxQoS) acts := by
    intro hnever
    have hdetach : Never (Detaches c) (new check maxQoS) acts := by
      rintro before a after rfl ⟨rfl, -⟩
      cases hquiet _ (List.mem_append_right _ List.mem_cons_self)
    have hproceeds : (new check maxQoS).Proceeds c acts := proceeds_new (by omega)
    have hsound : (new check maxQoS).Sound c := fun box hbox => by cases hbox
    have hbalance := hsound.taken_append_queued hproceeds hnever hdetach hlate
    have hle : (((new check maxQoS).run acts).queued c).length ≤ Outbox.capacity :=
      length_queued_run hproceeds (Nat.zero_le _)
    rw [taken_eq_nil hquiet, List.nil_append] at hbalance
    rw [hbalance] at hle
    exact absurd hlt (Nat.not_lt.mpr hle)
  simp only [Never, not_forall, not_not] at hover
  obtain ⟨before, a, after, rfl, hover⟩ := hover
  rw [List.append_assoc, List.cons_append] at hproceeds ⊢
  rw [run_append]
  exact (ends_of_overflows hproceeds.run hover).unregistered

end Actor

end Mqtt
