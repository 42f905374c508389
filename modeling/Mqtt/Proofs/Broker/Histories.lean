import Mathlib.Data.List.Induction
import Mqtt.Proofs.Broker.Subscriptions

/-!
# Tables and their histories

A table of subscriptions is edited in place, over and over. Everything that it tells can be told
from the operations on it as well: who is subscribed at which QoS from the last operation that
concerns the subscription (`Subscriptions.lastGrant`), and in which order from the operations with
which the subscriptions began (`Subscriptions.BeginsAt`). This is
`Subscriptions.followsFrom_after`.
-/

namespace Mqtt

namespace Subscriptions

open Subscriber

/-- An operation on a table. -/
inductive Operation where
  | subscribe (topic : String) (c : ConnectionId) (qos : QoS)
  | unsubscribe (topic : String) (c : ConnectionId)
  | removeConnection (c : ConnectionId)
deriving DecidableEq

/-- The table after an operation. -/
def Operation.apply (table : Subscriptions) : Operation → Subscriptions
  | .subscribe topic c qos => table.subscribe topic c qos
  | .unsubscribe topic c   => table.unsubscribe topic c
  | .removeConnection c    => table.removeConnection c

/-- What an operation makes of the subscription of `c` to `t`, if it concerns it: one at some QoS,
or none. -/
def Operation.outcome? (t : String) (c : ConnectionId) : Operation → Option (Option QoS)
  | .subscribe topic d qos => if topic = t ∧ d = c then some (some qos) else none
  | .unsubscribe topic d   => if topic = t ∧ d = c then some none else none
  | .removeConnection d    => if d = c then some none else none

/-- The table after some operations on a new one. -/
def after (ops : List Operation) : Subscriptions :=
  ops.foldl Operation.apply empty

/-- The QoS of the last operation that concerns the subscription of `c` to `t`, if this operation
subscribes. -/
def lastGrant (t : String) (c : ConnectionId) (ops : List Operation) : Option QoS :=
  (ops.reverse.findSome? (Operation.outcome? t c)).join

/-- The operation at `n` subscribes `c` to `t`, which it was not at that time and has been ever
since. -/
structure BeginsAt (t : String) (c : ConnectionId) (ops : List Operation) (n : Nat) : Prop where
  subscribes : ∃ qos, ops[n]? = some (.subscribe t c qos)
  absent : lastGrant t c (ops.take n) = none
  present : ∀ m, n < m → m ≤ ops.length → lastGrant t c (ops.take m) ≠ none

/-- The subscription of `c` to `t` began before that of `d`. -/
def Precedes (t : String) (ops : List Operation) (c d : ConnectionId) : Prop :=
  ∃ m n, BeginsAt t c ops m ∧ BeginsAt t d ops n ∧ m < n

variable {t : String} {c d : ConnectionId} {qos : QoS} {table : Subscriptions} {op : Operation}
  {ops : List Operation}

/-! ### One operation more -/

lemma after_concat : after (ops ++ [op]) = op.apply (after ops) := by
  rw [after, List.foldl_append]
  rfl

lemma lastGrant_concat :
    lastGrant t c (ops ++ [op]) = (op.outcome? t c).getD (lastGrant t c ops) := by
  rw [lastGrant, List.reverse_append, List.reverse_singleton, List.singleton_append,
    List.findSome?_cons]
  cases op.outcome? t c <;> rfl

lemma eq_subscribe_of_outcome? (h : op.outcome? t c = some (some qos)) :
    op = .subscribe t c qos := by
  cases op with
  | subscribe topic d q => simp_all [Operation.outcome?]
  | unsubscribe topic d => simp [Operation.outcome?] at h
  | removeConnection d => simp [Operation.outcome?] at h

lemma WellFormed.apply (h : table.WellFormed) : (op.apply table).WellFormed := by
  cases op with
  | subscribe topic c qos => exact h.subscribe
  | unsubscribe topic c => exact h.unsubscribe
  | removeConnection c => exact h.removeConnection

lemma wellFormed_after (ops : List Operation) : (after ops).WellFormed := by
  induction ops using List.reverseRecOn with
  | nil => exact wellFormed_empty
  | append_singleton ops op ih =>
    rw [after_concat]
    exact ih.apply

/-- An operation decides about the subscriptions it concerns, and leaves all others. -/
lemma grantedTo_apply (h : table.WellFormed) : grantedTo c ((op.apply table).subscribers t) =
    (op.outcome? t c).getD (grantedTo c (table.subscribers t)) := by
  cases op with
  | subscribe topic d qos =>
    rw [Operation.apply, subscribers_subscribe h, Operation.outcome?]
    by_cases ht : topic = t
    · by_cases hd : d = c
      · simp [ht, hd]
      · simp [ht, hd, Ne.symm hd]
    · simp [ht, Ne.symm ht]
  | unsubscribe topic d =>
    rw [Operation.apply, subscribers_unsubscribe h, Operation.outcome?]
    by_cases ht : topic = t
    · by_cases hd : d = c
      · simp [ht, hd]
      · simp [ht, hd, Ne.symm hd]
    · simp [ht, Ne.symm ht]
  | removeConnection d =>
    rw [Operation.apply, subscribers_removeConnection h, Operation.outcome?]
    by_cases hd : d = c
    · simp [hd]
    · simp [hd, Ne.symm hd]

lemma grantedTo_after (ops : List Operation) :
    grantedTo c ((after ops).subscribers t) = lastGrant t c ops := by
  induction ops using List.reverseRecOn with
  | nil => rfl
  | append_singleton ops op ih =>
    rw [after_concat, grantedTo_apply (wellFormed_after ops), ih, lastGrant_concat]

/-! ### Beginnings -/

/-- A subscription that is there after one more operation began when it did before. -/
lemma BeginsAt.concat {n : Nat} (h : BeginsAt t c ops n)
    (hp : lastGrant t c (ops ++ [op]) ≠ none) : BeginsAt t c (ops ++ [op]) n := by
  obtain ⟨q, hq⟩ := h.subscribes
  have hn : n < ops.length := (List.getElem?_eq_some_iff.mp hq).1
  refine ⟨⟨q, ?_⟩, ?_, ?_⟩
  · rw [List.getElem?_append_left hn, hq]
  · rw [List.take_append_of_le_length hn.le, h.absent]
  · intro m hm hle
    rw [List.length_append, List.length_singleton] at hle
    rcases Nat.lt_or_eq_of_le hle with hlt | rfl
    · rw [List.take_append_of_le_length (by omega)]
      exact h.present m hm (by omega)
    · rw [List.take_of_length_le (by simp)]
      exact hp

/-- A subscription that was not there begins with the operation that subscribes. -/
lemma beginsAt_length (h : lastGrant t c ops = none) :
    BeginsAt t c (ops ++ [.subscribe t c qos]) ops.length := by
  refine ⟨⟨qos, by simp⟩, by simpa using h, ?_⟩
  intro m hm hle
  rw [List.length_append, List.length_singleton] at hle
  rw [List.take_of_length_le (by simp; omega), lastGrant_concat]
  simp [Operation.outcome?]

lemma exists_beginsAt (h : lastGrant t c ops ≠ none) : ∃ n, BeginsAt t c ops n := by
  induction ops using List.reverseRecOn with
  | nil => exact absurd rfl h
  | append_singleton ops op ih =>
    by_cases hbefore : lastGrant t c ops = none
    · obtain ⟨qos, hq⟩ := Option.ne_none_iff_exists'.mp h
      rw [lastGrant_concat, hbefore] at hq
      have ho : op.outcome? t c = some (some qos) := by
        cases ho : op.outcome? t c with
        | none => simp [ho] at hq
        | some outcome => rw [← hq, ho, Option.getD_some]
      rw [eq_subscribe_of_outcome? ho]
      exact ⟨ops.length, beginsAt_length hbefore⟩
    · obtain ⟨n, hn⟩ := ih hbefore
      exact ⟨n, hn.concat h⟩

lemma Precedes.concat (h : Precedes t ops c d) (hc : lastGrant t c (ops ++ [op]) ≠ none)
    (hd : lastGrant t d (ops ++ [op]) ≠ none) : Precedes t (ops ++ [op]) c d := by
  obtain ⟨m, n, hm, hn, hlt⟩ := h
  exact ⟨m, n, hm.concat hc, hn.concat hd, hlt⟩

/-- Whoever is subscribed anew comes after everyone who stays. -/
lemma precedes_subscribe (hc : lastGrant t c ops ≠ none)
    (hc' : lastGrant t c (ops ++ [.subscribe t d qos]) ≠ none) (hd : lastGrant t d ops = none) :
    Precedes t (ops ++ [.subscribe t d qos]) c d := by
  obtain ⟨n, hn⟩ := exists_beginsAt hc
  obtain ⟨q, hq⟩ := hn.subscribes
  exact ⟨n, ops.length, hn.concat hc', beginsAt_length hd, (List.getElem?_eq_some_iff.mp hq).1⟩

/-! ### Order -/

/-- An operation leaves the subscribers of a topic in their order. One that is new comes last. -/
lemma connections_apply (h : table.WellFormed) (op : Operation) (t : String) :
    (((op.apply table).subscribers t).map (·.connection)).Sublist
        ((table.subscribers t).map (·.connection)) ∨
      ∃ c qos, op = .subscribe t c qos ∧ grantedTo c (table.subscribers t) = none ∧
        ((op.apply table).subscribers t).map (·.connection) =
          (table.subscribers t).map (·.connection) ++ [c] := by
  cases op with
  | subscribe topic d qos =>
    rw [Operation.apply, subscribers_subscribe h]
    split <;> rename_i ht
    · subst ht
      cases hg : grantedTo d (table.subscribers t) with
      | none =>
        rw [grant_eq_append (grantedTo_eq_none_iff.mp hg), List.map_append]
        exact .inr ⟨d, qos, rfl, hg, rfl⟩
      | some q =>
        obtain ⟨front, back, hss, hfront⟩ := exists_append_cons hg
        rw [hss, grant_append_cons hfront]
        exact .inl (by simp)
    · exact .inl (List.Sublist.refl _)
  | unsubscribe topic d =>
    rw [Operation.apply, subscribers_unsubscribe h]
    split
    · exact .inl (List.filter_sublist.map _)
    · exact .inl (List.Sublist.refl _)
  | removeConnection d =>
    rw [Operation.apply, subscribers_removeConnection h]
    exact .inl (List.filter_sublist.map _)

lemma mem_connections_after :
    c ∈ ((after ops).subscribers t).map (·.connection) ↔ lastGrant t c ops ≠ none := by
  rw [mem_map_connection_iff, grantedTo_after]

lemma pairwise_precedes_after (t : String) (ops : List Operation) :
    (((after ops).subscribers t).map (·.connection)).Pairwise (Precedes t ops) := by
  induction ops using List.reverseRecOn with
  | nil => exact List.Pairwise.nil
  | append_singleton ops op ih =>
    have hthere : ∀ c ∈ ((after (ops ++ [op])).subscribers t).map (·.connection),
        lastGrant t c (ops ++ [op]) ≠ none := fun c hc => mem_connections_after.mp hc
    have hconcat : ∀ connections : List ConnectionId, connections.Pairwise (Precedes t ops) →
        (∀ c ∈ connections, lastGrant t c (ops ++ [op]) ≠ none) →
          connections.Pairwise (Precedes t (ops ++ [op])) := fun connections hp hc =>
      hp.imp_of_mem fun ha hb hab => hab.concat (hc _ ha) (hc _ hb)
    rw [after_concat] at hthere ⊢
    rcases connections_apply (wellFormed_after ops) op t with hsub | ⟨d, qos, rfl, hnone, heq⟩
    · exact hconcat _ (ih.sublist hsub) hthere
    · -- Here `d` is new, and stands behind everyone who stays.
      rw [heq] at hthere ⊢
      rw [grantedTo_after] at hnone
      have hstay : ∀ c ∈ ((after ops).subscribers t).map (·.connection),
          lastGrant t c (ops ++ [.subscribe t d qos]) ≠ none := fun c hc =>
        hthere c (List.mem_append_left _ hc)
      refine List.pairwise_append.mpr
        ⟨hconcat _ ih hstay, List.pairwise_singleton _ _, fun c hc e he => ?_⟩
      rw [List.mem_singleton.mp he]
      exact precedes_subscribe (mem_connections_after.mp hc) (hstay c hc) hnone

/-! ### Answers -/

lemma isSubscribed_iff :
    table.isSubscribed t c = true ↔ grantedTo c (table.subscribers t) ≠ none := by
  rw [ne_eq, grantedTo_eq_none_iff, isSubscribed, List.any_eq_true]
  push Not
  simp

/-- To unsubscribe makes the list of subscribers shorter, unless it does nothing. -/
lemma length_unsubscribe_ne_iff (h : table.WellFormed) :
    ((table.unsubscribe t c).subscribers t).length ≠ (table.subscribers t).length ↔
      grantedTo c (table.subscribers t) ≠ none := by
  rw [subscribers_unsubscribe h, if_pos rfl, withdraw, ne_eq, List.length_filter_eq_length_iff,
    ne_eq, grantedTo_eq_none_iff]
  simp

lemma removeConnection_unsubscribe :
    (table.unsubscribe t c).removeConnection c = table.removeConnection c := by
  obtain ⟨filters⟩ := table
  simp only [unsubscribe, removeConnection, mk.injEq]
  induction filters with
  | nil => rfl
  | cons entry rest ih =>
    obtain ⟨u, ss⟩ := entry
    rw [edit]
    split <;> rename_i hu
    · have hidem : withdraw c (withdraw c ss) = withdraw c ss := withdraw_withdraw
      split <;> rename_i hss
      · simp [hss]
      · rw [hss] at hidem
        simp [hss, hidem, hu]
    · simp only [List.map_cons, List.filter_cons, ih]

/-- A connection is removed by unsubscribing it from the filters it is subscribed to, in whatever
order. -/
lemma foldl_unsubscribe_eq (h : table.WellFormed) {order : List String}
    (ho : ∀ t, grantedTo c (table.subscribers t) ≠ none → t ∈ order) :
    order.foldl (fun table t => table.unsubscribe t c) table = table.removeConnection c := by
  induction order generalizing table with
  | nil =>
    refine (removeConnection_eq_self h fun t => ?_).symm
    by_contra hne
    exact List.not_mem_nil (ho t hne)
  | cons u order ih =>
    rw [List.foldl_cons, ih h.unsubscribe, removeConnection_unsubscribe]
    intro t ht
    rw [subscribers_unsubscribe h] at ht
    split at ht <;> rename_i htu
    · exact absurd grantedTo_withdraw_self ht
    · exact (List.mem_cons.mp (ho t ht)).resolve_left htu

/-! ### Histories -/

/-- What a table tells is what has been done to it. -/
structure FollowsFrom (ops : List Operation) (table : Subscriptions) : Prop where
  distinct : ∀ t, Distinct (table.subscribers t)
  subscribed : ∀ t s, s ∈ table.subscribers t ↔ lastGrant t s.connection ops = some s.granted
  order : ∀ t, (table.subscribers t).Pairwise fun a b => Precedes t ops a.connection b.connection
  /-- To unsubscribe finds a subscription to end if there is one. -/
  unsubscribed : ∀ t c, table.isSubscribed t c = true ↔ lastGrant t c ops ≠ none
  shortened : ∀ t c, table.isSubscribed t c = true ↔
    ((table.unsubscribe t c).subscribers t).length ≠ (table.subscribers t).length
  /-- To remove a connection ends the subscriptions that it has, as if one after the other. -/
  removed : ∀ c, table.countOf c = {t | lastGrant t c ops ≠ none}.ncard
  removal : ∀ c (topics : List String), (∀ t, lastGrant t c ops ≠ none → t ∈ topics) →
    topics.foldl (fun table t => table.unsubscribe t c) table = table.removeConnection c
  size : table.size = {t | table.subscribers t ≠ []}.ncard
  isEmpty : table.isEmpty = true ↔ table.size = 0

/-- Whatever operations there have been on a new table, it tells no more and no less than they
do. -/
theorem followsFrom_after (ops : List Operation) : FollowsFrom ops (after ops) := by
  have hw := wellFormed_after ops
  refine ⟨hw.distinct_subscribers, ?_, ?_, ?_, ?_, ?_, ?_, size_eq_ncard hw,
    List.isEmpty_iff_length_eq_zero⟩
  · intro t s
    rw [mem_iff_grantedTo (hw.distinct_subscribers t), grantedTo_after]
  · intro t
    exact List.pairwise_map.mp (pairwise_precedes_after t ops)
  · intro t c
    rw [isSubscribed_iff, grantedTo_after]
  · intro t c
    rw [isSubscribed_iff, length_unsubscribe_ne_iff hw]
  · intro c
    simp only [countOf_eq_ncard hw, grantedTo_after]
  · intro c order ho
    exact foldl_unsubscribe_eq hw fun t ht => ho t (by rwa [grantedTo_after] at ht)

/-- The first connection subscribes again, and keeps its place before the third one; the second one
comes back, behind it. -/
example : (after [.subscribe "a" ⟨1⟩ .atMostOnce, .subscribe "a" ⟨2⟩ .atMostOnce,
    .subscribe "a" ⟨3⟩ .atLeastOnce, .removeConnection ⟨2⟩, .subscribe "a" ⟨1⟩ .exactlyOnce,
    .subscribe "a" ⟨2⟩ .atLeastOnce]).subscribers "a" =
      [⟨⟨1⟩, .exactlyOnce⟩, ⟨⟨3⟩, .atLeastOnce⟩, ⟨⟨2⟩, .atLeastOnce⟩] := by decide

end Subscriptions

end Mqtt
