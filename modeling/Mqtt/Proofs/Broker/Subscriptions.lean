import Mathlib.Data.Set.Card
import Mqtt.Broker.Subscriptions

/-!
# Subscribers of a topic

A table of subscriptions is told by what `subscribers` answers for each topic. Each operation on the
table is an operation on these answers (`Subscriptions.subscribers_subscribe` and its kin), as long
as the table is well-formed, and all operations keep it well-formed.
-/

namespace Mqtt

/-! ### Subscribers of one filter -/

namespace Subscriber

variable {c d : ConnectionId} {qos old : QoS} {s : Subscriber} {ss front back : List Subscriber}

/-- No connection is in the list twice. -/
def Distinct (ss : List Subscriber) : Prop :=
  (ss.map (·.connection)).Nodup

/-- The QoS granted to `c`, if it is in the list. -/
def grantedTo (c : ConnectionId) : List Subscriber → Option QoS
  | []        => none
  | s :: rest => if s.connection = c then some s.granted else grantedTo c rest

lemma mem_of_mem_grant (h : s ∈ grant c qos ss) : s = ⟨c, qos⟩ ∨ s ∈ ss := by
  induction ss with
  | nil => exact .inl (List.mem_singleton.mp h)
  | cons a rest ih =>
    rw [grant] at h
    split at h
    · rcases List.mem_cons.mp h with rfl | h
      · exact .inl rfl
      · exact .inr (List.mem_cons_of_mem a h)
    · rcases List.mem_cons.mp h with rfl | h
      · exact .inr List.mem_cons_self
      · exact (ih h).imp_right (List.mem_cons_of_mem a)

lemma distinct_grant (h : Distinct ss) : Distinct (grant c qos ss) := by
  induction ss with
  | nil => simp [grant, Distinct]
  | cons a rest ih =>
    obtain ⟨ha, hrest⟩ := List.nodup_cons.mp h
    rw [grant]
    split <;> rename_i hc
    · subst hc
      exact List.nodup_cons.mpr ⟨ha, hrest⟩
    · refine List.nodup_cons.mpr ⟨?_, ih hrest⟩
      rintro hmem
      obtain ⟨s, hs, hsa⟩ := List.mem_map.mp hmem
      rcases mem_of_mem_grant hs with rfl | hs
      · exact hc hsa.symm
      · exact ha (List.mem_map.mpr ⟨s, hs, hsa⟩)

@[simp] lemma mem_withdraw : s ∈ withdraw c ss ↔ s ∈ ss ∧ s.connection ≠ c := by
  simp [withdraw]

lemma distinct_withdraw (h : Distinct ss) : Distinct (withdraw c ss) :=
  (List.filter_sublist.map _).nodup h

@[simp] lemma grantedTo_grant_self : grantedTo c (grant c qos ss) = some qos := by
  induction ss with
  | nil => simp [grant, grantedTo]
  | cons a rest ih =>
    rw [grant]
    split <;> rename_i hc
    · simp [grantedTo]
    · simpa [grantedTo, hc] using ih

@[simp] lemma grantedTo_grant_of_ne (h : d ≠ c) :
    grantedTo d (grant c qos ss) = grantedTo d ss := by
  induction ss with
  | nil => simp [grant, grantedTo, h.symm]
  | cons a rest ih =>
    rw [grant]
    split <;> rename_i hc
    · simp [grantedTo, hc, h.symm]
    · simp [grantedTo, ih]

lemma grantedTo_eq_none_iff : grantedTo c ss = none ↔ ∀ s ∈ ss, s.connection ≠ c := by
  induction ss with
  | nil => simp [grantedTo]
  | cons a rest ih =>
    rw [grantedTo]
    split <;> rename_i hc
    · simp [hc]
    · simp [hc, ih]

@[simp] lemma grantedTo_withdraw_self : grantedTo c (withdraw c ss) = none := by
  simp [grantedTo_eq_none_iff]

@[simp] lemma grantedTo_withdraw_of_ne (h : d ≠ c) :
    grantedTo d (withdraw c ss) = grantedTo d ss := by
  induction ss with
  | nil => rfl
  | cons a rest ih =>
    by_cases hc : a.connection = c
    · rw [withdraw, List.filter_cons_of_neg (by simp [hc]), ← withdraw, ih, grantedTo,
        if_neg (by rw [hc]; exact h.symm)]
    · rw [withdraw, List.filter_cons_of_pos (by simp [hc]), ← withdraw, grantedTo, grantedTo, ih]

lemma mem_iff_grantedTo (h : Distinct ss) :
    s ∈ ss ↔ grantedTo s.connection ss = some s.granted := by
  induction ss with
  | nil => simp [grantedTo]
  | cons a rest ih =>
    obtain ⟨ha, hrest⟩ := List.nodup_cons.mp h
    rw [List.mem_cons, grantedTo]
    split <;> rename_i hc
    · have hs : s ∉ rest := fun hs => ha (List.mem_map.mpr ⟨s, hs, hc.symm⟩)
      obtain ⟨d, q⟩ := s
      obtain ⟨e, q'⟩ := a
      subst hc
      simp [hs, eq_comm]
    · rw [← ih hrest]
      have hne : s ≠ a := by
        rintro rfl
        exact hc rfl
      simp [hne]

/-- The entries of `c` in a list that has it at most once. -/
lemma filter_connection_eq (h : Distinct ss) :
    ss.filter (·.connection = c) = ((grantedTo c ss).map (Subscriber.mk c)).toList := by
  induction ss with
  | nil => rfl
  | cons a rest ih =>
    obtain ⟨ha, hrest⟩ := List.nodup_cons.mp h
    by_cases hc : a.connection = c
    · subst hc
      have hnone : ∀ s ∈ rest, s.connection ≠ a.connection := fun s hs heq =>
        ha (List.mem_map.mpr ⟨s, hs, heq⟩)
      rw [List.filter_cons_of_pos (by simp), ih hrest, grantedTo_eq_none_iff.mpr hnone]
      simp [grantedTo]
    · rw [List.filter_cons_of_neg (by simpa using hc), ih hrest, grantedTo, if_neg hc]

lemma countP_connection (h : Distinct ss) : ss.countP (·.connection = c) =
    if (grantedTo c ss).isSome then 1 else 0 := by
  rw [List.countP_eq_length_filter, filter_connection_eq h]
  cases grantedTo c ss <;> rfl

lemma mem_map_connection_iff : c ∈ ss.map (·.connection) ↔ grantedTo c ss ≠ none := by
  rw [ne_eq, grantedTo_eq_none_iff, List.mem_map]
  push Not
  rfl

/-- Lists without repetition have the same entries if they grant the same. -/
lemma perm_iff_grantedTo {ss' : List Subscriber} (h : Distinct ss) (h' : Distinct ss') :
    ss.Perm ss' ↔ ∀ c, grantedTo c ss = grantedTo c ss' := by
  rw [List.perm_ext_iff_of_nodup h.of_map h'.of_map]
  constructor
  · intro hmem c
    refine Option.ext fun q => ?_
    exact ((mem_iff_grantedTo (s := ⟨c, q⟩) h).symm.trans (hmem _)).trans (mem_iff_grantedTo h')
  · intro heq s
    rw [mem_iff_grantedTo h, mem_iff_grantedTo h', heq]

/-! ### Places in the list -/

lemma exists_append_cons (h : grantedTo c ss = some old) :
    ∃ front back, ss = front ++ ⟨c, old⟩ :: back ∧ ∀ s ∈ front, s.connection ≠ c := by
  induction ss with
  | nil => cases h
  | cons a rest ih =>
    rw [grantedTo] at h
    split at h <;> rename_i ha
    · cases h
      subst ha
      exact ⟨[], rest, rfl, by simp⟩
    · obtain ⟨front, back, rfl, hfront⟩ := ih h
      exact ⟨a :: front, back, rfl, List.forall_mem_cons.mpr ⟨ha, hfront⟩⟩

/-- Whoever is in the list keeps its place. -/
lemma grant_append_cons (h : ∀ s ∈ front, s.connection ≠ c) :
    grant c qos (front ++ ⟨c, old⟩ :: back) = front ++ ⟨c, qos⟩ :: back := by
  induction front with
  | nil => exact if_pos rfl
  | cons a front ih =>
    rw [List.forall_mem_cons] at h
    rw [List.cons_append, grant, if_neg h.1, ih h.2, List.cons_append]

/-- Whoever is not in the list comes after all others. -/
lemma grant_eq_append (h : ∀ s ∈ ss, s.connection ≠ c) : grant c qos ss = ss ++ [⟨c, qos⟩] := by
  induction ss with
  | nil => rfl
  | cons a rest ih =>
    rw [List.forall_mem_cons] at h
    rw [grant, if_neg h.1, ih h.2, List.cons_append]

@[simp] lemma grant_grant : grant c qos (grant c old ss) = grant c qos ss := by
  cases h : grantedTo c ss with
  | none =>
    have hss := grantedTo_eq_none_iff.mp h
    rw [grant_eq_append hss, grant_append_cons hss, grant_eq_append hss]
  | some q =>
    obtain ⟨front, back, rfl, hfront⟩ := exists_append_cons h
    rw [grant_append_cons hfront, grant_append_cons hfront, grant_append_cons hfront]

@[simp] lemma withdraw_grant : withdraw c (grant c qos ss) = withdraw c ss := by
  cases h : grantedTo c ss with
  | none => simp [grant_eq_append (grantedTo_eq_none_iff.mp h), withdraw]
  | some q =>
    obtain ⟨front, back, rfl, hfront⟩ := exists_append_cons h
    simp [grant_append_cons hfront, withdraw]

@[simp] lemma withdraw_withdraw : withdraw c (withdraw c ss) = withdraw c ss := by
  simp [withdraw]

end Subscriber

/-! ### Well-formed tables -/

namespace Subscriptions

open Subscriber

/-- Every filter is kept once, none of them without subscribers, and none of these twice. -/
structure WellFormed (table : Subscriptions) : Prop where
  filters : (table.filters.map (·.1)).Nodup
  nonempty : ∀ entry ∈ table.filters, entry.2 ≠ []
  distinct : ∀ entry ∈ table.filters, Distinct entry.2

variable {topic t : String} {c : ConnectionId} {qos : QoS} {table : Subscriptions}

section Edit

variable {f : List Subscriber → List Subscriber} {fs : List (String × List Subscriber)}

lemma subscribersIn_eq_nil (h : ∀ entry ∈ fs, entry.1 ≠ t) : subscribersIn t fs = [] := by
  induction fs with
  | nil => rfl
  | cons entry rest ih =>
    obtain ⟨u, ss⟩ := entry
    rw [subscribersIn, if_neg (h (u, ss) List.mem_cons_self)]
    exact ih fun entry hm => h entry (List.mem_cons_of_mem _ hm)

lemma subscribersIn_eq_of_mem (hn : (fs.map (·.1)).Nodup) {ss : List Subscriber}
    (h : (t, ss) ∈ fs) : subscribersIn t fs = ss := by
  induction fs with
  | nil => cases h
  | cons entry rest ih =>
    obtain ⟨u, us⟩ := entry
    obtain ⟨hu, hrest⟩ := List.nodup_cons.mp hn
    rw [subscribersIn]
    rcases List.mem_cons.mp h with heq | h
    · cases heq
      rw [if_pos rfl]
    · rw [if_neg, ih hrest h]
      rintro rfl
      exact hu (List.mem_map.mpr ⟨_, h, rfl⟩)

lemma mem_of_subscribersIn (h : subscribersIn t fs ≠ []) : (t, subscribersIn t fs) ∈ fs := by
  induction fs with
  | nil => exact absurd rfl h
  | cons entry rest ih =>
    obtain ⟨u, ss⟩ := entry
    rw [subscribersIn] at h ⊢
    split at h <;> rename_i hu
    · subst hu
      simp
    · rw [if_neg hu]
      exact List.mem_cons_of_mem _ (ih h)

/-- An edited list has the entries of the other filters, and what comes of the edited one. -/
lemma mem_edit (hn : (fs.map (·.1)).Nodup) {entry : String × List Subscriber}
    (h : entry ∈ edit topic f fs) :
    (entry = (topic, f (subscribersIn topic fs)) ∧ entry.2 ≠ []) ∨
      (entry ∈ fs ∧ entry.1 ≠ topic) := by
  induction fs with
  | nil =>
    rw [edit] at h
    split at h <;> rename_i hf
    · cases h
    · rw [List.mem_singleton.mp h, subscribersIn, hf]
      simp
  | cons head rest ih =>
    obtain ⟨u, us⟩ := head
    obtain ⟨hu, hrest⟩ := List.nodup_cons.mp hn
    rw [edit] at h
    split at h <;> rename_i hut
    · subst hut
      have hne : ∀ entry ∈ rest, entry.1 ≠ u := fun entry hm heq =>
        hu (List.mem_map.mpr ⟨entry, hm, heq⟩)
      rw [subscribersIn, if_pos rfl]
      split at h <;> rename_i hf
      · exact .inr ⟨List.mem_cons_of_mem _ h, hne entry h⟩
      · rcases List.mem_cons.mp h with rfl | h
        · exact .inl (by simp [hf])
        · exact .inr ⟨List.mem_cons_of_mem _ h, hne entry h⟩
    · rw [subscribersIn, if_neg hut]
      rcases List.mem_cons.mp h with rfl | h
      · exact .inr ⟨List.mem_cons_self, hut⟩
      · exact (ih hrest h).imp_right fun ⟨hm, hne⟩ => ⟨List.mem_cons_of_mem _ hm, hne⟩

lemma nodup_edit (hn : (fs.map (·.1)).Nodup) : ((edit topic f fs).map (·.1)).Nodup := by
  induction fs with
  | nil => rw [edit]; split <;> simp
  | cons head rest ih =>
    obtain ⟨u, us⟩ := head
    obtain ⟨hu, hrest⟩ := List.nodup_cons.mp hn
    rw [edit]
    split <;> rename_i hut
    · subst hut
      split
      · exact hrest
      · exact List.nodup_cons.mpr ⟨hu, hrest⟩
    · refine List.nodup_cons.mpr ⟨?_, ih hrest⟩
      intro hmem
      obtain ⟨entry, hentry, heq⟩ := List.mem_map.mp hmem
      rcases mem_edit hrest hentry with ⟨rfl, -⟩ | ⟨hentry, -⟩
      · exact hut heq.symm
      · exact hu (List.mem_map.mpr ⟨entry, hentry, heq⟩)

lemma subscribersIn_edit (hn : (fs.map (·.1)).Nodup) : subscribersIn t (edit topic f fs) =
    if t = topic then f (subscribersIn topic fs) else subscribersIn t fs := by
  induction fs with
  | nil =>
    rw [edit]
    by_cases ht : t = topic
    · split <;> rename_i hf <;> simp [subscribersIn, hf, ht]
    · split <;> simp [subscribersIn, ht, Ne.symm ht]
  | cons head rest ih =>
    obtain ⟨u, us⟩ := head
    obtain ⟨hu, hrest⟩ := List.nodup_cons.mp hn
    have hnil : subscribersIn u rest = [] := subscribersIn_eq_nil fun entry hm heq =>
      hu (List.mem_map.mpr ⟨entry, hm, heq⟩)
    rw [edit]
    split <;> rename_i hut
    · subst hut
      split <;> rename_i hf
      · by_cases ht : t = u
        · simp [ht, subscribersIn, hf, hnil]
        · simp [ht, subscribersIn, Ne.symm ht]
      · by_cases ht : t = u
        · simp [ht, subscribersIn, hf]
        · simp [ht, subscribersIn, Ne.symm ht]
    · rw [subscribersIn, ih hrest]
      by_cases ht : t = topic
      · subst ht
        simp [subscribersIn, hut]
      · simp [subscribersIn, ht]

end Edit

lemma wellFormed_empty : empty.WellFormed :=
  ⟨List.nodup_nil, fun _ h => (List.not_mem_nil h).elim, fun _ h => (List.not_mem_nil h).elim⟩

/-- Where a table is well-formed, its filters are told by the subscribers of each topic. -/
lemma WellFormed.mem_filters_iff (h : table.WellFormed) {ss : List Subscriber} :
    (t, ss) ∈ table.filters ↔ table.subscribers t = ss ∧ ss ≠ [] := by
  constructor
  · intro hm
    exact ⟨subscribersIn_eq_of_mem h.filters hm, h.nonempty _ hm⟩
  · rintro ⟨rfl, hne⟩
    exact mem_of_subscribersIn hne

lemma WellFormed.distinct_subscribers (h : table.WellFormed) (t : String) :
    Distinct (table.subscribers t) := by
  by_cases hne : table.subscribers t = []
  · rw [hne]
    exact List.nodup_nil
  · exact h.distinct _ (h.mem_filters_iff.mpr ⟨rfl, hne⟩)

lemma WellFormed.edit (h : table.WellFormed) {f : List Subscriber → List Subscriber}
    (hf : ∀ ss, Distinct ss → Distinct (f ss)) :
    (Subscriptions.mk (Subscriptions.edit topic f table.filters)).WellFormed where
  filters := nodup_edit h.filters
  nonempty entry hentry := by
    rcases mem_edit h.filters hentry with ⟨-, hne⟩ | ⟨hmem, -⟩
    · exact hne
    · exact h.nonempty entry hmem
  distinct entry hentry := by
    rcases mem_edit h.filters hentry with ⟨rfl, -⟩ | ⟨hmem, -⟩
    · exact hf _ (h.distinct_subscribers topic)
    · exact h.distinct entry hmem

lemma WellFormed.subscribe (h : table.WellFormed) : (table.subscribe topic c qos).WellFormed :=
  h.edit fun _ => distinct_grant

lemma WellFormed.unsubscribe (h : table.WellFormed) : (table.unsubscribe topic c).WellFormed :=
  h.edit fun _ => distinct_withdraw

lemma WellFormed.removeConnection (h : table.WellFormed) :
    (table.removeConnection c).WellFormed where
  filters := by
    refine (List.filter_sublist.map _).nodup ?_
    simpa [List.map_map, Function.comp_def] using h.filters
  nonempty entry hentry := by
    simpa using (List.mem_filter.mp hentry).2
  distinct entry hentry := by
    obtain ⟨old, hold, rfl⟩ := List.mem_map.mp (List.mem_filter.mp hentry).1
    exact distinct_withdraw (h.distinct old hold)

/-! ### What the operations do to the subscribers of a topic -/

lemma subscribers_subscribe (h : table.WellFormed) : (table.subscribe topic c qos).subscribers t =
    if t = topic then grant c qos (table.subscribers t) else table.subscribers t := by
  refine (subscribersIn_edit h.filters).trans ?_
  split <;> rename_i ht
  · rw [ht]; rfl
  · rfl

lemma subscribers_unsubscribe (h : table.WellFormed) : (table.unsubscribe topic c).subscribers t =
    if t = topic then withdraw c (table.subscribers t) else table.subscribers t := by
  refine (subscribersIn_edit h.filters).trans ?_
  split <;> rename_i ht
  · rw [ht]; rfl
  · rfl

lemma subscribers_removeConnection (h : table.WellFormed) :
    (table.removeConnection c).subscribers t = withdraw c (table.subscribers t) := by
  have hr := h.removeConnection (c := c)
  by_cases hne : withdraw c (table.subscribers t) = []
  · rw [hne]
    apply subscribersIn_eq_nil
    rintro ⟨u, ss⟩ hentry rfl
    obtain ⟨hmem, hss⟩ := List.mem_filter.mp hentry
    obtain ⟨⟨v, old⟩, hold, heq⟩ := List.mem_map.mp hmem
    cases heq
    rw [(h.mem_filters_iff.mp hold).1] at hne
    simp [hne] at hss
  · have hsome : table.subscribers t ≠ [] := by
      intro hnil
      rw [hnil] at hne
      exact hne rfl
    have hold := h.mem_filters_iff.mpr ⟨rfl, hsome⟩
    refine (hr.mem_filters_iff.mp (List.mem_filter.mpr ⟨List.mem_map.mpr ⟨_, hold, rfl⟩, ?_⟩)).1
    simpa using hne

/-- Removing a connection without subscriptions changes nothing. -/
lemma removeConnection_eq_self (h : table.WellFormed)
    (hc : ∀ t, grantedTo c (table.subscribers t) = none) : table.removeConnection c = table := by
  have hwithdraw : ∀ entry ∈ table.filters, (entry.1, withdraw c entry.2) = entry := by
    rintro ⟨t, ss⟩ hentry
    have hnone := grantedTo_eq_none_iff.mp (hc t)
    rw [(h.mem_filters_iff.mp hentry).1] at hnone
    have hself : withdraw c ss = ss := List.filter_eq_self.mpr fun s hs => by simpa using hnone s hs
    rw [hself]
  have hmap : (table.filters.map fun entry => (entry.1, withdraw c entry.2)) = table.filters := by
    rw [List.map_congr_left hwithdraw, List.map_id']
  rw [removeConnection, hmap, List.filter_eq_self.mpr]
  intro entry hentry
  simpa using h.nonempty entry hentry

/-! ### Counting filters -/

/-- The filters whose subscribers answer to a description are counted by the topics for which they
do. -/
lemma countP_filters_eq_ncard (h : table.WellFormed) {p : List Subscriber → Bool}
    (hp : p [] = false) :
    table.filters.countP (p ·.2) = {t | p (table.subscribers t) = true}.ncard := by
  have hset : {t | p (table.subscribers t) = true} =
      (((table.filters.filter (p ·.2)).map (·.1)).toFinset : Set String) := by
    ext t
    simp only [Set.mem_ofPred_eq, List.coe_toFinset, List.mem_map, List.mem_filter]
    constructor
    · intro ht
      have hne : table.subscribers t ≠ [] := by
        intro hnil
        rw [hnil, hp] at ht
        cases ht
      exact ⟨_, ⟨h.mem_filters_iff.mpr ⟨rfl, hne⟩, ht⟩, rfl⟩
    · rintro ⟨entry, ⟨hentry, ht⟩, rfl⟩
      rwa [(h.mem_filters_iff.mp hentry).1]
  rw [hset, Set.ncard_coe_finset, List.toFinset_card_of_nodup, List.length_map,
    List.countP_eq_length_filter]
  exact (List.filter_sublist.map _).nodup h.filters

lemma size_eq_ncard (h : table.WellFormed) :
    table.size = {t | table.subscribers t ≠ []}.ncard := by
  have hcount := countP_filters_eq_ncard h (p := (!·.isEmpty)) rfl
  have hall : ∀ entry ∈ table.filters, (!entry.2.isEmpty) = true := fun entry hentry => by
    simpa using h.nonempty entry hentry
  rw [List.countP_eq_length.mpr hall] at hcount
  simpa [size] using hcount

lemma countOf_eq_ncard (h : table.WellFormed) :
    table.countOf c = {t | grantedTo c (table.subscribers t) ≠ none}.ncard := by
  have hcount := countP_filters_eq_ncard h (p := fun ss => (grantedTo c ss).isSome) rfl
  simp only [Option.isSome_iff_ne_none] at hcount
  rw [← hcount, countOf]
  have hd := h.distinct
  obtain ⟨filters⟩ := table
  clear hcount h
  induction filters with
  | nil => rfl
  | cons entry rest ih =>
    rw [List.forall_mem_cons] at hd
    rw [List.foldr_cons, ih hd.2, List.countP_cons, ← countP_connection hd.1]
    exact Nat.add_comm ..

end Subscriptions

end Mqtt
