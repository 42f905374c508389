import Mqtt.Proofs.Stream.Chunking

/-!
# Chunks that arrive during a delivery

While a packet is being delivered the receiver may hand further chunks to the same decoder. The pass
that is running queues them and reads them after everything that was there before, so that it comes
to the same as handing them over later, one by one (`Decoder.receiveWith_eq_receiveAll`).
-/

namespace Mqtt

/-- The two came to the same; what was seen during the deliveries may differ. -/
structure Received.Agrees (r s : Received) : Prop where
  packets : r.packets = s.packets
  error : r.error = s.error
  decoder : r.decoder = s.decoder

lemma Received.Agrees.behind {r s : Received} (h : r.Agrees s) {d e : Delivery}
    (hd : d.packet = e.packet) : (r.behind [d]).Agrees (s.behind [e]) where
  packets := by simp [hd, h.packets]
  error := h.error
  decoder := h.decoder

/-- The chunks that arrive during the first `n` deliveries, in order of arrival. -/
def arrivedDuring (n : Nat) (arrivals : List (List Bytes)) : List Bytes :=
  (arrivals.take n).flatten

lemma arrivedDuring_succ (n : Nat) (arrivals : List (List Bytes)) :
    arrivedDuring (n + 1) arrivals = arrivals.headD [] ++ arrivedDuring n arrivals.tail := by
  cases arrivals <;> simp [arrivedDuring]

namespace Pass

/-! ### The running pass -/

/-- A call made during a delivery delivers nothing and meets no error. -/
lemma arriveAll_snd (pass : Pass) (chunks : List Bytes) :
    (pass.arriveAll chunks).2 = chunks.map fun _ => ⟨[], none, pass.buffer.length⟩ := by
  induction chunks generalizing pass with
  | nil => rfl
  | cons chunk chunks ih =>
    rw [arriveAll, List.map_cons]
    exact congrArg _ (ih (pass.arrive chunk).1)

/-- The pass once a packet that took `used` bytes was delivered, while the chunks `now` arrived. -/
def afterDelivery (pass : Pass) (used : Nat) (now : List Bytes) : Pass :=
  ⟨.fixedHeader, pass.buffer.drop used, pass.pending ++ now⟩

/-- The delivery of a packet that took `used` bytes, while the chunks `now` arrived. -/
def delivery (pass : Pass) (packet : Packet) (used : Nat) (now : List Bytes) : Delivery :=
  ⟨packet, (pass.buffer.drop used).length,
    now.map fun _ => ⟨[], none, (pass.buffer.drop used).length⟩⟩

variable {pass : Pass} {arrivals : List (List Bytes)}

lemma run_delivered {packet : Packet} {used : Nat}
    (hs : pass.stage.step pass.buffer = .ok (.complete packet used)) :
    pass.run arrivals [] =
      ((pass.afterDelivery used (arrivals.headD [])).run arrivals.tail []).behind
        [pass.delivery packet used (arrivals.headD [])] := by
  rw [run_complete hs, arriveAll_fst, arriveAll_snd]
  exact run_append [_] _ _ []

/-- Induction along the steps of a pass. -/
@[elab_as_elim]
theorem run_induction {motive : Pass → List (List Bytes) → Prop}
    (error : ∀ pass arrivals e, pass.stage.step pass.buffer = .error e → motive pass arrivals)
    (settled : ∀ stage buffer arrivals, stage.step buffer = .ok .insufficient →
      motive ⟨stage, buffer, []⟩ arrivals)
    (resumed : ∀ stage buffer chunk pending arrivals, stage.step buffer = .ok .insufficient →
      motive ⟨stage, buffer ++ chunk, pending⟩ arrivals →
      motive ⟨stage, buffer, chunk :: pending⟩ arrivals)
    (advanced : ∀ pass arrivals next used,
      pass.stage.step pass.buffer = .ok (.advanced next used) →
      motive (pass.moveOn next used) arrivals → motive pass arrivals)
    (delivered : ∀ pass arrivals packet used,
      pass.stage.step pass.buffer = .ok (.complete packet used) →
      motive (pass.afterDelivery used (arrivals.headD [])) arrivals.tail → motive pass arrivals)
    (pass : Pass) (arrivals : List (List Bytes)) : motive pass arrivals := by
  refine run.induct (motive := fun pass arrivals _ => motive pass arrivals) ?_ ?_ ?_ ?_ ?_ ?_
    pass arrivals []
  · intro pass arrivals _ e hs
    exact error pass arrivals e hs
  · rintro ⟨stage, buffer, pending⟩ arrivals _ hs rfl
    exact settled stage buffer arrivals hs
  · rintro ⟨stage, buffer, pending⟩ arrivals _ hs chunk later rfl ih
    exact resumed stage buffer chunk later arrivals hs ih
  · intro pass arrivals _ next used hs ih
    exact advanced pass arrivals next used hs ih
  · intro pass _ packet used hs after ih
    refine delivered pass [] packet used hs ?_
    rw [afterDelivery, List.headD_nil, List.append_nil]
    exact ih
  · intro pass _ packet used hs after now later ih
    rw [arriveAll_fst] at ih
    exact delivered pass (now :: later) packet used hs ih

/-- A pass comes to what reading its buffer, then the chunks that are pending and then those that
arrive comes to. -/
theorem run_agrees_drain (pass : Pass) (arrivals : List (List Bytes)) :
    (pass.run arrivals []).Agrees (pass.stage.drain (pass.buffer ++ (pass.pending ++
      arrivedDuring (pass.run arrivals []).deliveries.length arrivals).flatten)) := by
  induction pass, arrivals using run_induction with
  | error pass arrivals e hs =>
    rw [run_error hs, Stage.drain_append_of_error hs]
    exact ⟨rfl, rfl, rfl⟩
  | settled stage buffer arrivals hs =>
    have hrun : Pass.run ⟨stage, buffer, []⟩ arrivals [] = ⟨.live stage buffer, [], none⟩ :=
      run_insufficient hs
    rw [hrun]
    change Received.Agrees _ (stage.drain (buffer ++ []))
    rw [List.append_nil, Stage.drain_insufficient hs]
    exact ⟨rfl, rfl, rfl⟩
  | resumed stage buffer chunk pending arrivals hs ih =>
    have hrun : Pass.run ⟨stage, buffer, chunk :: pending⟩ arrivals [] =
        Pass.run ⟨stage, buffer ++ chunk, pending⟩ arrivals [] := run_insufficient hs
    rw [hrun, List.cons_append, List.flatten_cons, ← List.append_assoc]
    exact ih
  | advanced pass arrivals next used hs ih =>
    rw [run_advanced hs, Stage.drain_append_of_advanced hs]
    exact ih
  | delivered pass arrivals packet used hs ih =>
    rw [run_delivered hs, Stage.drain_append_of_complete hs, Received.deliveries_behind,
      List.singleton_append, List.length_cons, arrivedDuring_succ, ← List.append_assoc]
    exact ih.behind rfl

/-- During each delivery the chunks that arrive are all taken, by calls that deliver nothing and
meet no error. -/
theorem nested_of_run (pass : Pass) (arrivals : List (List Bytes)) {i : Nat} {d : Delivery}
    (hd : (pass.run arrivals []).deliveries[i]? = some d) :
    d.nested.length = (arrivals.getD i []).length ∧
      ∀ call ∈ d.nested, call.error = none ∧ call.packets = [] := by
  induction pass, arrivals using run_induction generalizing i with
  | error pass arrivals e hs =>
    rw [run_error hs] at hd
    cases hd
  | settled stage buffer arrivals hs =>
    rw [run_insufficient hs] at hd
    cases hd
  | resumed stage buffer chunk pending arrivals hs ih =>
    rw [run_insufficient hs] at hd
    exact ih hd
  | advanced pass arrivals next used hs ih =>
    rw [run_advanced hs] at hd
    exact ih hd
  | delivered pass arrivals packet used hs ih =>
    rw [run_delivered hs, Received.deliveries_behind, List.singleton_append] at hd
    cases i with
    | zero =>
      cases hd
      refine ⟨by cases arrivals <;> simp [delivery], fun call hc => ?_⟩
      obtain ⟨_, _, rfl⟩ := List.mem_map.mp hc
      exact ⟨rfl, rfl⟩
    | succ i =>
      have hi := ih hd
      cases arrivals with
      | nil => exact hi
      | cons now later => exact hi

end Pass

/-! ### Later chunks -/

namespace Decoder

lemma receiveWith_agrees_receive (decoder : Decoder) (arrivals : List (List Bytes))
    (chunk : Bytes) :
    let received := decoder.receiveWith arrivals chunk
    received.Agrees (decoder.receive
      (chunk ++ (arrivedDuring received.deliveries.length arrivals).flatten)) := by
  intro received
  cases decoder with
  | closed => exact ⟨rfl, rfl, rfl⟩
  | live stage buffer =>
    rw [receive_live, ← List.append_assoc]
    exact Pass.run_agrees_drain ⟨stage, buffer ++ chunk, []⟩ arrivals

/-- Chunks that arrive during deliveries are taken without a packet and without an error, and are
read as if they had been handed over later, one by one and in the order in which they arrived; the
bytes are those of the first chunk and then those of the others, all of them and each of them
once. -/
theorem receiveWith_eq_receiveAll (decoder : Decoder) (arrivals : List (List Bytes))
    (chunk : Bytes) :
    let received := decoder.receiveWith arrivals chunk
    let arrived := arrivedDuring received.deliveries.length arrivals
    let calls := decoder.receiveAll (chunk :: arrived)
    (∀ (i : Nat) d, received.deliveries[i]? = some d →
        d.nested.length = (arrivals.getD i []).length ∧
          ∀ call ∈ d.nested, call.error = none ∧ call.packets = []) ∧
      received.packets = calls.flatMap (·.packets) ∧
      (∀ e, received.error = some e → FailsOnce e calls) ∧
      (received.error = none → ∀ call ∈ calls, call.error = none) ∧
      received.decoder = decoder.afterAll (chunk :: arrived) ∧
      received.Agrees (decoder.receive (chunk ++ arrived.flatten)) := by
  intro received arrived calls
  have hagrees : received.Agrees (decoder.receive (chunk ++ arrived.flatten)) :=
    decoder.receiveWith_agrees_receive arrivals chunk
  refine ⟨?_, ?_, ?_, ?_, ?_, hagrees⟩
  · intro i d hd
    cases decoder with
    | closed => cases hd
    | live stage buffer => exact Pass.nested_of_run _ arrivals hd
  · rw [hagrees.packets, packets_receiveAll_cons]
  · intro e he
    exact failsOnce_receiveAll_cons (hagrees.error.symm.trans he)
  · intro he
    have hflat : (decoder.receive (chunk :: arrived).flatten).error = none :=
      hagrees.error.symm.trans he
    exact error_receiveAll_eq_none hflat
  · rw [hagrees.decoder, decoder_receiveAll_cons]

end Decoder

end Mqtt
