import Mqtt.Proofs.Stream.Drain

/-!
# Independence of chunking

Handing over a byte string in one piece or in several makes no difference to the packets delivered,
to the error met and to the state the decoder is left in. Only the counts of buffered bytes at a
delivery differ, for the bytes of later chunks are not there yet.

`Decoder.receive_append` says so of two pieces, `Decoder.receiveAll_flatten` of any number.
-/

namespace Mqtt

/-- `whole` does what `first` and then `second` do. -/
structure Received.Splits (whole first second : Received) : Prop where
  packets : whole.packets = first.packets ++ second.packets
  error : whole.error = first.error.or second.error
  decoder : whole.decoder = second.decoder

/-- Reading a longer buffer is reading the shorter one and going on with the rest. -/
theorem Stage.drain_append (stage : Stage) (bs more : Bytes) :
    Received.Splits (stage.drain (bs ++ more)) (stage.drain bs)
      ((stage.drain bs).decoder.receive more) := by
  induction stage, bs using Stage.drain_induction with
  | insufficient stage bs h =>
    rw [drain_insufficient h]
    exact ⟨rfl, rfl, rfl⟩
  | error stage bs e h =>
    rw [drain_error h, drain_append_of_error h]
    exact ⟨rfl, rfl, rfl⟩
  | advanced stage bs next used h ih =>
    rw [drain_advanced h, drain_append_of_advanced h]
    exact ih
  | complete stage bs packet used h ih =>
    rw [drain_complete h, drain_append_of_complete h]
    refine ⟨?_, ih.error, ih.decoder⟩
    simp only [Received.packets_behind, Received.decoder_behind, List.map_cons, List.map_nil,
      ih.packets, List.append_assoc]

namespace Decoder

/-- A byte string handed over in two pieces does what it does in one. -/
theorem receive_append (decoder : Decoder) (bs more : Bytes) :
    Received.Splits (decoder.receive (bs ++ more)) (decoder.receive bs)
      ((decoder.receive bs).decoder.receive more) := by
  cases decoder with
  | closed => exact ⟨rfl, rfl, rfl⟩
  | live stage buffer =>
    rw [receive_live, ← List.append_assoc]
    exact Stage.drain_append stage (buffer ++ bs) more

/-! ### Settled decoders -/

/-- The decoder has read all it can from the bytes it keeps. -/
def Settled (decoder : Decoder) : Prop :=
  decoder.receive [] = ⟨decoder, [], none⟩

lemma settled_new : new.Settled :=
  Stage.drain_nil

/-! ### Errors close a decoder -/

lemma isClosed_drain (stage : Stage) (bs : Bytes) :
    (stage.drain bs).decoder.isClosed = (stage.drain bs).error.isSome := by
  induction stage, bs using Stage.drain_induction with
  | insufficient stage bs h => rw [Stage.drain_insufficient h]; rfl
  | error stage bs e h => rw [Stage.drain_error h]; rfl
  | advanced stage bs next used h ih =>
    rw [Stage.drain_advanced h]
    exact ih
  | complete stage bs packet used h ih =>
    rw [Stage.drain_complete h]
    exact ih

lemma eq_closed_of_isClosed {decoder : Decoder} (h : decoder.isClosed = true) :
    decoder = .closed := by
  cases decoder with
  | live stage buffer => cases h
  | closed => rfl

lemma closed_of_error {decoder : Decoder} {chunk : Bytes} {e : DecodeError}
    (he : (decoder.receive chunk).error = some e) : (decoder.receive chunk).decoder = .closed := by
  cases decoder with
  | closed => rfl
  | live stage buffer =>
    rw [receive_live] at he ⊢
    apply eq_closed_of_isClosed
    rw [isClosed_drain, he]
    rfl

/-! ### Any number of chunks -/

/-- Hand over chunks one by one: what each of the calls gives back. -/
def receiveAll (decoder : Decoder) : List Bytes → List Received
  | []              => []
  | chunk :: chunks =>
    decoder.receive chunk :: (decoder.receive chunk).decoder.receiveAll chunks

/-- The decoder after chunks were handed over one by one. -/
def afterAll (decoder : Decoder) : List Bytes → Decoder
  | []              => decoder
  | chunk :: chunks => (decoder.receive chunk).decoder.afterAll chunks

lemma receiveAll_closed (chunks : List Bytes) :
    ∀ call ∈ closed.receiveAll chunks, call = ⟨.closed, [], none⟩ := by
  induction chunks with
  | nil => simp [receiveAll]
  | cons chunk chunks ih =>
    intro call hc
    rcases List.mem_cons.mp hc with rfl | hc
    · rfl
    · exact ih call hc

lemma packets_receiveAll_cons (decoder : Decoder) (chunk : Bytes) (chunks : List Bytes) :
    (decoder.receiveAll (chunk :: chunks)).flatMap (·.packets)
      = (decoder.receive (chunk ++ chunks.flatten)).packets := by
  induction chunks generalizing decoder chunk with
  | nil => simp [receiveAll]
  | cons later chunks ih =>
    rw [List.flatten_cons, (receive_append decoder chunk (later ++ chunks.flatten)).packets,
      receiveAll, List.flatMap_cons, ih]

lemma packets_receiveAll {decoder : Decoder} (hd : decoder.Settled) (chunks : List Bytes) :
    (decoder.receiveAll chunks).flatMap (·.packets)
      = (decoder.receive chunks.flatten).packets := by
  cases chunks with
  | nil =>
    rw [List.flatten_nil, hd]
    rfl
  | cons chunk chunks => exact packets_receiveAll_cons decoder chunk chunks

lemma decoder_receiveAll_cons (decoder : Decoder) (chunk : Bytes) (chunks : List Bytes) :
    decoder.afterAll (chunk :: chunks)
      = (decoder.receive (chunk ++ chunks.flatten)).decoder := by
  induction chunks generalizing decoder chunk with
  | nil => simp [afterAll]
  | cons later chunks ih =>
    rw [List.flatten_cons, (receive_append decoder chunk (later ++ chunks.flatten)).decoder,
      afterAll, ih]

lemma decoder_receiveAll {decoder : Decoder} (hd : decoder.Settled) (chunks : List Bytes) :
    decoder.afterAll chunks = (decoder.receive chunks.flatten).decoder := by
  cases chunks with
  | nil =>
    rw [List.flatten_nil, hd]
    rfl
  | cons chunk chunks => exact decoder_receiveAll_cons decoder chunk chunks

/-- One of the calls fails, with `e`; those before it do not, and those after it do nothing. -/
def FailsOnce (e : DecodeError) (calls : List Received) : Prop :=
  ∃ before call after, calls = before ++ call :: after ∧
    (∀ earlier ∈ before, earlier.error = none) ∧ call.error = some e ∧
    ∀ later ∈ after, later.error = none ∧ later.packets = []

lemma FailsOnce.cons {e : DecodeError} {call : Received} {calls : List Received}
    (hc : call.error = none) (h : FailsOnce e calls) : FailsOnce e (call :: calls) := by
  obtain ⟨before, failing, after, rfl, hb, hf, ha⟩ := h
  refine ⟨call :: before, failing, after, rfl, ?_, hf, ha⟩
  simp only [List.forall_mem_cons]
  exact ⟨hc, hb⟩

lemma failsOnce_receiveAll_of_head {decoder : Decoder} {chunk : Bytes} {e : DecodeError}
    (hc : (decoder.receive chunk).error = some e) (chunks : List Bytes) :
    FailsOnce e (decoder.receiveAll (chunk :: chunks)) := by
  refine ⟨[], decoder.receive chunk, _, rfl, by simp, hc, fun later hl => ?_⟩
  rw [closed_of_error hc] at hl
  rw [receiveAll_closed chunks later hl]
  exact ⟨rfl, rfl⟩

lemma failsOnce_receiveAll_cons {decoder : Decoder} {chunk : Bytes} {chunks : List Bytes}
    {e : DecodeError} (he : (decoder.receive (chunk ++ chunks.flatten)).error = some e) :
    FailsOnce e (decoder.receiveAll (chunk :: chunks)) := by
  induction chunks generalizing decoder chunk with
  | nil =>
    rw [List.flatten_nil, List.append_nil] at he
    exact failsOnce_receiveAll_of_head he []
  | cons later chunks ih =>
    rw [List.flatten_cons, (receive_append decoder chunk (later ++ chunks.flatten)).error] at he
    cases hc : (decoder.receive chunk).error with
    | some e' =>
      rw [hc, Option.some_or] at he
      exact failsOnce_receiveAll_of_head (hc.trans he) (later :: chunks)
    | none =>
      rw [hc, Option.none_or] at he
      exact .cons hc (ih he)

lemma failsOnce_receiveAll {decoder : Decoder} (hd : decoder.Settled) {chunks : List Bytes}
    {e : DecodeError} (he : (decoder.receive chunks.flatten).error = some e) :
    FailsOnce e (decoder.receiveAll chunks) := by
  cases chunks with
  | nil =>
    rw [List.flatten_nil, hd] at he
    cases he
  | cons chunk chunks => exact failsOnce_receiveAll_cons he

lemma error_receiveAll_eq_none {decoder : Decoder} {chunks : List Bytes}
    (he : (decoder.receive chunks.flatten).error = none) :
    ∀ call ∈ decoder.receiveAll chunks, call.error = none := by
  induction chunks generalizing decoder with
  | nil => simp [receiveAll]
  | cons chunk chunks ih =>
    rw [List.flatten_cons, (receive_append decoder chunk chunks.flatten).error,
      Option.or_eq_none_iff] at he
    intro call hc
    rcases List.mem_cons.mp hc with rfl | hc
    · exact he.1
    · exact ih he.2 call hc

/-- However a byte string is cut into chunks, empty ones included, a fresh decoder delivers the
packets of the whole string in the same order, meets its error or none, and is left as the whole
string leaves it; after an error that is closed, with nothing buffered and at the first stage. -/
theorem receiveAll_flatten (chunks : List Bytes) :
    let calls := new.receiveAll chunks
    let last := new.afterAll chunks
    let once := new.receive chunks.flatten
    calls.flatMap (·.packets) = once.packets ∧
      (∀ e, once.error = some e → FailsOnce e calls) ∧
      (once.error = none → ∀ call ∈ calls, call.error = none) ∧
      last.isClosed = once.decoder.isClosed ∧
      last.buffered = once.decoder.buffered ∧
      last.stage = once.decoder.stage ∧
      (once.error ≠ none →
        last.isClosed = true ∧ last.buffered = 0 ∧ last.stage = .fixedHeader) := by
  intro calls last once
  have hlast : last = once.decoder := decoder_receiveAll settled_new chunks
  refine ⟨packets_receiveAll settled_new chunks, fun e => failsOnce_receiveAll settled_new,
    error_receiveAll_eq_none, by rw [hlast], by rw [hlast], by rw [hlast], fun he => ?_⟩
  obtain ⟨e, he⟩ := Option.ne_none_iff_exists'.mp he
  have hc : once.decoder = .closed := closed_of_error he
  rw [hlast, hc]
  exact ⟨rfl, rfl, rfl⟩

end Decoder

end Mqtt
