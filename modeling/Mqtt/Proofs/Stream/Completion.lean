import Mqtt.Proofs.Stream.Drain

/-!
# Completing a packet

After its fixed header a packet owes a known number of bytes. A stage with all of them never waits:
it goes on to the next stage, ends the packet with the last of them, or fails. With fewer it never
ends the packet. `Completes` and `Fails` name the two ends of a packet, and tell what the loop does
on its bytes whatever follows them.
-/

namespace Mqtt

namespace Stage

/-- The bytes that a packet still lacks, once its fixed header says how many. -/
def owed : Stage → Option Nat
  | .fixedHeader      => none
  | .variableHeader h => some h.remainingLength
  | .payload _ _ n    => some n

/-- What a step says where `n` bytes are owed: none is left over, and waiting is for them. -/
def Owing (bs : Bytes) (n : Nat) : Step → Prop
  | .insufficient       => bs.length < n
  | .advanced next used => used ≤ n ∧ next.owed = some (n - used)
  | .complete _ used    => used = n

lemma owing_decodeVariableHeader {fh : FixedHeader} {bs : Bytes} {s : Step}
    (h : decodeVariableHeader fh bs = .ok s) : Owing bs fh.remainingLength s := by
  simp only [decodeVariableHeader] at h
  split at h
  · split at h <;> rename_i hw
    · cases h
    · cases h
      rw [List.length_take] at hw
      change bs.length < fh.remainingLength
      omega
  · cases h
  · rename_i vh used hr
    have hused := (VariableHeader.progress_read fh _ _ _ hr).2
    rw [List.length_take] at hused
    have hle : used ≤ fh.remainingLength := by omega
    split at h
    · cases h
      exact ⟨hle, rfl⟩
    · split at h <;> rename_i hz
      · obtain ⟨packet, rfl⟩ := finish_eq_ok h
        change used = fh.remainingLength
        omega
      · cases h

lemma owing_step {stage : Stage} {bs : Bytes} {n : Nat} {s : Step} (ho : stage.owed = some n)
    (h : stage.step bs = .ok s) : Owing bs n s := by
  rw [step] at h
  cases stage with
  | fixedHeader => cases ho
  | variableHeader fh =>
    cases ho
    split at h <;> rename_i hn
    · cases h
      rw [needsMoreData, Bytes.shorterThan_iff] at hn
      change bs.length < fh.remainingLength
      omega
    · exact owing_decodeVariableHeader h
  | payload fh vh owed =>
    cases ho
    split at h <;> rename_i hn
    · cases h
      rwa [needsMoreData, Bytes.shorterThan_iff] at hn
    · simp only [decode, decodePayload] at h
      split at h
      · cases h
      · obtain ⟨packet, rfl⟩ := finish_eq_ok h
        rfl

/-- A packet that still lacks bytes is not delivered. -/
lemma deliveries_drain_of_owed {stage : Stage} {bs : Bytes} {n : Nat} (ho : stage.owed = some n)
    (hn : bs.length < n) : (stage.drain bs).deliveries = [] := by
  induction stage, bs using drain_induction generalizing n with
  | insufficient stage bs h => rw [drain_insufficient h]
  | error stage bs e h => rw [drain_error h]
  | advanced stage bs next used h ih =>
    have hs : used ≤ n ∧ next.owed = some (n - used) := owing_step ho h
    have ht : 0 < used ∧ used ≤ bs.length := taken_step h
    rw [drain_advanced h]
    exact ih hs.2 (by rw [List.length_drop]; omega)
  | complete stage bs packet used h ih =>
    have hs : used = n := owing_step ho h
    have ht : used ≤ bs.length ∧ (0 < used ∨ stage.rank = 1) := taken_step h
    omega

/-! ### The two ends of a packet -/

/-- Read from a stage, `bs` is what completes the packet `p`, to its last byte. -/
inductive Completes (p : Packet) : Stage → Bytes → Prop where
  | last {stage : Stage} {bs : Bytes} (h : stage.step bs = .ok (.complete p bs.length)) :
      Completes p stage bs
  | advance {stage next : Stage} {bs : Bytes} {used : Nat}
      (h : stage.step bs = .ok (.advanced next used)) (hn : Completes p next (bs.drop used)) :
      Completes p stage bs

/-- Read from a stage, `bs` ends with the error `e` before a packet is complete. -/
inductive Fails (e : DecodeError) : Stage → Bytes → Prop where
  | last {stage : Stage} {bs : Bytes} (h : stage.step bs = .error e) : Fails e stage bs
  | advance {stage next : Stage} {bs : Bytes} {used : Nat}
      (h : stage.step bs = .ok (.advanced next used)) (hn : Fails e next (bs.drop used)) :
      Fails e stage bs

/-- A packet is completed by as many bytes as it lacks. -/
lemma Completes.length_eq {p : Packet} {stage : Stage} {bs : Bytes} (h : Completes p stage bs)
    {n : Nat} (ho : stage.owed = some n) : bs.length = n := by
  induction h generalizing n with
  | last h => exact owing_step ho h
  | advance h hn ih =>
    rename_i stage next bs used
    have hs : used ≤ n ∧ next.owed = some (n - used) := owing_step ho h
    have ht : 0 < used ∧ used ≤ bs.length := taken_step h
    have hlength := ih hs.2
    rw [List.length_drop] at hlength
    omega

/-- What completes a packet does so whatever follows, and reading goes on with what follows. -/
theorem Completes.drain {p : Packet} {stage : Stage} {bs : Bytes} (h : Completes p stage bs)
    (rest : Bytes) :
    stage.drain (bs ++ rest) = (fixedHeader.drain rest).behind [⟨p, rest.length, []⟩] := by
  induction h with
  | last h =>
    have ha : step (_ ++ rest) _ = _ := (step_append rest (by simp [h])).trans h
    rw [drain_complete ha, List.drop_left]
  | advance h hn ih =>
    have ht := taken_step h
    have ha : step (_ ++ rest) _ = _ := (step_append rest (by simp [h])).trans h
    rw [drain_advanced ha, List.drop_append_of_le_length ht.2]
    exact ih

/-- What fails does so whatever follows. -/
theorem Fails.drain {e : DecodeError} {stage : Stage} {bs : Bytes} (h : Fails e stage bs)
    (rest : Bytes) : stage.drain (bs ++ rest) = ⟨.closed, [], some e⟩ := by
  induction h with
  | last h =>
    have ha : step (_ ++ rest) _ = _ := (step_append rest (by simp [h])).trans h
    exact drain_error ha
  | advance h hn ih =>
    have ht := taken_step h
    have ha : step (_ ++ rest) _ = _ := (step_append rest (by simp [h])).trans h
    rw [drain_advanced ha, List.drop_append_of_le_length ht.2]
    exact ih

/-- With all the bytes that a packet lacks, reading comes to one of the two ends. -/
theorem completes_or_fails {stage : Stage} {bs : Bytes} (ho : stage.owed = some bs.length) :
    (∃ p, Completes p stage bs) ∨ ∃ e, Fails e stage bs := by
  induction stage, bs using drain_induction with
  | insufficient stage bs h =>
    have hs : bs.length < bs.length := owing_step ho h
    omega
  | error stage bs e h => exact .inr ⟨e, .last h⟩
  | advanced stage bs next used h ih =>
    have hs : used ≤ bs.length ∧ next.owed = some (bs.length - used) := owing_step ho h
    rcases ih (by rw [hs.2, List.length_drop]) with ⟨p, hp⟩ | ⟨e, he⟩
    · exact .inl ⟨p, .advance h hp⟩
    · exact .inr ⟨e, .advance h he⟩
  | complete stage bs packet used h ih =>
    have hs : used = bs.length := owing_step ho h
    subst hs
    exact .inl ⟨packet, .last h⟩

end Stage

end Mqtt
