import Mathlib.Data.List.Forall2
import Mathlib.Tactic.ByContra
import Mqtt.Proofs.Stream.Chunking
import Mqtt.Proofs.Stream.Completion
import Mqtt.Proofs.Wire.RemainingLength

/-!
# Reading frame by frame

The framing rule alone cuts a byte string into frames: a first byte, a remaining length field, and
as many bytes as that says. The decoder, which reads stage by stage and looks at whatever is
buffered, does what a decoder of its own for each frame would do: `Decoder.receive_frameByFrame`.
-/

namespace Mqtt

/-- The bytes are a first byte, a field that says a length, and that many bytes. -/
def Frame (bs : Bytes) : Prop :=
  ∃ first field body, bs = first :: (field ++ body) ∧ RemainingLength.Field field body.length

/-- `bs` cut into frames and a tail that no frame starts. -/
structure Framing (bs : Bytes) (frames : List Bytes) (tail : Bytes) : Prop where
  cut : bs = frames.flatten ++ tail
  frames : ∀ f ∈ frames, Frame f
  tail : ∀ f, f <+: tail → ¬ Frame f

/-! ### Cutting -/

lemma Frame.length_pos {f : Bytes} (h : Frame f) : 0 < f.length := by
  obtain ⟨first, field, body, rfl, -⟩ := h
  simp

/-- No frame starts another one: the field says where it ends. -/
lemma Frame.eq_of_append {f g rest rest' : Bytes} (hf : Frame f) (hg : Frame g)
    (h : f ++ rest = g ++ rest') : f = g ∧ rest = rest' := by
  obtain ⟨first, field, body, rfl, hfield⟩ := hf
  obtain ⟨first', field', body', rfl, hfield'⟩ := hg
  rw [List.cons_append, List.cons_append, List.cons.injEq, List.append_assoc,
    List.append_assoc] at h
  obtain ⟨rfl, h⟩ := h
  have hr := RemainingLength.recognizes_read.read hfield (body ++ rest)
  rw [h, RemainingLength.recognizes_read.read hfield' (body' ++ rest')] at hr
  injection hr with hn hl
  obtain ⟨rfl, hbody⟩ := List.append_inj h hl.symm
  obtain ⟨rfl, rfl⟩ := List.append_inj hbody hn.symm
  exact ⟨rfl, rfl⟩

theorem exists_framing (bs : Bytes) : ∃ frames tail, Framing bs frames tail := by
  induction hn : bs.length using Nat.strongRecOn generalizing bs with
  | ind n ih =>
    by_cases h : ∃ f rest, bs = f ++ rest ∧ Frame f
    · obtain ⟨f, rest, rfl, hf⟩ := h
      have hpos := hf.length_pos
      rw [List.length_append] at hn
      obtain ⟨frames, tail, hcut, hframes, htail⟩ := ih rest.length (by omega) rest rfl
      refine ⟨f :: frames, tail, ?_, ?_, htail⟩
      · rw [List.flatten_cons, List.append_assoc, ← hcut]
      · simpa using ⟨hf, hframes⟩
    · refine ⟨[], bs, rfl, by simp, ?_⟩
      rintro f ⟨rest, rfl⟩ hf
      exact h ⟨f, rest, rfl, hf⟩

theorem Framing.unique {bs : Bytes} {frames frames' : List Bytes} {tail tail' : Bytes}
    (h : Framing bs frames tail) (h' : Framing bs frames' tail') :
    frames = frames' ∧ tail = tail' := by
  induction frames generalizing bs frames' with
  | nil =>
    cases frames' with
    | nil => exact ⟨rfl, h.cut.symm.trans h'.cut⟩
    | cons g frames' =>
      have hcut := h.cut.symm.trans h'.cut
      rw [List.flatten_cons, List.append_assoc] at hcut
      exact absurd (h'.frames g (by simp)) (h.tail g ⟨_, hcut.symm⟩)
  | cons f frames ih =>
    have hf := h.frames f (by simp)
    cases frames' with
    | nil =>
      have hcut := h.cut.symm.trans h'.cut
      rw [List.flatten_cons, List.append_assoc] at hcut
      exact absurd hf (h'.tail f ⟨_, hcut⟩)
    | cons g frames' =>
      have hcut := h.cut.symm.trans h'.cut
      rw [List.flatten_cons, List.flatten_cons, List.append_assoc, List.append_assoc] at hcut
      obtain ⟨rfl, hrest⟩ := hf.eq_of_append (h'.frames g (by simp)) hcut
      obtain ⟨rfl, rfl⟩ := ih ⟨rfl, fun f hf => h.frames f (by simp [hf]), h.tail⟩
        ⟨hrest, fun f hf => h'.frames f (by simp [hf]), h'.tail⟩
      exact ⟨rfl, rfl⟩

/-! ### A frame on its own -/

namespace Stage

lemma step_fixedHeader {bs : Bytes} (h : 2 ≤ bs.length) :
    fixedHeader.step bs = decodeFixedHeader bs := by
  rw [step, needsMoreData, if_neg]
  · rfl
  · rw [Bytes.shorterThan_iff]
    omega

lemma step_of_ofFirstByte_eq_error {b : UInt8} {bs : Bytes} {e : DecodeError}
    (h : FixedHeader.ofFirstByte b = .error e) (hb : 1 ≤ bs.length) :
    fixedHeader.step (b :: bs) = .error e := by
  have hr : FixedHeader.read (b :: bs) = .malformed e := by
    have hb₁ : Reader.byte (b :: bs) = .done b 1 := rfl
    rw [FixedHeader.read, Reader.bind_of_done hb₁, h]
    rfl
  rw [step_fixedHeader (by simpa using hb), decodeFixedHeader, hr]

/-- The first step on a frame that the header `h` starts. -/
lemma step_frame {h : FixedHeader} {field : Bytes} (body : Bytes)
    (hreq : FixedHeader.hasRequiredQoS h.kind h.qos = true)
    (hfield : RemainingLength.Field field h.remainingLength) :
    fixedHeader.step (h.firstByte :: (field ++ body)) =
      if h.kind.hasVariableHeader then .ok (.advanced (.variableHeader h) (field.length + 1))
      else if h.remainingLength = 0 then finish h none none (field.length + 1)
      else .error .invalidPayloadBytes := by
  have hpos := hfield.2.length_pos
  have hr := FixedHeader.recognizes_read.read ⟨field, rfl, hreq, hfield⟩ body
  rw [List.cons_append, List.length_cons] at hr
  rw [step_fixedHeader (by simp; omega), decodeFixedHeader, hr]

/-- A first step that takes bytes finds a header and its field. -/
lemma exists_header_of_step {bs : Bytes} {s : Step} (hs : fixedHeader.step bs = .ok s)
    (hne : s ≠ .insufficient) : ∃ (h : FixedHeader) (field rest : Bytes),
      bs = h.firstByte :: (field ++ rest) ∧ FixedHeader.hasRequiredQoS h.kind h.qos = true ∧
        RemainingLength.Field field h.remainingLength := by
  rw [step] at hs
  split at hs
  · cases hs
    exact absurd rfl hne
  · rw [decode, decodeFixedHeader] at hs
    split at hs
    · cases hs
      exact absurd rfl hne
    · cases hs
    · rename_i h used hr
      obtain ⟨-, field, hfront, hreq, hfield⟩ := (FixedHeader.recognizes_read _ _ _).mp hr
      refine ⟨h, field, bs.drop used, ?_, hreq, hfield⟩
      rw [← List.cons_append, ← hfront, List.take_append_drop]

/-- A frame on its own is a packet or an error. -/
theorem completes_or_fails_of_frame {f : Bytes} (hf : Frame f) :
    (∃ p, Completes p .fixedHeader f) ∨ ∃ e, Fails e .fixedHeader f := by
  obtain ⟨first, field, body, rfl, hfield⟩ := hf
  cases hb : FixedHeader.ofFirstByte first with
  | error e =>
    have hpos := hfield.2.length_pos
    exact .inr ⟨e, .last (step_of_ofFirstByte_eq_error hb (by simp; omega))⟩
  | ok h₀ =>
    obtain ⟨rfl, hreq, -⟩ := FixedHeader.ofFirstByte_eq_ok_iff.mp hb
    have hs := step_frame (h := { h₀ with remainingLength := body.length }) body hreq hfield
    split at hs
    · have hd : (h₀.firstByte :: (field ++ body)).drop (field.length + 1) = body := by simp
      have ho : (variableHeader { h₀ with remainingLength := body.length }).owed
          = some body.length := rfl
      rcases completes_or_fails ho with ⟨p, hp⟩ | ⟨e, he⟩
      · exact .inl ⟨p, .advance hs (by rwa [hd])⟩
      · exact .inr ⟨e, .advance hs (by rwa [hd])⟩
    · split at hs <;> rename_i hz
      · change body.length = 0 at hz
        cases hp : Packet.ofParts { h₀ with remainingLength := body.length } none none with
        | error e =>
          rw [finish, hp] at hs
          exact .inr ⟨e, .last hs⟩
        | ok p =>
          rw [finish, hp] at hs
          refine .inl ⟨p, .last ?_⟩
          have hl : (h₀.firstByte :: (field ++ body)).length = field.length + 1 := by simp [hz]
          rw [hl]
          exact hs
      · exact .inr ⟨_, .last hs⟩

/-- Bytes that no frame starts deliver nothing. -/
lemma deliveries_drain_of_no_frame {bs : Bytes} (hno : ∀ f, f <+: bs → ¬ Frame f) :
    (fixedHeader.drain bs).deliveries = [] := by
  cases hs : fixedHeader.step bs with
  | error e => rw [drain_error hs]
  | ok s =>
    by_cases hne : s = .insufficient
    · subst hne
      rw [drain_insufficient hs]
    · obtain ⟨h, field, rest, rfl, hreq, hfield⟩ := exists_header_of_step hs hne
      have hlt : rest.length < h.remainingLength := by
        by_contra hge
        refine hno (h.firstByte :: (field ++ rest.take h.remainingLength)) ?_
          ⟨h.firstByte, field, rest.take h.remainingLength, rfl, ?_⟩
        · exact ⟨rest.drop h.remainingLength, by simp⟩
        · rwa [List.length_take_of_le (Nat.not_lt.mp hge)]
      have hstep := step_frame rest hreq hfield
      split at hstep
      · rw [drain_advanced hstep]
        exact deliveries_drain_of_owed rfl (by simpa using hlt)
      · rw [if_neg (by omega)] at hstep
        rw [drain_error hstep]

end Stage

/-! ### The stream -/

namespace Decoder

/-- A decoder of its own makes the packet `p` of the bytes and is as new after it. -/
def Accepts (p : Packet) (bs : Bytes) : Prop :=
  new.receive bs = ⟨new, [⟨p, 0, []⟩], none⟩

/-- A decoder of its own meets the error `e` in the bytes and delivers nothing. -/
def Rejects (e : DecodeError) (bs : Bytes) : Prop :=
  new.receive bs = ⟨.closed, [], some e⟩

lemma accepts_of_completes {p : Packet} {f : Bytes} (h : Stage.Completes p .fixedHeader f) :
    Accepts p f := by
  have hd := h.drain []
  rw [List.append_nil, Stage.drain_nil] at hd
  exact hd

lemma rejects_of_fails {e : DecodeError} {f : Bytes} (h : Stage.Fails e .fixedHeader f) :
    Rejects e f := by
  have hd := h.drain []
  rwa [List.append_nil] at hd

lemma completes_of_accepts {p : Packet} {f : Bytes} (hf : Frame f) (h : Accepts p f) :
    Stage.Completes p .fixedHeader f := by
  rcases Stage.completes_or_fails_of_frame hf with ⟨q, hq⟩ | ⟨e, he⟩
  · have hq' := (accepts_of_completes hq).symm.trans h
    injection hq' with _ hd
    injection hd with hd
    injection hd with hp
    rwa [← hp]
  · have he' := (rejects_of_fails he).symm.trans h
    cases he'

lemma fails_of_rejects {e : DecodeError} {f : Bytes} (hf : Frame f) (h : Rejects e f) :
    Stage.Fails e .fixedHeader f := by
  rcases Stage.completes_or_fails_of_frame hf with ⟨q, hq⟩ | ⟨e', he⟩
  · have hq' := (accepts_of_completes hq).symm.trans h
    cases hq'
  · have he' := (rejects_of_fails he).symm.trans h
    injection he' with _ _ he'
    injection he' with he'
    rwa [← he']

lemma forall₂_completes {packets : List Packet} {frames : List Bytes}
    (hf : ∀ f ∈ frames, Frame f) (h : List.Forall₂ Accepts packets frames) :
    List.Forall₂ (Stage.Completes · .fixedHeader ·) packets frames := by
  induction h with
  | nil => exact .nil
  | cons hp hps ih =>
    exact .cons (completes_of_accepts (hf _ (by simp)) hp) (ih fun f hm => hf f (by simp [hm]))

/-- Frames that are packets deliver these in order, with what follows each of them buffered. -/
lemma drain_frames {packets : List Packet} {frames : List Bytes}
    (h : List.Forall₂ (Stage.Completes · .fixedHeader ·) packets frames) (rest : Bytes) :
    ∃ ds : List Delivery, Stage.fixedHeader.drain (frames.flatten ++ rest)
        = (Stage.fixedHeader.drain rest).behind ds ∧
      ds.map (·.packet) = packets ∧
      ∀ i d, ds[i]? = some d →
        d.buffered + (frames.take (i + 1)).flatten.length = (frames.flatten ++ rest).length := by
  induction h with
  | nil => exact ⟨[], rfl, rfl, by simp⟩
  | cons hp hps ih =>
    rename_i p f packets frames
    obtain ⟨ds, hdrain, hpackets, hbuffered⟩ := ih
    refine ⟨⟨p, (frames.flatten ++ rest).length, []⟩ :: ds, ?_, by rw [List.map_cons, hpackets], ?_⟩
    · rw [List.flatten_cons, List.append_assoc, hp.drain, hdrain, Received.behind_behind]
      rfl
    · intro i d hd
      cases i with
      | zero =>
        simp only [List.getElem?_cons_zero, Option.some.injEq] at hd
        subst hd
        simp
        omega
      | succ i =>
        rw [List.getElem?_cons_succ] at hd
        have := hbuffered i d hd
        rw [List.take_succ_cons, List.flatten_cons, List.flatten_cons]
        simp only [List.length_append] at this ⊢
        omega

/-- Frames are cut into those that are packets up to the first one that is none, and the rest,
which delivers nothing. -/
lemma exists_accepted {frames : List Bytes} {tail : Bytes} (hf : ∀ f ∈ frames, Frame f)
    (htail : ∀ f, f <+: tail → ¬ Frame f) :
    ∃ before after packets, frames = before ++ after ∧
      List.Forall₂ (Stage.Completes · .fixedHeader ·) packets before ∧
      (Stage.fixedHeader.drain (after.flatten ++ tail)).deliveries = [] := by
  induction frames with
  | nil => exact ⟨[], [], [], rfl, .nil, Stage.deliveries_drain_of_no_frame htail⟩
  | cons f frames ih =>
    rcases Stage.completes_or_fails_of_frame (hf f (by simp)) with ⟨p, hp⟩ | ⟨e, he⟩
    · obtain ⟨before, after, packets, rfl, hb, ha⟩ := ih fun g hg => hf g (by simp [hg])
      exact ⟨f :: before, after, p :: packets, rfl, .cons hp hb, ha⟩
    · refine ⟨[], f :: frames, [], rfl, .nil, ?_⟩
      rw [List.flatten_cons, List.append_assoc, he.drain]

/-- Frames that are packets deliver these, and the tail is read as on its own. -/
lemma receive_of_accepts {packets : List Packet} {frames : List Bytes}
    (hframes : ∀ f ∈ frames, Frame f) (hp : List.Forall₂ Accepts packets frames) (tail : Bytes) :
    ∃ ds : List Delivery, ds.map (·.packet) = packets ∧
      new.receive (frames.flatten ++ tail) = (new.receive tail).behind ds := by
  obtain ⟨ds, hdrain, hpackets, -⟩ := drain_frames (forall₂_completes hframes hp) tail
  exact ⟨ds, hpackets, hdrain⟩

lemma receive_of_rejects {packets : List Packet} {before after : List Bytes} {f : Bytes}
    {e : DecodeError} (hframes : ∀ g ∈ before ++ f :: after, Frame g)
    (hp : List.Forall₂ Accepts packets before) (he : Rejects e f) (tail : Bytes) :
    (new.receive ((before ++ f :: after).flatten ++ tail)).packets = packets ∧
      (new.receive ((before ++ f :: after).flatten ++ tail)).error = some e := by
  have hfail := fails_of_rejects (hframes f (by simp)) he
  obtain ⟨ds, rfl, hreceive⟩ := receive_of_accepts (fun g hg => hframes g (by simp [hg])) hp
    (f ++ (after.flatten ++ tail))
  have hcut : (before ++ f :: after).flatten ++ tail
      = before.flatten ++ (f ++ (after.flatten ++ tail)) := by simp
  rw [hcut, hreceive, receive_new, hfail.drain]
  exact ⟨by simp [Received.packets], rfl⟩

/-- A frame whose first bytes meet an error meets nothing else. -/
lemma rejects_of_error {tail more : Bytes} {e : DecodeError} (hframe : Frame (tail ++ more))
    (he : (new.receive tail).error = some e) : Rejects e (tail ++ more) := by
  have herror := (receive_append new tail more).error
  rw [he, Option.some_or] at herror
  rcases Stage.completes_or_fails_of_frame hframe with ⟨p, hp⟩ | ⟨e', he'⟩
  · rw [accepts_of_completes hp] at herror
    cases herror
  · have hreject := rejects_of_fails he'
    rw [hreject] at herror
    cases herror
    exact hreject

lemma buffered_deliveries_receive {frames : List Bytes} {tail : Bytes}
    (hframes : ∀ f ∈ frames, Frame f) (htail : ∀ f, f <+: tail → ¬ Frame f) {i : Nat} {d : Delivery}
    (hd : (new.receive (frames.flatten ++ tail)).deliveries[i]? = some d) :
    d.buffered + (frames.take (i + 1)).flatten.length = (frames.flatten ++ tail).length := by
  obtain ⟨before, after, packets, rfl, hb, ha⟩ := exists_accepted hframes htail
  obtain ⟨ds, hdrain, rfl, hbuffered⟩ := drain_frames hb (after.flatten ++ tail)
  have hcut : (before ++ after).flatten ++ tail = before.flatten ++ (after.flatten ++ tail) := by
    simp
  rw [receive_new, hcut, hdrain, Received.deliveries_behind, ha, List.append_nil] at hd
  have hi : i < before.length := by
    have hlt := (List.getElem?_eq_some_iff.mp hd).1
    rwa [← List.length_map (·.packet), hb.length_eq] at hlt
  rw [hcut, List.take_append_of_le_length hi]
  exact hbuffered i d hd

/-- Handing over `bs`, cut into `frames` and `tail`, does what handing over each frame to a decoder
of its own does, up to the first one rejected. -/
structure FrameByFrame (bs : Bytes) (frames : List Bytes) (tail : Bytes) : Prop where
  /-- On its own a frame is one packet or an error. -/
  alone : ∀ f ∈ frames, (∃ p, Accepts p f) ∨ ∃ e, Rejects e f
  /-- If all frames are packets these are delivered, and the tail is read as on its own, where it
  delivers nothing. -/
  accepted : ∀ packets, List.Forall₂ Accepts packets frames →
    (new.receive bs).packets = packets ∧
      (new.receive bs).error = (new.receive tail).error ∧
      (new.receive bs).decoder = (new.receive tail).decoder ∧
      (new.receive tail).packets = []
  /-- Otherwise the packets before the first frame that is none are delivered, and its error is
  met. -/
  rejected : ∀ before f after packets e, frames = before ++ f :: after →
    List.Forall₂ Accepts packets before → Rejects e f →
      (new.receive bs).packets = packets ∧ (new.receive bs).error = some e
  /-- An error in the tail is the error of every frame that the tail may become. -/
  early : ∀ packets e, List.Forall₂ Accepts packets frames → (new.receive bs).error = some e →
    ∀ more, Frame (tail ++ more) → Rejects e (tail ++ more)
  /-- When a packet is delivered, what follows its frame is buffered. -/
  buffered : ∀ i d, (new.receive bs).deliveries[i]? = some d →
    d.buffered + (frames.take (i + 1)).flatten.length = bs.length

/-- Every byte string is cut into frames in exactly one way, and is read frame by frame. -/
theorem receive_frameByFrame (bs : Bytes) :
    (∃! cut : List Bytes × Bytes, Framing bs cut.1 cut.2) ∧
      ∀ frames tail, Framing bs frames tail → FrameByFrame bs frames tail := by
  constructor
  · obtain ⟨frames, tail, h⟩ := exists_framing bs
    refine ⟨(frames, tail), h, ?_⟩
    rintro ⟨frames', tail'⟩ h'
    obtain ⟨rfl, rfl⟩ := h.unique h'
    rfl
  · rintro frames tail ⟨rfl, hframes, htail⟩
    refine ⟨?_, ?_, ?_, ?_, ?_⟩
    · intro f hf
      rcases Stage.completes_or_fails_of_frame (hframes f hf) with ⟨p, hp⟩ | ⟨e, he⟩
      · exact .inl ⟨p, accepts_of_completes hp⟩
      · exact .inr ⟨e, rejects_of_fails he⟩
    · intro packets hp
      obtain ⟨ds, rfl, hreceive⟩ := receive_of_accepts hframes hp tail
      have htail₀ : (new.receive tail).packets = [] := by
        rw [Received.packets, receive_new, Stage.deliveries_drain_of_no_frame htail, List.map_nil]
      rw [hreceive, Received.packets_behind, htail₀, List.append_nil]
      exact ⟨rfl, rfl, rfl, rfl⟩
    · rintro before f after packets e rfl hp he
      exact receive_of_rejects hframes hp he tail
    · intro packets e hp he more hframe
      obtain ⟨ds, -, hreceive⟩ := receive_of_accepts hframes hp tail
      rw [hreceive, Received.error_behind] at he
      exact rejects_of_error hframe he
    · intro i d hd
      exact buffered_deliveries_receive hframes htail hd

end Decoder

end Mqtt
