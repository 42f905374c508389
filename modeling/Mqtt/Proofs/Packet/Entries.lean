import Mqtt.Proofs.Packet.Bodies

/-!
# Lists of entries

A payload that lists entries is read as the one list that spells it, and if there is none, the first
entry that is not whole tells why. `ReadsEntries` says so without a reader, in terms of the writer and
of what may be wrong with an entry. It holds of every reader that recognizes what its writer puts out
and whose errors are told by the bytes (`Reader.readsEntries`), and so of the lists of SUBSCRIBE and
UNSUBSCRIBE.
-/

namespace Mqtt

/-! ### Lists -/

/-- What is wrong with a list: it has no entry, or behind some that are written whole comes one with
the defect `e`. -/
inductive FirstDefect {α : Type} (writeList : List α → Output)
    (Defect : Bytes → DecodeError → Prop) : Bytes → DecodeError → Prop where
  | empty : FirstDefect writeList Defect [] .invalidPayloadBytes
  | entry {before : List α} {front rest : Bytes} {e : DecodeError}
      (hfront : writeList before = .of front) (hrest : rest ≠ []) (hdefect : Defect rest e) :
      FirstDefect writeList Defect (front ++ rest) e

/-- What comes of reading a list from exactly its bytes. -/
structure ReadsEntries {α : Type} (readList : Bytes → Except DecodeError (List α))
    (writeList : List α → Output) (Defect : Bytes → DecodeError → Prop) : Prop where
  /-- A list is read if it has entries and the bytes are what they are written as. -/
  list : ∀ bs as, readList bs = .ok as ↔ as ≠ [] ∧ writeList as = .of bs
  /-- No two lists are written alike. -/
  unique : ∀ bs as as', writeList as = .of bs → writeList as' = .of bs → as = as'
  /-- The error is that of the first entry that is not whole. -/
  error : ∀ bs e, readList bs = .error e ↔ FirstDefect writeList Defect bs e

namespace Reader

variable {α : Type} {r : Reader α} {write : α → Output} {Defect : Bytes → DecodeError → Prop}

/-- A reader whose refusals are told by the bytes reads lists of entries. -/
lemma readsEntries (hr : r.Recognizes fun a front => write a = .of front) (hp : r.Progress)
    (hd : ∀ bs e, (r bs).refusal? = some e ↔ Defect bs e) :
    ReadsEntries (entries r) (Output.concat write) Defect where
  list bs as := entries_eq_ok_iff hr hp
  unique bs as as' h h' := by
    have hread {new : List α} (hnew : Output.concat write new = .of bs) :
        entriesAfter r [] 0 bs = .ok new :=
      (entriesAfter_eq_ok_iff hr hp).mpr ⟨new, rfl, hnew⟩
    exact Except.ok.inj ((hread h).symm.trans (hread h'))
  error bs e := by
    rw [entries]
    constructor
    · intro h
      split at h <;> rename_i hb
      · rw [List.isEmpty_iff] at hb
        cases h
        rw [hb]
        exact .empty
      · obtain ⟨before, front, rest, rfl, hbefore, hrest, hrefusal⟩ :=
          (entriesAfter_eq_error_iff hr hp).mp h
        exact .entry hbefore hrest ((hd rest e).mp hrefusal)
    · intro h
      cases h with
      | empty => rfl
      | @entry before front rest e hbefore hrest hdefect =>
        rw [if_neg (by simp [hrest])]
        exact (entriesAfter_eq_error_iff hr hp).mpr
          ⟨before, front, rest, rfl, hbefore, hrest, (hd rest e).mpr hdefect⟩

/-- Defects tell the refusals if every window either has one, and is refused for it, or is read. -/
lemma refusal?_eq_some_iff (hrefused : ∀ bs e, Defect bs e → (r bs).refusal? = some e)
    (htotal : ∀ bs, (∃ e, Defect bs e) ∨ ∃ a n, r bs = .done a n) (bs : Bytes) (e : DecodeError) :
    (r bs).refusal? = some e ↔ Defect bs e := by
  constructor
  · intro h
    rcases htotal bs with ⟨e', hdefect⟩ | ⟨a, n, hread⟩
    · rw [hrefused bs e' hdefect] at h
      cases h
      exact hdefect
    · rw [hread] at h
      cases h
  · exact hrefused bs e

end Reader

/-! ### Entries that are not whole

A text stands behind its length. The window may hold too little of it, or its bytes may be no text. -/

namespace Field

variable {bs content rest : Bytes}

/-- The window ends before the field at its front does. -/
def CutOff : Bytes → Prop
  | hi :: lo :: bs => bs.length < hi.toNat * 256 + lo.toNat
  | _              => True

/-- `Holds content rest bs`: the window `bs` starts with the length of `content`, the more significant
byte first, goes on with `content` itself, and then with `rest`. -/
def Holds (content rest bs : Bytes) : Prop :=
  ∃ hi lo : UInt8, bs = hi :: lo :: (content ++ rest) ∧ content.length = hi.toNat * 256 + lo.toNat

/-- The bytes are the UTF-8 form of a text without U+0000. -/
def IsText (content : Bytes) : Prop :=
  ∃ s, Text.utf8 s = content ∧ '\x00' ∉ s.toList

/-- What is wrong with the text at the front of a window. -/
inductive Defect : Bytes → DecodeError → Prop where
  | cutOff {bs : Bytes} (h : CutOff bs) : Defect bs .invalidPayloadBytes
  | notText {content rest bs : Bytes} (hbs : Holds content rest bs) (h : ¬ IsText content) :
      Defect bs .invalidUtf8String

lemma cutOff_or_holds (bs : Bytes) : CutOff bs ∨ ∃ content rest, Holds content rest bs := by
  match bs with
  | [] => exact .inl trivial
  | [_] => exact .inl trivial
  | hi :: lo :: bs =>
    by_cases h : bs.length < hi.toNat * 256 + lo.toNat
    · exact .inl h
    · have hlength := List.length_take_of_le (Nat.not_lt.mp h)
      refine .inr ⟨_, bs.drop (hi.toNat * 256 + lo.toNat), hi, lo, ?_, hlength⟩
      rw [List.take_append_drop]

lemma Holds.drop_eq (h : Holds content rest bs) : bs.drop (2 + content.length) = rest := by
  obtain ⟨hi, lo, rfl, -⟩ := h
  rw [Nat.add_comm, List.drop_succ_cons, List.drop_succ_cons, List.drop_left]

/-- The length of a field is read, and then as many bytes of what follows it. -/
lemma binary_cons {hi lo : UInt8} :
    Reader.binary (hi :: lo :: bs) = (Reader.take (hi.toNat * 256 + lo.toNat) bs).after 2 := by
  have hword : Reader.word (hi :: lo :: bs) =
      .done (UInt16.ofNat (hi.toNat * 256 + lo.toNat)) 2 := rfl
  have hhi := hi.toNat_lt
  have hlo := lo.toNat_lt
  rw [Reader.binary, Reader.bind_of_done hword, UInt16.toNat_ofNat', Nat.mod_eq_of_lt (by omega)]
  rfl

lemma binary_of_cutOff (h : CutOff bs) : Reader.binary bs = .short := by
  match bs with
  | [] => rfl
  | [_] => rfl
  | hi :: lo :: bs =>
    rw [binary_cons, Reader.take, if_pos (Bytes.shorterThan_iff.mpr h)]
    rfl

lemma binary_of_holds (h : Holds content rest bs) :
    Reader.binary bs = .done content (2 + content.length) := by
  obtain ⟨hi, lo, rfl, hlength⟩ := h
  have hread : Reader.take content.length (content ++ rest) = .done content content.length :=
    (Reader.recognizes_take _).read ⟨rfl, rfl⟩ rest
  rw [binary_cons, ← hlength, hread]
  rfl

lemma text_of_cutOff (h : CutOff bs) : Reader.text bs = .short :=
  Reader.bind_of_short (binary_of_cutOff h)

lemma text_of_isText (hbs : Holds content rest bs) (h : IsText content) :
    ∃ s, Reader.text bs = .done s (2 + content.length) := by
  obtain ⟨s, hs, hzero⟩ := h
  refine ⟨s, ?_⟩
  rw [Reader.text, Reader.bind_of_done (binary_of_holds hbs), Text.ofUtf8?_eq_some_iff.mpr hs.symm]
  have hcontains : content.contains 0 = false := by
    rw [← hs, List.contains_eq_mem, decide_eq_false_iff_not, Text.zero_mem_utf8_iff]
    exact hzero
  simp only [hcontains, Bool.false_eq_true, if_false]
  rfl

lemma text_of_not_isText (hbs : Holds content rest bs) (h : ¬ IsText content) :
    Reader.text bs = .malformed .invalidUtf8String := by
  rw [Reader.text, Reader.bind_of_done (binary_of_holds hbs)]
  cases hs : Text.ofUtf8? content with
  | none => rfl
  | some s =>
    rw [Text.ofUtf8?_eq_some_iff] at hs
    have hcontains : content.contains 0 = true := by
      rw [hs, List.contains_eq_mem, decide_eq_true_iff, Text.zero_mem_utf8_iff]
      exact Classical.byContradiction fun hzero => h ⟨s, hs.symm, hzero⟩
    simp only [hcontains, if_true]
    rfl

lemma refusal?_text (bs : Bytes) (e : DecodeError) :
    (Reader.text bs).refusal? = some e ↔ Defect bs e := by
  refine Reader.refusal?_eq_some_iff (fun bs e h => ?_) (fun bs => ?_) bs e
  · cases h with
    | cutOff h =>
      rw [text_of_cutOff h]
      rfl
    | notText hbs h =>
      rw [text_of_not_isText hbs h]
      rfl
  · rcases cutOff_or_holds bs with h | ⟨content, rest, hbs⟩
    · exact .inl ⟨_, .cutOff h⟩
    · by_cases h : IsText content
      · obtain ⟨s, hread⟩ := text_of_isText hbs h
        exact .inr ⟨s, _, hread⟩
      · exact .inl ⟨_, .notText hbs h⟩

end Field

lemma QoS.ofLevel?_eq_none_iff {n : Nat} : ofLevel? n = none ↔ 2 < n := by
  match n with
  | 0 | 1 | 2 => simp [ofLevel?]
  | n + 3 => simp [ofLevel?]

namespace TopicSubscription

variable {bs content rest : Bytes} {b : UInt8}

/-- What is wrong with the subscription at the front of a window: the filter, or the QoS behind it. -/
inductive Defect : Bytes → DecodeError → Prop where
  | filter {bs : Bytes} {e : DecodeError} (h : Field.Defect bs e) : Defect bs e
  | qosMissing {content bs : Bytes} (hbs : Field.Holds content [] bs) (h : Field.IsText content) :
      Defect bs .invalidPayloadBytes
  | qosTooHigh {content rest bs : Bytes} {qos : UInt8} (hbs : Field.Holds content (qos :: rest) bs)
      (h : Field.IsText content) (hqos : 2 < qos.toNat) : Defect bs .invalidQoSLevel

lemma reader_of_qosMissing (hbs : Field.Holds content [] bs) (h : Field.IsText content) :
    reader bs = .short := by
  obtain ⟨s, hread⟩ := Field.text_of_isText hbs h
  have hbyte : Reader.byte [] = .short := rfl
  rw [reader, Reader.bind_of_done hread, hbs.drop_eq, Reader.bind_of_short hbyte]
  rfl

/-- What the QoS is read as decides on the entry, once its filter is there. -/
lemma reader_of_isText (hbs : Field.Holds content (b :: rest) bs) (h : Field.IsText content) :
    (QoS.ofLevel? b.toNat = none → reader bs = .malformed .invalidQoSLevel) ∧
      ∀ qos, QoS.ofLevel? b.toNat = some qos → ∃ s n, reader bs = .done s n := by
  obtain ⟨s, hread⟩ := Field.text_of_isText hbs h
  have hbyte : Reader.byte (b :: rest) = .done b 1 := rfl
  rw [reader, Reader.bind_of_done hread, hbs.drop_eq, Reader.bind_of_done hbyte]
  constructor
  · intro hnone
    rw [hnone]
    rfl
  · intro qos hqos
    rw [hqos]
    exact ⟨_, _, rfl⟩

lemma refusal?_reader (bs : Bytes) (e : DecodeError) :
    (reader bs).refusal? = some e ↔ Defect bs e := by
  refine Reader.refusal?_eq_some_iff (fun bs e h => ?_) (fun bs => ?_) bs e
  · cases h with
    | filter h =>
      cases h with
      | cutOff h =>
        rw [reader, Reader.bind_of_short (Field.text_of_cutOff h)]
        rfl
      | notText hbs h =>
        rw [reader, Reader.bind_of_malformed (Field.text_of_not_isText hbs h)]
        rfl
    | qosMissing hbs h =>
      rw [reader_of_qosMissing hbs h]
      rfl
    | qosTooHigh hbs h hqos =>
      rw [(reader_of_isText hbs h).1 (QoS.ofLevel?_eq_none_iff.mpr hqos)]
      rfl
  · -- field by field, in the order in which they are read
    rcases Field.cutOff_or_holds bs with h | ⟨content, rest, hbs⟩
    · exact .inl ⟨_, .filter (.cutOff h)⟩
    · by_cases h : Field.IsText content
      · cases rest with
        | nil => exact .inl ⟨_, .qosMissing hbs h⟩
        | cons b rest =>
          cases hqos : QoS.ofLevel? b.toNat with
          | none => exact .inl ⟨_, .qosTooHigh hbs h (QoS.ofLevel?_eq_none_iff.mp hqos)⟩
          | some qos => exact .inr ((reader_of_isText hbs h).2 qos hqos)
      · exact .inl ⟨_, .filter (.notText hbs h)⟩

end TopicSubscription

/-! ### The lists of SUBSCRIBE and UNSUBSCRIBE -/

/-- The payload of a SUBSCRIBE, and likewise that of an UNSUBSCRIBE, is read as the one list of
entries that is written as it; where there is none, the error is that of the first entry which is
not whole. -/
theorem readsEntries_subscriptions_filters :
    ReadsEntries TopicSubscription.readList TopicSubscription.writeList TopicSubscription.Defect ∧
      ReadsEntries TopicFilter.readList TopicFilter.writeList Field.Defect :=
  ⟨Reader.readsEntries TopicSubscription.recognizes_reader TopicSubscription.progress_reader
      TopicSubscription.refusal?_reader,
    Reader.readsEntries Reader.recognizes_text Reader.progress_text Field.refusal?_text⟩

/-- The QoS of the first entry is too high, and the second entry is cut off: the first one tells. -/
example : TopicSubscription.readList [0x00, 0x01, 0x61, 0x03, 0x00, 0x05] =
    .error .invalidQoSLevel := rfl

end Mqtt
