import Mqtt.Packet.Encoding
import Mqtt.Proofs.Packet.Headers

/-!
# Forms of packet bodies

What the bytes behind a fixed header are read as. The variable header recognizes, and the payload
accepts, what the writer of a body puts out for it, so that bytes are read as a body exactly if
they are its wire form and the packet is one that the fixed header announces
(`Packet.parses_iff`).
-/

namespace Mqtt

/-! ### Variable headers -/

/-- Whether the variable header of this kind is a packet identifier and nothing else. -/
def PacketKind.hasIdHeader : PacketKind → Bool
  | .connect | .connAck | .publish | .pingReq | .pingResp | .disconnect => false
  | _                                                                   => true

namespace VariableHeader

/-- The variable header is one that the fixed header `h` announces. -/
def Fits (h : FixedHeader) : VariableHeader → Prop
  | .connect header => h.kind = .connect ∧ header.Sound
  | .connAck header => h.kind = .connAck ∧ ConnectCode.ofByte header.code.toByte = header.code
  | .publish header => h.kind = .publish ∧ header.packetId.isSome = h.qos.isAcknowledged
  | .packetId _     => h.kind.hasIdHeader = true

lemma Fits.hasVariableHeader {h : FixedHeader} {vh : VariableHeader} (hv : vh.Fits h) :
    h.kind.hasVariableHeader = true := by
  cases vh with
  | connect header => rw [hv.1]; rfl
  | connAck header => rw [hv.1]; rfl
  | publish header => rw [hv.1]; rfl
  | packetId id =>
    rw [Fits] at hv
    cases hk : h.kind <;> rw [hk] at hv <;> first | rfl | cases hv

/-- A reader that wraps its value recognizes the variable headers that are such values. -/
lemma recognizes_wrap {α : Type} {r : Reader α} {c : α → Prop} {output : α → Output}
    (hr : r.Recognizes fun a front => c a ∧ output a = .of front) {wrap : α → VariableHeader}
    (hwrite : ∀ a, (wrap a).write = output a) {h : FixedHeader}
    (hfits : ∀ vh : VariableHeader, vh.Fits h ↔ ∃ a, wrap a = vh ∧ c a) :
    (r >>= fun a => (pure (wrap a) : Reader VariableHeader)).Recognizes
      fun vh front => vh.Fits h ∧ vh.write = .of front := by
  refine (hr.bind fun a => Reader.recognizes_pure (wrap a)).congr fun vh front => ?_
  rw [hfits]
  constructor
  · rintro ⟨a, x, y, rfl, ⟨ha, hx⟩, rfl, rfl⟩
    rw [hwrite, List.append_nil]
    exact ⟨⟨a, rfl, ha⟩, hx⟩
  · rintro ⟨⟨a, rfl, ha⟩, hw⟩
    rw [hwrite] at hw
    exact ⟨a, front, [], by simp, ⟨ha, hw⟩, rfl, rfl⟩

lemma recognizes_read (h : FixedHeader) :
    (read h).Recognizes fun vh front => vh.Fits h ∧ vh.write = .of front := by
  have hword : Reader.word.Recognizes fun w front => True ∧ Output.word w = .of front :=
    Reader.recognizes_word.congr fun w front => (and_iff_right trivial).symm
  have hnone {e : DecodeError} (hk : h.kind.hasVariableHeader = false) :
      (Reader.fail e : Reader VariableHeader).Recognizes
        fun vh front => vh.Fits h ∧ vh.write = .of front := by
    refine Reader.recognizes_no_record fun vh hv => ?_
    rw [hv.hasVariableHeader] at hk
    cases hk
  rw [read]
  split <;> rename_i hk
  · refine recognizes_wrap ConnectHeader.recognizes_read (fun _ => rfl) fun vh => ?_
    cases vh <;> simp [Fits, hk, PacketKind.hasIdHeader]
  · refine recognizes_wrap ConnAckHeader.recognizes_read (fun _ => rfl) fun vh => ?_
    cases vh <;> simp [Fits, hk, PacketKind.hasIdHeader]
  · refine recognizes_wrap (PublishHeader.recognizes_read h.qos) (fun _ => rfl) fun vh => ?_
    cases vh <;> simp [Fits, hk, PacketKind.hasIdHeader]
  · exact hnone (by rw [hk]; rfl)
  · exact hnone (by rw [hk]; rfl)
  · exact hnone (by rw [hk]; rfl)
  · refine recognizes_wrap hword (fun _ => rfl) fun vh => ?_
    rename_i hc ha hp _ _
    have hid : h.kind.hasIdHeader = true := by
      cases hk : h.kind <;> first | rfl | contradiction
    cases vh <;> simp [Fits, hid, show h.kind ≠ .connect from hc,
      show h.kind ≠ .connAck from ha, show h.kind ≠ .publish from hp]

end VariableHeader

/-! ### Payloads -/

lemma map_eq_ok_iff {ε α β : Type} {x : Except ε α} {f : α → β} {b : β} :
    x.map f = .ok b ↔ ∃ a, x = .ok a ∧ f a = b := by
  cases x <;> simp [Except.map]

lemma ConnectPayload.read_eq_ok_iff {h : ConnectHeader} {bs : Bytes} {p : ConnectPayload} :
    read h bs = .ok p ↔ p.Fits h ∧ p.write = .of bs := by
  rw [read, Reader.whole_eq_ok_iff]
  exact (recognizes_reader h).whole_iff

lemma TopicSubscription.readList_eq_ok_iff {bs : Bytes} {ss : List TopicSubscription} :
    readList bs = .ok ss ↔ ss ≠ [] ∧ writeList ss = .of bs :=
  Reader.entries_eq_ok_iff recognizes_reader progress_reader

lemma SubAckCode.writeList_eq (codes : List SubAckCode) :
    writeList codes = Output.concat (fun c => .byte c.toByte) codes := by
  induction codes with
  | nil => rfl
  | cons c codes ih =>
    change _ = .byte c.toByte ++ Output.concat _ codes
    rw [← ih]
    rfl

lemma SubAckCode.readList_eq_ok_iff {bs : Bytes} {codes : List SubAckCode} :
    readList bs = .ok codes ↔ codes ≠ [] ∧ writeList codes = .of bs := by
  rw [writeList_eq]
  exact Reader.entries_eq_ok_iff recognizes_reader progress_reader

lemma TopicFilter.readList_eq_ok_iff {bs : Bytes} {filters : List String} :
    readList bs = .ok filters ↔ filters ≠ [] ∧ writeList filters = .of bs :=
  Reader.entries_eq_ok_iff Reader.recognizes_text Reader.progress_text

namespace Payload

/-- Write a payload. -/
def write : Payload → Output
  | .connect payload       => payload.write
  | .publish message       => .of message
  | .subscribe ss          => TopicSubscription.writeList ss
  | .subAck codes          => SubAckCode.writeList codes
  | .unsubscribe filters   => TopicFilter.writeList filters

/-- The payload is one that the headers `h` and `vh` announce, and no empty list. -/
def Fits (h : FixedHeader) (vh : VariableHeader) : Payload → Prop
  | .connect payload     => h.kind = .connect ∧ ∃ header, vh = .connect header ∧ payload.Fits header
  | .publish _           => h.kind = .publish
  | .subscribe ss        => h.kind = .subscribe ∧ ss ≠ []
  | .subAck codes        => h.kind = .subAck ∧ codes ≠ []
  | .unsubscribe filters => h.kind = .unsubscribe ∧ filters ≠ []

/-- A payload is read exactly from what it is written as. -/
lemma read_eq_ok_iff {h : FixedHeader} {vh : VariableHeader} {bs : Bytes} {p : Payload} :
    read h vh bs = .ok p ↔ p.Fits h vh ∧ p.write = .of bs := by
  rw [read.eq_def]
  split <;> rename_i hk
  · rw [map_eq_ok_iff]
    cases p <;> simp [Fits, write, hk, ConnectPayload.read_eq_ok_iff]
  · cases p <;> simp [Fits, write, hk, eq_comm]
  · rw [map_eq_ok_iff]
    cases p <;> simp [Fits, write, hk, TopicSubscription.readList_eq_ok_iff]
  · rw [map_eq_ok_iff]
    cases p <;> simp [Fits, write, hk, SubAckCode.readList_eq_ok_iff]
  · rw [map_eq_ok_iff]
    cases p <;> simp [Fits, write, hk, TopicFilter.readList_eq_ok_iff]
  · rename_i hpublish hsubscribe hsubAck hunsubscribe
    simp only [reduceCtorEq, false_iff, not_and]
    intro hfits
    cases p with
    | connect payload =>
      obtain ⟨hconnect, header, hvh, -⟩ := hfits
      exact (hk header hconnect hvh).elim
    | publish message => exact (hpublish hfits).elim
    | subscribe ss => exact (hsubscribe hfits.1).elim
    | subAck codes => exact (hsubAck hfits.1).elim
    | unsubscribe filters => exact (hunsubscribe hfits.1).elim

end Payload

/-! ### Bodies -/

namespace Body

/-- The variable header of a body, if it has one. -/
def variableHeader? : Body → Option VariableHeader
  | .connect h _                       => some (.connect h)
  | .connAck h                         => some (.connAck h)
  | .publish h _                       => some (.publish h)
  | .pubAck id | .pubRec id | .pubRel id | .pubComp id | .unsubAck id => some (.packetId id)
  | .subscribe id _ | .subAck id _ | .unsubscribe id _                => some (.packetId id)
  | .pingReq | .pingResp | .disconnect => none

/-- The payload of a body, if it has one. -/
def payload? : Body → Option Payload
  | .connect _ p       => some (.connect p)
  | .publish _ message => some (.publish message)
  | .subscribe _ ss    => some (.subscribe ss)
  | .subAck _ codes    => some (.subAck codes)
  | .unsubscribe _ fs  => some (.unsubscribe fs)
  | _                  => none

lemma ofParts?_eq_some_iff {k : PacketKind} {vh : Option VariableHeader} {p : Option Payload}
    {b : Body} :
    ofParts? k vh p = some b ↔ b.kind = k ∧ b.variableHeader? = vh ∧ b.payload? = p := by
  constructor
  · intro h
    cases k <;> simp only [ofParts?, ofIdOnly?, ofNothing?] at h <;> split at h <;> cases h <;>
      exact ⟨rfl, rfl, rfl⟩
  · rintro ⟨rfl, rfl, rfl⟩
    cases b <;> rfl

/-- Whether the outcome in a CONNACK goes by its own name, if it has one. -/
def HasProperCode : Body → Prop
  | .connAck h => ∀ b, h.code = .other b → 5 < b.toNat
  | _          => True

lemma write_connect_eq_of_iff {h : ConnectHeader} {p : ConnectPayload} {bs : Bytes} :
    (connect h p).write = .of bs ↔ (h.Sound ∧ p.Fits h) ∧ h.write ++ p.write = .of bs := by
  rw [← ConnectHeader.check_eq_ok_iff, write]
  split <;> rename_i hc <;> simp [hc]

lemma writeEntries_eq_of_iff {α : Type} {kind : PacketKind} {id : UInt16} {entries : List α}
    {writeList : List α → Output} {bs : Bytes} :
    writeEntries kind id entries writeList = .of bs ↔
      entries ≠ [] ∧ .word id ++ writeList entries = .of bs := by
  rw [writeEntries]
  split <;> rename_i he <;> rw [List.isEmpty_iff] at he <;> simp [he]

end Body

/-- Behind the fixed header `h`, `bs` is read as the parts `vh` and `p`, to its last byte. -/
inductive Parses (h : FixedHeader) : Option VariableHeader → Option Payload → Bytes → Prop where
  | bare (hv : h.kind.hasVariableHeader = false) : Parses h none none []
  | header {vh : VariableHeader} {bs : Bytes} (hp : h.kind.hasPayload = false)
      (hr : VariableHeader.read h bs = .done vh bs.length) : Parses h (some vh) none bs
  | payload {vh : VariableHeader} {p : Payload} {bs : Bytes} {n : Nat}
      (hp : h.kind.hasPayload = true) (hr : VariableHeader.read h bs = .done vh n)
      (hpl : Payload.read h vh (bs.drop n) = .ok p) : Parses h (some vh) (some p) bs

namespace Parses

lemma isSome_eq {h : FixedHeader} {vh : Option VariableHeader} {pl : Option Payload} {bs : Bytes}
    (hp : Parses h vh pl bs) : vh.isSome = h.kind.hasVariableHeader := by
  cases hp with
  | bare hv => exact hv.symm
  | header hp hr =>
    obtain ⟨-, hfits, -⟩ := (VariableHeader.recognizes_read h _ _ _).mp hr
    exact hfits.hasVariableHeader.symm
  | payload hp hr hpl =>
    obtain ⟨-, hfits, -⟩ := (VariableHeader.recognizes_read h _ _ _).mp hr
    exact hfits.hasVariableHeader.symm

variable {h : FixedHeader} {vh : VariableHeader} {p : Payload} {bs : Bytes}

lemma bare_iff : Parses h none none bs ↔ h.kind.hasVariableHeader = false ∧ bs = [] := by
  constructor
  · rintro ⟨hv⟩
    exact ⟨hv, rfl⟩
  · rintro ⟨hv, rfl⟩
    exact .bare hv

lemma header_iff : Parses h (some vh) none bs ↔
    h.kind.hasPayload = false ∧ vh.Fits h ∧ vh.write = .of bs := by
  rw [← (VariableHeader.recognizes_read h).whole_iff]
  constructor
  · rintro ⟨⟩
    exact ⟨‹_›, ‹_›⟩
  · rintro ⟨hp, hr⟩
    exact .header hp hr

lemma payload_iff : Parses h (some vh) (some p) bs ↔
    h.kind.hasPayload = true ∧ vh.Fits h ∧ p.Fits h vh ∧ vh.write ++ p.write = .of bs := by
  rw [Output.append_eq_of_iff]
  constructor
  · intro hparses
    cases hparses with
    | payload hp hr hpl =>
      obtain ⟨hn, hfits, hw⟩ := (VariableHeader.recognizes_read h _ _ _).mp hr
      obtain ⟨hpfits, hpw⟩ := Payload.read_eq_ok_iff.mp hpl
      exact ⟨hp, hfits, hpfits, _, _, (List.take_append_drop _ bs).symm, hw, hpw⟩
  · rintro ⟨hp, hfits, hpfits, x, y, rfl, hx, hy⟩
    refine .payload hp ((VariableHeader.recognizes_read h).read ⟨hfits, hx⟩ y) ?_
    rw [List.drop_left]
    exact Payload.read_eq_ok_iff.mpr ⟨hpfits, hy⟩

end Parses

namespace Packet

lemma ofParts_eq_ok_iff {h : FixedHeader} {vh : Option VariableHeader} {pl : Option Payload}
    {p : Packet} : ofParts h vh pl = .ok p ↔ p.header = h ∧ p.body.kind = h.kind ∧
      p.body.variableHeader? = vh ∧ p.body.payload? = pl := by
  rw [← Body.ofParts?_eq_some_iff, ofParts]
  obtain ⟨header, body⟩ := p
  cases Body.ofParts? h.kind vh pl with
  | none => simp
  | some b => simp [eq_comm]

/-- The body of a packet is read from exactly what it is written as, if the packet is one that its
header announces. -/
theorem parses_iff {p : Packet} {bs : Bytes} (hk : p.body.kind = p.header.kind) :
    Parses p.header p.body.variableHeader? p.body.payload? bs ↔
      p.hasRightPacketId = true ∧ p.body.HasProperCode ∧ p.body.write = .of bs := by
  obtain ⟨⟨kind, dup, qos, retain, n⟩, b⟩ := p
  change b.kind = kind at hk
  subst hk
  cases b with
  | connect ch cp =>
    rw [Body.write_connect_eq_of_iff, Body.variableHeader?, Body.payload?, Parses.payload_iff]
    simp [Body.kind, PacketKind.hasPayload, VariableHeader.Fits, Payload.Fits, hasRightPacketId,
      Body.HasProperCode, VariableHeader.write, Payload.write, and_assoc]
  | connAck ah =>
    simp only [Body.variableHeader?, Body.payload?, Parses.header_iff]
    simp [Body.kind, PacketKind.hasPayload, VariableHeader.Fits, hasRightPacketId,
      Body.HasProperCode, VariableHeader.write, Body.write, ConnectCode.ofByte_toByte_iff]
  | publish ph message =>
    rw [Body.variableHeader?, Body.payload?, Parses.payload_iff]
    simp [Body.kind, PacketKind.hasPayload, VariableHeader.Fits, Payload.Fits, hasRightPacketId,
      Body.HasProperCode, VariableHeader.write, Payload.write, Body.write]
  | subscribe id es | subAck id es | unsubscribe id es =>
    rw [Body.write, Body.writeEntries_eq_of_iff, Body.variableHeader?, Body.payload?,
      Parses.payload_iff]
    simp [Body.kind, PacketKind.hasPayload, PacketKind.hasIdHeader, VariableHeader.Fits,
      Payload.Fits, hasRightPacketId, Body.HasProperCode, VariableHeader.write, Payload.write]
  | pubAck id | pubRec id | pubRel id | pubComp id | unsubAck id =>
    simp only [Body.variableHeader?, Body.payload?, Parses.header_iff]
    simp [Body.kind, PacketKind.hasPayload, PacketKind.hasIdHeader, VariableHeader.Fits,
      hasRightPacketId, Body.HasProperCode, VariableHeader.write, Body.write]
  | pingReq | pingResp | disconnect =>
    simp only [Body.variableHeader?, Body.payload?, Parses.bare_iff]
    simp [Body.kind, PacketKind.hasVariableHeader, hasRightPacketId, Body.HasProperCode,
      Body.write, eq_comm]

end Packet

end Mqtt
