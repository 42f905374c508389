import Mqtt.Packet.Parts
import Mqtt.Proofs.Wire.RemainingLength

/-!
# Forms of the variable headers

The reader of each variable header recognizes what its writer puts out, for the headers that the
reader insists on: a CONNECT header whose protocol is supported and whose flags do not contradict
each other, an outcome of CONNACK under its proper name, a PUBLISH header with a packet identifier
exactly where messages carry one.
-/

namespace Mqtt

/-! ### CONNECT -/

namespace ConnectHeader

/-- The protocol is supported, and the flags do not contradict each other. -/
structure Sound (h : ConnectHeader) : Prop where
  protocol : isSupportedProtocol h.protocolName h.protocolLevel = true
  will : hasConsistentWill h.hasWill h.willRetain h.willQoS = true
  password : h.hasPassword = true → h.hasUserName = true

lemma toNat_flags (h : ConnectHeader) :
    h.flags.toNat = h.hasUserName.toNat * 128 + h.hasPassword.toNat * 64 + h.willRetain.toNat * 32
      + h.willQoS.level * 8 + h.hasWill.toNat * 4 + h.cleanSession.toNat * 2 := by
  have hu := h.hasUserName.toNat_le
  have hp := h.hasPassword.toNat_le
  have hr := h.willRetain.toNat_le
  have hq := h.willQoS.level_le
  have hw := h.hasWill.toNat_le
  have hc := h.cleanSession.toNat_le
  rw [flags, UInt8.toNat_ofNat']
  omega

/-- There is no password without a user name. -/
lemma and_not_eq_false {password userName : Bool} (h : password = true → userName = true) :
    (password && !userName) = false := by
  cases password with
  | false => rfl
  | true => rw [h rfl]; rfl

lemma flags_of_ofFlags {name : String} {level flags : UInt8} {keepAlive : UInt16}
    {h : ConnectHeader} (hf : ofFlags name level flags keepAlive = .ok h) :
    h.flags = flags ∧ h.protocolName = name ∧ h.protocolLevel = level ∧ h.keepAlive = keepAlive ∧
      hasConsistentWill h.hasWill h.willRetain h.willQoS = true ∧
      (h.hasPassword = true → h.hasUserName = true) := by
  simp only [ofFlags] at hf
  split at hf <;> rename_i h0
  · cases hf
  split at hf
  · cases hf
  rename_i qos hq
  split at hf <;> rename_i hw
  · cases hf
  split at hf <;> rename_i hp
  · cases hf
  cases hf
  refine ⟨?_, rfl, rfl, rfl, by simpa using hw, by simpa using hp⟩
  have hbit := Nat.toNat_testBit flags.toNat 0
  rw [Bool.not_eq_true] at h0
  rw [h0] at hbit
  have hlt := flags.toNat_lt
  rw [← UInt8.toNat_inj, toNat_flags]
  simp only [QoS.level_of_ofLevel? hq, Nat.toNat_testBit]
  simp only [Bool.toNat_false, Nat.pow_zero, Nat.div_one] at hbit
  omega

lemma ofFlags_flags {h : ConnectHeader}
    (hw : hasConsistentWill h.hasWill h.willRetain h.willQoS = true)
    (hp : h.hasPassword = true → h.hasUserName = true) :
    ofFlags h.protocolName h.protocolLevel h.flags h.keepAlive = .ok h := by
  have hflags := toNat_flags h
  have hu := h.hasUserName.toNat_le
  have hpw := h.hasPassword.toNat_le
  have hr := h.willRetain.toNat_le
  have hq := h.willQoS.level_le
  have hwill := h.hasWill.toNat_le
  have hc := h.cleanSession.toNat_le
  have h0 : h.flags.toNat.testBit 0 = false := testBit_eq_of_toNat (by simp; omega)
  have h1 : h.flags.toNat.testBit 1 = h.cleanSession := testBit_eq_of_toNat (by omega)
  have h2 : h.flags.toNat.testBit 2 = h.hasWill := testBit_eq_of_toNat (by omega)
  have h34 : h.flags.toNat / 8 % 4 = h.willQoS.level := by omega
  have h5 : h.flags.toNat.testBit 5 = h.willRetain := testBit_eq_of_toNat (by omega)
  have h6 : h.flags.toNat.testBit 6 = h.hasPassword := testBit_eq_of_toNat (by omega)
  have h7 : h.flags.toNat.testBit 7 = h.hasUserName := testBit_eq_of_toNat (by omega)
  simp only [ofFlags, h0, h1, h2, h34, h5, h6, h7, QoS.ofLevel?_level, hw, and_not_eq_false hp,
    Bool.not_true, Bool.false_eq_true, if_false]

/-- Flags are read as the header that has them, unless they contradict each other. -/
lemma ofFlags_eq_ok_iff {name : String} {level flags : UInt8} {keepAlive : UInt16}
    {h : ConnectHeader} :
    ofFlags name level flags keepAlive = .ok h ↔
      h.flags = flags ∧ h.protocolName = name ∧ h.protocolLevel = level ∧ h.keepAlive = keepAlive ∧
        hasConsistentWill h.hasWill h.willRetain h.willQoS = true ∧
        (h.hasPassword = true → h.hasUserName = true) := by
  constructor
  · exact flags_of_ofFlags
  · rintro ⟨rfl, rfl, rfl, rfl, hw, hp⟩
    exact ofFlags_flags hw hp

lemma recognizes_read : read.Recognizes fun h front => h.Sound ∧ h.write = .of front := by
  simp only [write, Output.append_assoc]
  rw [read]
  refine Reader.recognizes_text.field fun name => ?_
  refine Reader.recognizes_byte.field fun level => ?_
  split <;> rename_i hprotocol
  · refine Reader.recognizes_byte.field fun flags => ?_
    refine Reader.recognizes_word.lastField fun keepAlive => ?_
    split <;> rename_i hf
    · refine Reader.recognizes_no_record ?_
      rintro h ⟨⟨⟨⟨hs, rfl⟩, rfl⟩, rfl⟩, rfl⟩
      rw [ofFlags_eq_ok_iff.mpr ⟨rfl, rfl, rfl, rfl, hs.will, hs.password⟩] at hf
      cases hf
    · refine Reader.recognizes_record fun h => ?_
      constructor
      · rintro ⟨⟨⟨⟨hs, rfl⟩, rfl⟩, rfl⟩, rfl⟩
        rw [ofFlags_eq_ok_iff.mpr ⟨rfl, rfl, rfl, rfl, hs.will, hs.password⟩] at hf
        cases hf
        rfl
      · rintro rfl
        obtain ⟨rfl, rfl, rfl, rfl, hw, hp⟩ := ofFlags_eq_ok_iff.mp hf
        exact ⟨⟨⟨⟨⟨hprotocol, hw, hp⟩, rfl⟩, rfl⟩, rfl⟩, rfl⟩
  · refine Reader.recognizes_no_record ?_
    rintro h ⟨⟨hs, rfl⟩, rfl⟩
    exact hprotocol hs.protocol

end ConnectHeader

namespace ConnectPayload

/-- The client identifier is acceptable, and the fields that `h` announces are there. -/
structure Fits (h : ConnectHeader) (p : ConnectPayload) : Prop where
  clientId : isAcceptableClientId h.protocolLevel p.clientId = true
  willTopic : p.willTopic.isSome = h.hasWill
  willMessage : p.willMessage.isSome = h.hasWill
  userName : p.userName.isSome = h.hasUserName
  password : p.password.isSome = h.hasPassword

lemma recognizes_readIf {α : Type} {r : Reader α} {write : α → Output}
    (hr : r.Recognizes fun a front => write a = .of front) (announced : Bool) :
    (readIf announced r).Recognizes fun o front =>
      o.isSome = announced ∧ writeIf write o = .of front := by
  cases announced with
  | false =>
    refine (Reader.recognizes_pure none).congr fun o front => ?_
    cases o <;> simp [writeIf, eq_comm]
  | true =>
    refine (hr.bind fun a => Reader.recognizes_pure (some a)).congr fun o front => ?_
    cases o with
    | none => simp
    | some b =>
      simp only [Option.isSome_some, true_and, writeIf, Option.some.injEq]
      constructor
      · rintro ⟨a, x, y, rfl, hx, rfl, rfl⟩
        rwa [List.append_nil]
      · intro h
        exact ⟨b, front, [], by simp, h, rfl, rfl⟩

lemma recognizes_reader (h : ConnectHeader) :
    (reader h).Recognizes fun p front => p.Fits h ∧ p.write = .of front := by
  simp only [write, Output.append_assoc]
  rw [reader]
  refine Reader.recognizes_text.field fun clientId => ?_
  split <;> rename_i hid
  · refine (recognizes_readIf Reader.recognizes_text _).fieldIf (fun p hp => hp.1.willTopic)
      fun willTopic hwt => ?_
    refine (recognizes_readIf Reader.recognizes_binary _).fieldIf (fun p hp => hp.1.1.willMessage)
      fun willMessage hwm => ?_
    refine (recognizes_readIf Reader.recognizes_text _).fieldIf (fun p hp => hp.1.1.1.userName)
      fun userName hu => ?_
    refine (recognizes_readIf Reader.recognizes_binary _).lastFieldIf
      (fun p hp => hp.1.1.1.1.password) fun password hp => ?_
    refine Reader.recognizes_record fun p => ?_
    constructor
    · rintro ⟨⟨⟨⟨⟨-, rfl⟩, rfl⟩, rfl⟩, rfl⟩, rfl⟩
      rfl
    · rintro rfl
      exact ⟨⟨⟨⟨⟨⟨hid, hwt, hwm, hu, hp⟩, rfl⟩, rfl⟩, rfl⟩, rfl⟩, rfl⟩
  · refine Reader.recognizes_no_record ?_
    rintro p ⟨hf, rfl⟩
    exact hid hf.clientId

end ConnectPayload

/-- The encoder's check is what the readers of header and payload insist on. -/
lemma ConnectHeader.check_eq_ok_iff {h : ConnectHeader} {p : ConnectPayload} :
    h.check p = .ok () ↔ h.Sound ∧ p.Fits h := by
  constructor
  · intro hc
    simp only [check, Bool.not_eq_true', bne_iff_ne, Bool.or_eq_true] at hc
    split at hc <;> rename_i hprotocol
    · cases hc
    split at hc <;> rename_i hid
    · cases hc
    split at hc <;> rename_i hu
    · cases hc
    split at hc <;> rename_i hp
    · cases hc
    split at hc <;> rename_i hpu
    · cases hc
    split at hc <;> rename_i hw
    · cases hc
    split at hc <;> rename_i hwill
    · cases hc
    rw [not_or, Decidable.not_not, Decidable.not_not] at hw
    rw [Bool.not_eq_false] at hprotocol hid hwill
    refine ⟨⟨hprotocol, hwill, ?_⟩, ⟨hid, hw.1.symm, hw.2.symm, ?_, ?_⟩⟩
    · simpa using hpu
    · exact (Decidable.not_not.mp hu).symm
    · exact (Decidable.not_not.mp hp).symm
  · rintro ⟨hs, hf⟩
    simp only [check, hs.protocol, hs.will, hf.clientId, hf.willTopic, hf.willMessage, hf.userName,
      hf.password, and_not_eq_false hs.password, Bool.not_true, bne_self_eq_false, Bool.or_self,
      Bool.false_eq_true, if_false]

/-! ### CONNACK -/

/-- The bytes that have names of their own are 0 to 5. -/
lemma ConnectCode.ofByte_toByte_iff {c : ConnectCode} :
    ofByte c.toByte = c ↔ ∀ b, c = .other b → 5 < b.toNat := by
  cases c with
  | other b =>
    simp only [toByte, other.injEq, forall_eq']
    rw [ofByte]
    split
    case h_7 h0 h1 h2 h3 h4 h5 =>
      have hne : b.toNat ≠ 0 ∧ b.toNat ≠ 1 ∧ b.toNat ≠ 2 ∧ b.toNat ≠ 3 ∧ b.toNat ≠ 4
          ∧ b.toNat ≠ 5 := ⟨h0, h1, h2, h3, h4, h5⟩
      simp only [true_iff]
      omega
    all_goals
      rename_i hb
      simp [hb]
  | accepted | unacceptableProtocolVersion | identifierRejected | serverUnavailable
  | badUserNameOrPassword | notAuthorized => simp [toByte, ofByte]

namespace ConnAckHeader

lemma read_eq : read = (do
    let flags ← Reader.byte
    let code ← Reader.byte
    if flags.toNat / 2 = 0 then pure ⟨flags.toNat.testBit 0, ConnectCode.ofByte code⟩
    else Reader.fail (.invalidVariableHeader .reservedAcknowledgeFlags)) := by
  funext bs
  match bs with
  | [] => rfl
  | [_] => rfl
  | flags :: code :: _ =>
    rw [read, Reader.bind_of_done (n := 1) rfl, Reader.bind_of_done (n := 1) rfl]
    split <;> rfl

lemma toNat_flag (b : Bool) : (UInt8.ofNat b.toNat).toNat = b.toNat := by
  cases b <;> rfl

lemma recognizes_read : read.Recognizes fun h front =>
    ConnectCode.ofByte h.code.toByte = h.code ∧ h.write = .of front := by
  rw [read_eq]
  refine Reader.recognizes_byte.field
    (g := fun h : ConnAckHeader => UInt8.ofNat h.sessionPresent.toNat) fun flags => ?_
  refine Reader.recognizes_byte.lastField
    (g := fun h : ConnAckHeader => h.code.toByte) fun code => ?_
  split <;> rename_i hflags
  · refine Reader.recognizes_record fun h => ?_
    constructor
    · rintro ⟨⟨hc, rfl⟩, rfl⟩
      rw [hc, toNat_flag, testBit_eq_of_toNat (b := h.sessionPresent)]
      rw [Nat.shiftRight_zero]
      exact Nat.mod_eq_of_lt (Nat.lt_succ_of_le h.sessionPresent.toNat_le)
    · intro h
      cases h
      refine ⟨⟨?_, ?_⟩, ConnectCode.toByte_ofByte code⟩
      · rw [ConnectCode.toByte_ofByte]
      · rw [← UInt8.toNat_inj, UInt8.toNat_ofNat', Nat.toNat_testBit]
        omega
  · refine Reader.recognizes_no_record ?_
    rintro h ⟨⟨-, rfl⟩, -⟩
    rw [toNat_flag] at hflags
    exact hflags (Nat.div_eq_of_lt (Nat.lt_succ_of_le h.sessionPresent.toNat_le))

end ConnAckHeader

/-! ### PUBLISH -/

namespace PublishHeader

lemma recognizes_readPacketId (qos : QoS) : (readPacketId qos).Recognizes fun o front =>
    o.isSome = qos.isAcknowledged ∧ writePacketId o = .of front := by
  refine (ConnectPayload.recognizes_readIf Reader.recognizes_word qos.isAcknowledged).congr
    fun o front => ?_
  cases o <;> rfl

lemma write_eq_of_iff {h : PublishHeader} {front : Bytes} : h.write = .of front ↔
    topicFault? h.topic = none ∧ .text h.topic ++ writePacketId h.packetId = .of front := by
  rw [write]
  split <;> rename_i hf <;> simp [hf]

lemma recognizes_read (qos : QoS) : (read qos).Recognizes fun h front =>
    h.packetId.isSome = qos.isAcknowledged ∧ h.write = .of front := by
  simp only [write_eq_of_iff, ← and_assoc]
  rw [read]
  refine Reader.recognizes_text.field fun topic => ?_
  split <;> rename_i hfault
  · refine Reader.recognizes_no_record ?_
    rintro h ⟨⟨-, hnone⟩, rfl⟩
    rw [hnone] at hfault
    cases hfault
  · refine (recognizes_readPacketId qos).lastFieldIf (fun h hp => hp.1.1) fun packetId hid => ?_
    refine Reader.recognizes_record fun h => ?_
    constructor
    · rintro ⟨⟨⟨-, -⟩, rfl⟩, rfl⟩
      rfl
    · rintro rfl
      exact ⟨⟨⟨hid, hfault⟩, rfl⟩, rfl⟩

end PublishHeader

/-! ### Entries of lists -/

lemma QoS.ofLevel?_eq_some_iff {b : UInt8} {qos : QoS} :
    ofLevel? b.toNat = some qos ↔ UInt8.ofNat qos.level = b := by
  constructor
  · intro h
    rw [level_of_ofLevel? h, UInt8.ofNat_toNat]
  · rintro rfl
    cases qos <;> rfl

lemma TopicSubscription.recognizes_reader :
    reader.Recognizes fun s front => s.write = .of front := by
  rw [reader]
  refine (Reader.recognizes_text.field (g := filter) (p := fun _ => True) fun filter => ?_).congr
    fun s front => and_iff_right trivial
  refine Reader.recognizes_byte.lastField
    (g := fun s : TopicSubscription => UInt8.ofNat s.qos.level) fun b => ?_
  split <;> rename_i hb
  · refine Reader.recognizes_no_record ?_
    rintro s ⟨-, hs⟩
    rw [QoS.ofLevel?_eq_some_iff.mpr hs] at hb
    cases hb
  · refine Reader.recognizes_record fun s => ?_
    constructor
    · rintro ⟨⟨-, rfl⟩, hs⟩
      rw [QoS.ofLevel?_eq_some_iff.mpr hs] at hb
      cases hb
      rfl
    · rintro rfl
      exact ⟨⟨trivial, rfl⟩, QoS.ofLevel?_eq_some_iff.mp hb⟩

lemma SubAckCode.ofByte?_eq_some_iff {b : UInt8} {c : SubAckCode} :
    ofByte? b = some c ↔ c.toByte = b := by
  rw [ofByte?]
  split <;> rename_i hb
  · subst hb
    cases c with
    | failure => simp [toByte]
    | granted qos => cases qos <;> simp [toByte, QoS.level]
  · cases c with
    | failure => simp [toByte, Ne.symm hb]
    | granted qos => simp [toByte, QoS.ofLevel?_eq_some_iff]

lemma SubAckCode.recognizes_reader :
    reader.Recognizes fun c front => Output.byte c.toByte = .of front := by
  rw [reader]
  refine (Reader.recognizes_byte.lastField (g := toByte) (p := fun _ => True) fun b => ?_).congr
    fun c front => and_iff_right trivial
  split <;> rename_i hb
  · refine Reader.recognizes_no_record ?_
    rintro c ⟨-, hc⟩
    rw [ofByte?_eq_some_iff.mpr hc] at hb
    cases hb
  · refine Reader.recognizes_record fun c => ?_
    rw [true_and, ← ofByte?_eq_some_iff, hb, Option.some.injEq, eq_comm]

end Mqtt
