import Mathlib.Data.List.Induction
import Mqtt.Packet.Basic
import Mqtt.Proofs.Packet.Headers

/-!
# Putting packets together

Every way of making a packet works out for itself what the fixed header says, apart from the length
that the encoder counts. `Packet.Consistent` says that the two agree, and that the header is of the
right kind with the QoS it requires. A connection request may be edited any number of times before
it is sent; what it then asks for is told by its last will and its last login alone
(`ConnectRequest.built_eq`). `Packet.consistent_construction` puts this together.
-/

namespace Mqtt

/-! ### Connection requests -/

namespace ConnectRequest

/-- What is published for a client that is lost. -/
structure Will where
  topic : String
  message : Bytes
  qos : QoS
  retain : Bool

/-- What a client goes by. -/
structure Login where
  userName : String
  password : Option Bytes

/-- One change to a request. -/
inductive Edit where
  | will (w : Will)
  | login (l : Login)

/-- The request after a change. -/
def edit (request : ConnectRequest) : Edit → ConnectRequest
  | .will w  => request.withWill w.topic w.message w.qos w.retain
  | .login l => request.withCredentials l.userName l.password

/-- A new request after some changes, in their order. -/
def built (clientId : String) (keepAlive : UInt16) (edits : List Edit) : ConnectRequest :=
  edits.foldl edit (new clientId keepAlive)

/-- The will of a change to the will. -/
def Edit.will? : Edit → Option Will
  | .will w  => some w
  | .login _ => none

/-- The login of a change to the login. -/
def Edit.login? : Edit → Option Login
  | .will _  => none
  | .login l => some l

/-- The will that was set last. -/
def lastWill (edits : List Edit) : Option Will :=
  (edits.filterMap Edit.will?).getLast?

/-- The login that was set last. -/
def lastLogin (edits : List Edit) : Option Login :=
  (edits.filterMap Edit.login?).getLast?

/-- The request with a given will and a given login, or without. -/
def having (clientId : String) (keepAlive : UInt16) (w : Option Will) (l : Option Login) :
    ConnectRequest :=
  ofParts
    { ConnectHeader.new keepAlive with
      hasWill := w.isSome
      willQoS := w.elim .atMostOnce (·.qos)
      willRetain := w.elim false (·.retain)
      hasUserName := l.isSome
      hasPassword := (l.bind (·.password)).isSome }
    { clientId := clientId
      willTopic := w.map (·.topic)
      willMessage := w.map (·.message)
      userName := l.map (·.userName)
      password := l.bind (·.password) }

variable {clientId : String} {keepAlive : UInt16} {w : Option Will} {l : Option Login}

/-- A change leaves nothing of what it is a change of. -/
lemma edit_having (e : Edit) : (having clientId keepAlive w l).edit e =
    having clientId keepAlive (e.will?.or w) (e.login?.or l) := by
  cases e <;> rfl

lemma lastWill_concat (edits : List Edit) (e : Edit) :
    lastWill (edits ++ [e]) = e.will?.or (lastWill edits) := by
  cases e <;> simp [lastWill, Edit.will?]

lemma lastLogin_concat (edits : List Edit) (e : Edit) :
    lastLogin (edits ++ [e]) = e.login?.or (lastLogin edits) := by
  cases e <;> simp [lastLogin, Edit.login?]

lemma built_eq (edits : List Edit) : built clientId keepAlive edits =
    having clientId keepAlive (lastWill edits) (lastLogin edits) := by
  induction edits using List.reverseRecOn with
  | nil => rfl
  | append_singleton edits e ih =>
    have hlast : built clientId keepAlive (edits ++ [e]) =
        (built clientId keepAlive edits).edit e := List.foldl_append
    rw [hlast, ih, edit_having, lastWill_concat, lastLogin_concat]

/-- Flags and fields go together; only the client identifier may be refused. -/
lemma check_having : (having clientId keepAlive w l).header.check
    (having clientId keepAlive w l).payload =
      if clientId = "" then .error .invalidClientId else .ok () := by
  split <;> rename_i hclient
  · subst hclient
    rfl
  · refine ConnectHeader.check_eq_ok_iff.mpr ⟨⟨rfl, ?_, ?_⟩, ⟨?_, ?_, ?_, ?_, ?_⟩⟩
    · cases w <;> rfl
    · cases l with
      | none => exact id
      | some l => exact fun _ => rfl
    · exact decide_eq_true (Nat.pos_of_ne_zero fun hn =>
        hclient (String.utf8ByteSize_eq_zero_iff.mp hn))
    · cases w <;> rfl
    · cases w <;> rfl
    · cases l <;> rfl
    · rfl

end ConnectRequest

/-! ### Packets -/

namespace Packet

/-- One change to the flags of a PUBLISH. -/
inductive Flag where
  | retain (b : Bool)
  | dup (b : Bool)

/-- The packet after a change to its flags. -/
def mark (p : Packet) : Flag → Packet
  | .retain b => p.withRetain b
  | .dup b    => p.withDup b

/-- The ways of making a packet, with what they are given. -/
inductive Construction where
  | connect (clientId : String) (keepAlive : UInt16) (edits : List ConnectRequest.Edit)
  | connAck (sessionPresent : Bool) (code : ConnectCode)
  | publish (topic : String) (qos : QoS) (packetId : Option UInt16) (message : Bytes)
      (flags : List Flag)
  | pubAck (id : UInt16)
  | pubRec (id : UInt16)
  | pubRel (id : UInt16)
  | pubComp (id : UInt16)
  | subscribe (id : UInt16) (subscriptions : List TopicSubscription)
  | subAck (id : UInt16) (codes : List SubAckCode)
  | subAckGranted (id : UInt16) (levels : List QoS)
  | unsubscribe (id : UInt16) (filters : List String)
  | unsubAck (id : UInt16)
  | pingReq
  | pingResp
  | disconnect

/-- The packet that is made. -/
def Construction.packet : Construction → Packet
  | .connect clientId keepAlive edits => (ConnectRequest.built clientId keepAlive edits).packet
  | .connAck sessionPresent code => .connAck sessionPresent code
  | .publish topic qos packetId message flags =>
    flags.foldl mark (.publish topic qos packetId message)
  | .pubAck id => .pubAck id
  | .pubRec id => .pubRec id
  | .pubRel id => .pubRel id
  | .pubComp id => .pubComp id
  | .subscribe id subscriptions => .subscribe id subscriptions
  | .subAck id codes => .subAck id codes
  | .subAckGranted id levels => .subAckGranted id levels
  | .unsubscribe id filters => .unsubscribe id filters
  | .unsubAck id => .unsubAck id
  | .pingReq => .pingReq
  | .pingResp => .pingResp
  | .disconnect => .disconnect

/-- The fixed header goes with what follows it. -/
structure Consistent (p : Packet) : Prop where
  remainingLength : p.header.remainingLength = p.body.length
  kind : p.header.kind = p.body.kind
  qos : p.header.kind.requiresQoSOne = true → p.header.qos = .atLeastOnce

variable {p : Packet}

lemma consistent_of_header (h : p.header = FixedHeader.new p.body.kind p.body.length) :
    p.Consistent where
  remainingLength := by rw [h]; rfl
  kind := by rw [h]; rfl
  qos hk := by
    rw [h] at hk ⊢
    exact if_pos hk

lemma consistent_publish (topic : String) (qos : QoS) (packetId : Option UInt16)
    (message : Bytes) : (publish topic qos packetId message).Consistent where
  remainingLength := rfl
  kind := rfl
  qos hk := by cases hk

lemma Consistent.mark (h : p.Consistent) (flag : Flag) : (p.mark flag).Consistent := by
  cases flag <;> exact ⟨h.remainingLength, h.kind, h.qos⟩

lemma Consistent.markAll (h : p.Consistent) (flags : List Flag) :
    (flags.foldl Packet.mark p).Consistent := by
  induction flags generalizing p with
  | nil => exact h
  | cons flag flags ih => exact ih (h.mark flag)

lemma Construction.consistent (c : Construction) : c.packet.Consistent := by
  cases c with
  | connect clientId keepAlive edits =>
    rw [packet, ConnectRequest.built_eq]
    exact consistent_of_header rfl
  | publish topic qos packetId message flags =>
    exact (consistent_publish topic qos packetId message).markAll flags
  | _ => exact consistent_of_header rfl

/-- Of a password that is taken back and of a will that is replaced nothing is left. -/
example :
    let request := ConnectRequest.built "c" 60 [.login ⟨"u", some [1]⟩,
      .will ⟨"a", [1], .atLeastOnce, true⟩, .login ⟨"u", none⟩, .will ⟨"b", [], .atMostOnce, false⟩]
    request.header.flags = 0x86 ∧ request.payload = ⟨"c", some "b", some [], some "u", none⟩ ∧
      request.packet.header.remainingLength = 21 := ⟨rfl, rfl, rfl⟩

end Packet

end Mqtt
