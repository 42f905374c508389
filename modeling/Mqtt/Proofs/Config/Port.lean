import Mqtt.Config
import Mqtt.Proofs.Text.Numeral

/-!
# Two ways to give a port

A port may be given alone, for the default host, or behind a host. The two forms agree on every
numeral that is a port, however it is padded and whatever the environment holds. They do not agree on
a numeral that is too large: behind a host it is refused, while alone it is taken for the path of a
socket. `portForms_of_numeral` is the condition under which they agree.
-/

namespace Mqtt.Config

variable {arguments : List String} {environment : String → Option String} {text : String}
  {n : Nat}

/-- Two readings agree if both give the same settings, or neither gives any. -/
def Agree (x y : Except ConfigError Config) : Prop :=
  x.toOption = y.toOption

instance (x y : Except ConfigError Config) : Decidable (Agree x y) :=
  inferInstanceAs (Decidable (x.toOption = y.toOption))

/-- The settings of the environment for a broker that listens at `bind`. -/
def listeningAt (bind : Bind) (environment : String → Option String) : Except ConfigError Config :=
  (read [] environment).map fun config => { config with bind := bind }

/-! ### Place and environment -/

lemma read_eq_listeningAt {bind : Bind} (h : readBind arguments = .ok bind)
    (environment : String → Option String) :
    read arguments environment = listeningAt bind environment := by
  rw [listeningAt, read, read, h]
  cases readMaxQoS (environment maxQoSVariable) with
  | error e => rfl
  | ok maxQoS =>
    cases readCredentials (environment userNameVariable) (environment passwordVariable) with
    | error e => rfl
    | ok credentials => rfl

/-- The place comes before all that the environment may have wrong. -/
lemma read_eq_error {e : ConfigError} (h : readBind arguments = .error e)
    (environment : String → Option String) : read arguments environment = .error e := by
  rw [read, h]
  rfl

/-- What is read agrees with a refusal only if the environment is refused itself. -/
lemma agree_error_iff {bind : Bind} {e : ConfigError} :
    Agree (listeningAt bind environment) (.error e) ↔ ∃ e', read [] environment = .error e' := by
  rw [Agree, listeningAt]
  cases read [] environment <;> simp [Except.map, Except.toOption]

/-! ### Numerals as arguments -/

lemma readBind_alone (h : Text.Numeral.Says text.toList n) :
    readBind [text] = .ok (if n ≤ maxPort then .tcp defaultHost n else .unix text) := by
  rw [readBind, h.parse_eq]
  by_cases hn : n ≤ maxPort
  · rw [if_pos hn, if_pos hn]
  · rw [if_neg hn, if_neg hn]

lemma readBind_behind (h : Text.Numeral.Says text.toList n) (host : String) :
    readBind [host, text] =
      if n ≤ maxPort then .ok (.tcp host n) else .error (.invalidPort text .tooLarge) := by
  rw [readBind, h.parse_eq]
  by_cases hn : n ≤ maxPort
  · rw [if_pos hn, if_pos hn]
  · rw [if_neg hn, if_neg hn]

/-- What comes of a numeral `text` of value `n`, alone and behind the default host. -/
structure PortForms (text : String) (n : Nat) (environment : String → Option String) : Prop where
  /-- The forms agree, unless the numeral is too large and nothing else is wrong. -/
  agree : Agree (read [text] environment) (read [defaultHost, text] environment) ↔
    n ≤ maxPort ∨ ∃ e, read [] environment = .error e
  /-- A numeral that is not too large is a port in both forms. -/
  port : n ≤ maxPort → read [text] environment = listeningAt (.tcp defaultHost n) environment ∧
    read [defaultHost, text] environment = listeningAt (.tcp defaultHost n) environment
  /-- One that is too large is a path if it is alone, and is refused behind the host. -/
  beyond : maxPort < n → read [text] environment = listeningAt (.unix text) environment ∧
    read [defaultHost, text] environment = .error (.invalidPort text .tooLarge)

/-- A numeral is the same port alone and behind the default host, as long as it is a port at all;
beyond the greatest port it aborts the start only behind the host. -/
theorem portForms_of_numeral (h : Text.Numeral.Says text.toList n)
    (environment : String → Option String) : PortForms text n environment := by
  have halone := readBind_alone h
  have hbehind := readBind_behind h defaultHost
  by_cases hn : n ≤ maxPort
  · rw [if_pos hn] at halone hbehind
    have hport := read_eq_listeningAt halone environment
    have hhost := read_eq_listeningAt hbehind environment
    refine ⟨?_, fun _ => ⟨hport, hhost⟩, fun hbeyond => absurd hn (Nat.not_le.mpr hbeyond)⟩
    rw [hport, hhost]
    exact iff_of_true rfl (.inl hn)
  · rw [if_neg hn] at halone hbehind
    have hpath := read_eq_listeningAt halone environment
    have hrefused := read_eq_error hbehind environment
    refine ⟨?_, fun hport => absurd hport hn, fun _ => ⟨hpath, hrefused⟩⟩
    rw [hpath, hrefused, agree_error_iff, or_iff_right hn]

/-- A padded numeral with a sign is port 80 in both forms, with the QoS of the environment. -/
theorem portForms_of_numeral_padded :
    let environment := fun name => if name = maxQoSVariable then some " 2 " else none
    Text.Numeral.Says "+0080".toList 80 ∧
      read ["+0080"] environment = .ok ⟨.tcp defaultHost 80, .exactlyOnce, none⟩ ∧
      Agree (read ["+0080"] environment) (read [defaultHost, "+0080"] environment) := by
  intro environment
  have hdigits : ∀ d ∈ ['0', '0', '8', '0'], d.isDigit = true := by simp
  have hnumeral : Text.Numeral.Says "+0080".toList 80 := .signed (List.cons_ne_nil _ _) hdigits
  have hforms := portForms_of_numeral hnumeral environment
  refine ⟨hnumeral, ?_, hforms.agree.mpr (.inl (by decide))⟩
  rw [(hforms.port (by decide)).1]
  decide

/-- The least numeral that is no port is taken for a path if it is alone, and is refused behind the
default host. -/
theorem not_agree_of_beyond :
    ¬ Agree (read ["65536"] fun _ => none) (read [defaultHost, "65536"] fun _ => none) := by
  decide

end Mqtt.Config
