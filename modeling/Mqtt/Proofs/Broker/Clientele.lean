import Mqtt.Proofs.Broker.Actor

/-!
# Clients of a broker

Steps of the broker may name any identifier. Clients are more careful: an identifier is told by the
opening of its connection, so that a client can name nothing else. What clients do is read as steps
of the broker here (`Clientele.resolve`), and the end of a connection is never reported by them
before the connection is opened (`Clientele.never_closesEarly`).
-/

namespace Mqtt

namespace Actor

variable {s : Actor} {a : Step} {steps : List Step} {c : ConnectionId}

/-- The end of `c` is reported, though `c` has not been opened. -/
def ClosesEarly (c : ConnectionId) (s : Actor) (a : Step) : Prop :=
  a = .close c ∧ s.broker.outbox? c = none

instance : Decidable (ClosesEarly c s a) := inferInstanceAs (Decidable (_ ∧ _))

lemma never_closesEarly_of_not_mem (h : .close c ∉ steps) : Never (ClosesEarly c) s steps := by
  rintro before a after rfl ⟨rfl, -⟩
  exact h (List.mem_append_right _ List.mem_cons_self)

end Actor

namespace Clientele

/-- What may happen next among clients, who are numbered from 0 in the order in which they open
their connections. -/
inductive Step where
  | openConnection
  | packet (k : Nat) (packet : Packet)
  | close (k : Nat)
  | receive (k n : Nat)
  | detach (k : Nat)
  | decide
  | perform
deriving DecidableEq

/-- The step of the broker that is taken, if the clients have been given these connections; who has
not been given any takes no step. -/
def Step.resolve? (connections : List ConnectionId) : Step → Option Actor.Step
  | .openConnection => some .openConnection
  | .packet k p     => connections[k]?.map fun c => .packet c p
  | .close k        => connections[k]?.map fun c => .close c
  | .receive k n    => connections[k]?.map fun c => .receive c n
  | .detach k       => connections[k]?.map fun c => .detach c
  | .decide         => some .decide
  | .perform        => some .perform

/-- The connections that the clients have been given after a step of the broker. -/
def given (connections : List ConnectionId) (s : Actor) (b : Actor.Step) : List ConnectionId :=
  if b = .openConnection then connections ++ [s.broker.ids.upcoming] else connections

/-- The steps of the broker that are taken while the clients do one thing after the other. -/
def resolve (connections : List ConnectionId) (s : Actor) : List Step → List Actor.Step
  | []         => []
  | a :: steps =>
    match a.resolve? connections with
    | none   => resolve connections s steps
    | some b => b :: resolve (given connections s b) (s.step b) steps

variable {connections : List ConnectionId} {a : Step} {b : Actor.Step} {steps : List Step}
  {s : Actor} {c : ConnectionId}

lemma resolve_cons_of_none (h : a.resolve? connections = none) :
    resolve connections s (a :: steps) = resolve connections s steps := by
  rw [resolve, h]

lemma resolve_cons_of_some (h : a.resolve? connections = some b) :
    resolve connections s (a :: steps) =
      b :: resolve (given connections s b) (s.step b) steps := by
  rw [resolve, h]

/-- Nothing but an opening opens a connection, and only one that was given is closed. -/
lemma of_resolve?_eq_some (h : a.resolve? connections = some b) :
    (b = .openConnection → a = .openConnection) ∧ ∀ c, b = .close c → c ∈ connections := by
  cases a with
  | close k =>
    obtain ⟨d, hd, rfl⟩ := Option.map_eq_some_iff.mp h
    refine ⟨by simp, fun c heq => ?_⟩
    cases heq
    exact List.mem_of_getElem? hd
  | packet k | receive k n | detach k =>
    obtain ⟨d, -, rfl⟩ := Option.map_eq_some_iff.mp h
    simp
  | openConnection | decide | perform =>
    cases h
    simp

lemma count_resolve_le (connections : List ConnectionId) (s : Actor) (steps : List Step) :
    (resolve connections s steps).count .openConnection ≤ steps.count .openConnection := by
  induction steps generalizing connections s with
  | nil => exact Nat.le_refl 0
  | cons a steps ih =>
    cases hb : a.resolve? connections with
    | none =>
      rw [resolve_cons_of_none hb]
      exact (ih ..).trans (List.count_le_count_cons ..)
    | some b =>
      rw [resolve_cons_of_some hb]
      by_cases ho : b = .openConnection
      · rw [(of_resolve?_eq_some hb).1 ho, ho, List.count_cons_self, List.count_cons_self]
        exact Nat.succ_le_succ (ih ..)
      · rw [List.count_cons_of_ne ho]
        exact (ih ..).trans (List.count_le_count_cons ..)

/-- What clients have been given has been opened. -/
lemma outbox?_ne_none_of_given (hr : s.broker.isRunning = true)
    (hopen : ∀ d ∈ connections, s.broker.outbox? d ≠ none) :
    ∀ d ∈ given connections s b, (s.step b).broker.outbox? d ≠ none := by
  intro d hd hnone
  obtain ⟨ho, hold⟩ := Actor.outbox?_eq_none_step hr hnone
  have hnot : d ∉ connections := fun hd => hopen d hd hold
  rw [given] at hd
  split at hd
  · rcases List.mem_append.mp hd with hd | hd
    · exact hnot hd
    · exact ho ⟨‹_›, (List.mem_singleton.mp hd).symm⟩
  · exact hnot hd

/-- Clients report the end of nothing but what has been opened. -/
theorem never_closesEarly (hr : s.broker.isRunning = true)
    (hopen : ∀ d ∈ connections, s.broker.outbox? d ≠ none) (steps : List Step) :
    Actor.Never (Actor.ClosesEarly c) s (resolve connections s steps) := by
  induction steps generalizing connections s with
  | nil =>
    rintro before a after heq
    cases before <;> cases heq
  | cons a steps ih =>
    cases hb : a.resolve? connections with
    | none =>
      rw [resolve_cons_of_none hb]
      exact ih hr hopen
    | some b =>
      rw [resolve_cons_of_some hb]
      have hrest := ih (Actor.isRunning_step (a := b) hr) (outbox?_ne_none_of_given hr hopen)
      refine Actor.never_cons_iff.mpr ⟨?_, hrest⟩
      rintro ⟨hclose, hnone⟩
      exact hopen c ((of_resolve?_eq_some hb).2 c hclose) hnone

end Clientele

end Mqtt
