import Mqtt.Broker.ConnectionId

/-!
# Rosters

A roster keeps something for each of some connections. What `find?` answers after `set`, `modify`
and `remove` is all there is to know about it.
-/

namespace Mqtt

/-- Something kept for each of some connections. -/
abbrev Roster (α : Type) := List (ConnectionId × α)

namespace Roster

variable {α : Type}

/-- The entry of `c`, if it has one. -/
def find? (c : ConnectionId) : Roster α → Option α
  | []             => none
  | (d, a) :: rest => if d = c then some a else find? c rest

/-- Set the entry of `c`. -/
def set (c : ConnectionId) (a : α) : Roster α → Roster α
  | []             => [(c, a)]
  | (d, b) :: rest => if d = c then (c, a) :: rest else (d, b) :: set c a rest

/-- Change the entry of `c`, if it has one. -/
def modify (c : ConnectionId) (f : α → α) : Roster α → Roster α
  | []             => []
  | (d, b) :: rest => if d = c then (d, f b) :: rest else (d, b) :: modify c f rest

/-- Remove every entry of `c`. -/
def remove (c : ConnectionId) : Roster α → Roster α
  | []             => []
  | (d, b) :: rest => if d = c then remove c rest else (d, b) :: remove c rest

@[simp] theorem find?_nil (c : ConnectionId) : find? c ([] : Roster α) = none := rfl

@[simp] theorem find?_set_self (c : ConnectionId) (a : α) (roster : Roster α) :
    find? c (roster.set c a) = some a := by
  induction roster with
  | nil => simp [set, find?]
  | cons entry rest ih =>
    obtain ⟨d, b⟩ := entry
    by_cases h : d = c <;> simp [set, find?, h, ih]

@[simp] theorem find?_set_of_ne {c d : ConnectionId} (h : c ≠ d) (a : α) (roster : Roster α) :
    find? c (roster.set d a) = find? c roster := by
  induction roster with
  | nil => simp [set, find?, Ne.symm h]
  | cons entry rest ih =>
    obtain ⟨e, b⟩ := entry
    by_cases he : e = d
    · subst he; simp [set, find?, Ne.symm h]
    · simp [set, find?, he, ih]

@[simp] theorem find?_modify_self (c : ConnectionId) (f : α → α) (roster : Roster α) :
    find? c (roster.modify c f) = (find? c roster).map f := by
  induction roster with
  | nil => rfl
  | cons entry rest ih =>
    obtain ⟨d, b⟩ := entry
    by_cases h : d = c <;> simp [modify, find?, h, ih]

@[simp] theorem find?_modify_of_ne {c d : ConnectionId} (h : c ≠ d) (f : α → α)
    (roster : Roster α) : find? c (roster.modify d f) = find? c roster := by
  induction roster with
  | nil => rfl
  | cons entry rest ih =>
    obtain ⟨e, b⟩ := entry
    by_cases he : e = d
    · subst he; simp [modify, find?, Ne.symm h]
    · simp [modify, find?, he, ih]

theorem find?_modify (c d : ConnectionId) (f : α → α) (roster : Roster α) :
    find? c (roster.modify d f) = (find? c roster).map (if d = c then f else id) := by
  by_cases h : d = c
  · subst h
    simp
  · simp [h, Ne.symm h]

theorem modify_eq_self {c : ConnectionId} {roster : Roster α} (h : find? c roster = none)
    (f : α → α) : roster.modify c f = roster := by
  induction roster with
  | nil => rfl
  | cons entry rest ih =>
    obtain ⟨d, b⟩ := entry
    by_cases hd : d = c
    · simp [find?, hd] at h
    · rw [find?, if_neg hd] at h
      rw [modify, if_neg hd, ih h]

theorem set_eq_modify {c : ConnectionId} {a : α} {roster : Roster α} (h : find? c roster = some a)
    (f : α → α) : roster.set c (f a) = roster.modify c f := by
  induction roster with
  | nil => cases h
  | cons entry rest ih =>
    obtain ⟨d, b⟩ := entry
    by_cases hd : d = c
    · rw [find?, if_pos hd] at h
      cases h
      rw [set, modify, if_pos hd, if_pos hd, hd]
    · rw [find?, if_neg hd] at h
      rw [set, modify, if_neg hd, if_neg hd, ih h]

@[simp] theorem find?_remove_self (c : ConnectionId) (roster : Roster α) :
    find? c (roster.remove c) = none := by
  induction roster with
  | nil => rfl
  | cons entry rest ih =>
    obtain ⟨d, b⟩ := entry
    by_cases h : d = c <;> simp [remove, find?, h, ih]

@[simp] theorem find?_remove_of_ne {c d : ConnectionId} (h : c ≠ d) (roster : Roster α) :
    find? c (roster.remove d) = find? c roster := by
  induction roster with
  | nil => rfl
  | cons entry rest ih =>
    obtain ⟨e, b⟩ := entry
    by_cases he : e = d
    · subst he; simp [remove, find?, Ne.symm h, ih]
    · simp [remove, find?, he, ih]

end Roster

end Mqtt
