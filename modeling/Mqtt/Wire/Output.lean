import Mqtt.Bytes
import Mqtt.Error

/-!
# Output

What a writer has put out, and the error that stopped it, if any. Outputs are joined in sequence by
`++`, and nothing comes out after an error.
-/

namespace Mqtt

/-- Bytes put out, and the error after them if the writer could not go on. -/
structure Output where
  bytes : Bytes
  error : Option EncodeError
deriving DecidableEq

namespace Output

/-- Bytes put out without an error. -/
def of (bs : Bytes) : Output := ⟨bs, none⟩

/-- Nothing but an error. -/
def fail (e : EncodeError) : Output := ⟨[], some e⟩

/-- One output after the other, up to the first error. -/
def append (first second : Output) : Output :=
  match first.error with
  | some _ => first
  | none   => ⟨first.bytes ++ second.bytes, second.error⟩

instance : Append Output := ⟨append⟩

/-- The outputs of a list of items, one after the other. -/
def concat {α : Type} (write : α → Output) (items : List α) : Output :=
  items.foldr (fun item rest => write item ++ rest) (of [])

/-- The bytes of an output that met no error. -/
def result (o : Output) : Except EncodeError Bytes :=
  match o.error with
  | some e => .error e
  | none   => .ok o.bytes

@[simp] theorem of_nil_append (o : Output) : of [] ++ o = o := rfl

@[simp] theorem append_of_nil (o : Output) : o ++ of [] = o := by
  obtain ⟨bs, e⟩ := o
  change append _ _ = _
  cases e <;> simp [append, of]

theorem append_assoc (a b c : Output) : a ++ b ++ c = a ++ (b ++ c) := by
  change append (append a b) c = append a (append b c)
  obtain ⟨as, e⟩ := a
  obtain ⟨bs, f⟩ := b
  cases e <;> cases f <;> simp [append]

end Output

end Mqtt
