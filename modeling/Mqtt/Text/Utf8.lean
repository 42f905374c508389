import Mqtt.Bytes

/-!
# UTF-8

Texts and their UTF-8 bytes. `ofUtf8?_eq_some_iff` says that the two directions are inverse to
each other: bytes are accepted exactly when they are the UTF-8 form of some text. A zero byte stands
for U+0000 and for nothing else (`zero_mem_utf8_iff`).
-/

namespace Mqtt.Text

/-- The UTF-8 form of a text. -/
def utf8 (s : String) : Bytes :=
  s.toByteArray.data.toList

/-- The text whose UTF-8 form is `bs`, if there is one. -/
def ofUtf8? (bs : Bytes) : Option String :=
  String.fromUTF8? ⟨bs.toArray⟩

theorem ofUtf8?_utf8 (s : String) : ofUtf8? (utf8 s) = some s := by
  have h : (⟨(utf8 s).toArray⟩ : ByteArray) = s.toByteArray := by simp [utf8]
  simp [ofUtf8?, h, String.fromUTF8?, String.fromUTF8, s.isValidUTF8]

theorem ofUtf8?_eq_some_iff {bs : Bytes} {s : String} : ofUtf8? bs = some s ↔ bs = utf8 s := by
  constructor
  · intro h
    simp only [ofUtf8?, String.fromUTF8?] at h
    split at h
    · cases h
      simp [utf8, String.fromUTF8]
    · cases h
  · rintro rfl
    exact ofUtf8?_utf8 s

theorem utf8_inj {s t : String} : utf8 s = utf8 t ↔ s = t := by
  rw [← ofUtf8?_eq_some_iff, ofUtf8?_utf8, Option.some.injEq]

theorem length_utf8 (s : String) : (utf8 s).length = s.utf8ByteSize := by
  simp [utf8]

theorem utf8_eq_flatMap (s : String) : utf8 s = s.toList.flatMap String.utf8EncodeChar := by
  rw [utf8, ← String.utf8Encode_toList, List.utf8Encode, List.data_toByteArray]

/-- The bytes of a character are never zero, unless it is U+0000. -/
theorem zero_mem_utf8EncodeChar_iff {c : Char} : 0 ∈ String.utf8EncodeChar c ↔ c = '\x00' := by
  have hzero : c = '\x00' ↔ c.val.toNat = 0 := by
    rw [← Char.toNat_inj]
    rfl
  rw [hzero, String.utf8EncodeChar]
  -- one case for each number of bytes
  repeat' split
  all_goals
    simp only [List.mem_cons, List.not_mem_nil, or_false, ← UInt8.toNat_inj, UInt8.toNat_ofNat',
      UInt8.toNat_zero]
    omega

theorem zero_mem_utf8_iff {s : String} : 0 ∈ utf8 s ↔ '\x00' ∈ s.toList := by
  simp [utf8_eq_flatMap, zero_mem_utf8EncodeChar_iff]

end Mqtt.Text
