import Mathlib.Tactic.Lemma
import Mqtt.Wire.Field

/-!
# Readers and the forms they recognize

A reader recognizes a relation between values and runs of bytes if it takes a run off the front of
a window exactly when the relation holds of it. Where the relation says what a writer puts out,
this makes the two inverse to each other: what is written is read, whatever follows it, and what
is read is what would be written.

Recognition passes from the steps of a sequence to the whole (`Reader.Recognizes.bind`), and from
the entries of a list to the list (`Reader.entries_eq_ok_iff`), where the first entry that is refused
is the one to blame (`Reader.entriesAfter_eq_error_iff`).
-/

namespace Mqtt

namespace Output

@[simp] lemma of_eq_of_iff {as bs : Bytes} : of as = of bs ↔ as = bs := by
  simp [of]

@[simp] lemma fail_ne_of (e : EncodeError) (bs : Bytes) : fail e ≠ of bs := by
  simp [fail, of]

/-- Two outputs in sequence meet no error exactly when neither of them does. -/
lemma append_eq_of_iff {a b : Output} {bs : Bytes} :
    a ++ b = of bs ↔ ∃ x y, bs = x ++ y ∧ a = of x ∧ b = of y := by
  obtain ⟨as, e⟩ := a
  obtain ⟨cs, f⟩ := b
  change append _ _ = _ ↔ _
  cases e with
  | some e => simp [append, of]
  | none =>
    simp only [append, of, mk.injEq]
    constructor
    · rintro ⟨hbs, hf⟩
      exact ⟨as, cs, hbs.symm, ⟨rfl, trivial⟩, rfl, hf⟩
    · rintro ⟨x, y, hbs, ⟨hx, -⟩, hy, hf⟩
      exact ⟨by rw [hx, hy, hbs], hf⟩

end Output

/-- The error that a reading from the last bytes amounts to if it gives no value: nothing is to come
that could make up for what is missing. -/
def Reading.refusal? {α : Type} : Reading α → Option DecodeError
  | .short       => some .invalidPayloadBytes
  | .done _ _    => none
  | .malformed e => some e

namespace Reader

variable {α β : Type}

/-- The reader takes a value off a window exactly with a run of bytes that is a form of it. -/
def Recognizes (r : Reader α) (form : α → Bytes → Prop) : Prop :=
  ∀ bs a n, r bs = .done a n ↔ n ≤ bs.length ∧ form a (bs.take n)

section

variable {r : Reader α} {form form' : α → Bytes → Prop}

lemma Recognizes.congr (hr : r.Recognizes form) (h : ∀ a front, form a front ↔ form' a front) :
    r.Recognizes form' := by
  intro bs a n
  rw [hr bs a n, h]

/-- A form is read off, whatever follows it. -/
lemma Recognizes.read (hr : r.Recognizes form) {a : α} {front : Bytes} (h : form a front)
    (rest : Bytes) : r (front ++ rest) = .done a front.length := by
  rw [hr, List.take_left, List.length_append]
  exact ⟨Nat.le_add_right _ _, h⟩

/-- What takes up the whole window is a form. -/
lemma Recognizes.whole_iff (hr : r.Recognizes form) {a : α} {bs : Bytes} :
    r bs = .done a bs.length ↔ form a bs := by
  rw [hr, List.take_length]
  exact and_iff_right (Nat.le_refl _)

lemma whole_eq_ok_iff {a : α} {bs : Bytes} :
    whole r bs = .ok a ↔ r bs = .done a bs.length := by
  rw [whole]
  cases r bs with
  | short => simp
  | malformed e => simp
  | done b n =>
    by_cases hn : n = bs.length <;> simp [hn]

end

/-! ### Sequences -/

lemma recognizes_pure (a : α) :
    (pure a : Reader α).Recognizes fun b front => b = a ∧ front = [] := by
  intro bs b n
  change Reading.done a 0 = .done b n ↔ _
  constructor
  · intro h
    cases h
    simp
  · rintro ⟨hn, rfl, hb⟩
    have hl := congrArg List.length hb
    rw [List.length_take_of_le hn] at hl
    rw [show n = 0 from hl]

lemma recognizes_fail (e : DecodeError) : (fail e : Reader α).Recognizes fun _ _ => False := by
  intro bs b n
  simp [fail]

lemma bind_of_done {r : Reader α} {f : α → Reader β} {bs : Bytes} {a : α} {n : Nat}
    (h : r bs = .done a n) : (r >>= f) bs = (f a (bs.drop n)).after n := by
  change r.andThen f bs = _
  rw [andThen, h]

lemma bind_of_short {r : Reader α} {f : α → Reader β} {bs : Bytes} (h : r bs = .short) :
    (r >>= f) bs = .short := by
  change r.andThen f bs = _
  rw [andThen, h]

lemma bind_of_malformed {r : Reader α} {f : α → Reader β} {bs : Bytes} {e : DecodeError}
    (h : r bs = .malformed e) : (r >>= f) bs = .malformed e := by
  change r.andThen f bs = _
  rw [andThen, h]

lemma bind_eq_done_iff {r : Reader α} {f : α → Reader β} {bs : Bytes} {b : β} {k : Nat} :
    (r >>= f) bs = .done b k ↔
      ∃ a n m, r bs = .done a n ∧ f a (bs.drop n) = .done b m ∧ k = n + m := by
  change r.andThen f bs = _ ↔ _
  rw [andThen]
  cases hr : r bs with
  | short => simp
  | malformed e => simp
  | done a n =>
    cases hf : f a (bs.drop n) with
    | short => simp [hf, Reading.after]
    | malformed e => simp [hf, Reading.after]
    | done c m =>
      simp only [hf, Reading.after, Reading.done.injEq]
      constructor
      · rintro ⟨rfl, rfl⟩
        exact ⟨a, n, m, ⟨rfl, rfl⟩, hf, rfl⟩
      · rintro ⟨a', n', m', ⟨rfl, rfl⟩, h, rfl⟩
        rw [hf] at h
        cases h
        exact ⟨rfl, rfl⟩

lemma bind_eq_short_iff {r : Reader α} {f : α → Reader β} {bs : Bytes} :
    (r >>= f) bs = .short ↔
      r bs = .short ∨ ∃ a n, r bs = .done a n ∧ f a (bs.drop n) = .short := by
  have hafter (n : Nat) (x : Reading β) : x.after n = .short ↔ x = .short := by
    cases x <;> simp [Reading.after]
  change r.andThen f bs = _ ↔ _
  rw [andThen]
  cases hr : r bs with
  | short => simp
  | malformed e => simp
  | done a n =>
    simp only [hafter]
    constructor
    · intro hf
      exact .inr ⟨a, n, rfl, hf⟩
    · rintro (h | ⟨_, _, h, hf⟩) <;> cases h
      exact hf

/-- A sequence recognizes a form of its first value followed by a form of its second. -/
lemma Recognizes.bind_of {r : Reader α} {f : α → Reader β} {form : α → Bytes → Prop}
    {q : α → β → Bytes → Prop} (hr : r.Recognizes form)
    (hf : ∀ a x, form a x → (f a).Recognizes (q a)) :
    (r >>= f).Recognizes fun b front => ∃ a x y, front = x ++ y ∧ form a x ∧ q a b y := by
  intro bs b k
  rw [bind_eq_done_iff]
  constructor
  · rintro ⟨a, n, m, ha, hb, rfl⟩
    obtain ⟨hn, hx⟩ := (hr bs a n).mp ha
    obtain ⟨hm, hy⟩ := (hf a _ hx _ b m).mp hb
    rw [List.length_drop] at hm
    exact ⟨by omega, a, _, _, List.take_add, hx, hy⟩
  · rintro ⟨hk, a, x, y, hxy, hx, hy⟩
    have hbs : bs = x ++ (y ++ bs.drop k) := by
      rw [← List.append_assoc, ← hxy, List.take_append_drop]
    have hlen : k = x.length + y.length := by
      rw [← List.length_append, ← hxy, List.length_take_of_le hk]
    refine ⟨a, x.length, y.length, ?_, ?_, hlen⟩
    · rw [hbs]
      exact hr.read hx _
    · rw [hbs, List.drop_left]
      exact (hf a x hx).read hy _

lemma Recognizes.bind {r : Reader α} {f : α → Reader β} {form : α → Bytes → Prop}
    {q : α → β → Bytes → Prop} (hr : r.Recognizes form) (hf : ∀ a, (f a).Recognizes (q a)) :
    (r >>= f).Recognizes fun b front => ∃ a x y, front = x ++ y ∧ form a x ∧ q a b y :=
  hr.bind_of fun a _ _ => hf a

/-! ### Records

The fields of a record stand one behind the other. After each of them, what is left to read is a
record that has the fields read so far. -/

section

variable {r : Reader α} {f : α → Reader β} {write : α → Output} {c : α → Prop} {p : β → Prop}
  {g : β → α} {w : β → Output}

lemma Recognizes.fieldIf (hr : r.Recognizes fun a front => c a ∧ write a = .of front)
    (hc : ∀ b, p b → c (g b))
    (hf : ∀ a, c a → (f a).Recognizes fun b front => (p b ∧ g b = a) ∧ w b = .of front) :
    (r >>= f).Recognizes fun b front => p b ∧ write (g b) ++ w b = .of front := by
  refine (hr.bind_of fun a x hx => hf a hx.1).congr fun b front => ?_
  rw [Output.append_eq_of_iff]
  constructor
  · rintro ⟨a, x, y, rfl, ⟨-, hx⟩, ⟨hp, rfl⟩, hy⟩
    exact ⟨hp, x, y, rfl, hx, hy⟩
  · rintro ⟨hp, x, y, rfl, hx, hy⟩
    exact ⟨g b, x, y, rfl, ⟨hc b hp, hx⟩, ⟨hp, rfl⟩, hy⟩

lemma Recognizes.field (hr : r.Recognizes fun a front => write a = .of front)
    (hf : ∀ a, (f a).Recognizes fun b front => (p b ∧ g b = a) ∧ w b = .of front) :
    (r >>= f).Recognizes fun b front => p b ∧ write (g b) ++ w b = .of front := by
  have hr' : r.Recognizes fun a front => True ∧ write a = .of front :=
    hr.congr fun _ _ => (and_iff_right trivial).symm
  exact hr'.fieldIf (fun _ _ => trivial) fun a _ => hf a

lemma Recognizes.lastFieldIf (hr : r.Recognizes fun a front => c a ∧ write a = .of front)
    (hc : ∀ b, p b → c (g b))
    (hf : ∀ a, c a → (f a).Recognizes fun b front => (p b ∧ g b = a) ∧ Output.of [] = .of front) :
    (r >>= f).Recognizes fun b front => p b ∧ write (g b) = .of front := by
  refine (hr.fieldIf hc hf).congr fun b front => ?_
  rw [Output.append_of_nil]

lemma Recognizes.lastField (hr : r.Recognizes fun a front => write a = .of front)
    (hf : ∀ a, (f a).Recognizes fun b front => (p b ∧ g b = a) ∧ Output.of [] = .of front) :
    (r >>= f).Recognizes fun b front => p b ∧ write (g b) = .of front := by
  refine (hr.field hf).congr fun b front => ?_
  rw [Output.append_of_nil]

/-- The last field read makes the record. -/
lemma recognizes_record {b : β} (h : ∀ b', p b' ↔ b' = b) :
    (pure b : Reader β).Recognizes fun b' front => p b' ∧ Output.of [] = .of front := by
  refine (recognizes_pure b).congr fun b' front => ?_
  rw [h, Output.of_eq_of_iff, eq_comm (a := [])]

/-- No record has the fields read. -/
lemma recognizes_no_record {e : DecodeError} (h : ∀ b, ¬ p b) :
    (fail e : Reader β).Recognizes fun b front => p b ∧ w b = .of front :=
  (recognizes_fail e).congr fun b _ => (iff_of_false id fun hp => h b hp.1)

end

/-! ### Fields -/

lemma recognizes_byte : byte.Recognizes fun b front => Output.byte b = .of front := by
  intro bs b n
  cases bs with
  | nil => simp [byte, Output.byte]
  | cons c bs =>
    simp only [byte, Output.byte, Output.of_eq_of_iff, Reading.done.injEq, List.length_cons]
    constructor
    · rintro ⟨rfl, rfl⟩
      exact ⟨by omega, rfl⟩
    · rintro ⟨hn, hb⟩
      have hl := congrArg List.length hb
      rw [List.length_take_of_le (by simpa using hn)] at hl
      obtain rfl : n = 1 := hl.symm
      simpa [eq_comm] using hb

/-- Two bytes are the digits of a word exactly when the word is their value to base 256. -/
lemma word_eq_iff (w : UInt16) (hi lo : UInt8) :
    Output.word w = .of [hi, lo] ↔ UInt16.ofNat (hi.toNat * 256 + lo.toNat) = w := by
  have hh := hi.toNat_lt
  have hl := lo.toNat_lt
  have hw := w.toNat_lt
  simp only [Output.word, Output.of_eq_of_iff, List.cons.injEq, and_true, ← UInt8.toNat_inj,
    ← UInt16.toNat_inj, UInt8.toNat_ofNat', UInt16.toNat_ofNat']
  omega

lemma recognizes_word : word.Recognizes fun w front => Output.word w = .of front := by
  intro bs w n
  match bs with
  | [] => simp [word, Output.word]
  | [_] =>
    cases n <;> simp [word, Output.word]
  | hi :: lo :: bs =>
    simp only [word, Reading.done.injEq, List.length_cons]
    constructor
    · rintro ⟨hw, rfl⟩
      exact ⟨by omega, (word_eq_iff w hi lo).mpr hw⟩
    · rintro ⟨hn, hw⟩
      have hl : 2 = n := by
        have h := (Output.of_eq_of_iff.mp hw)
        have h := congrArg List.length h
        rwa [List.length_take_of_le (by simpa using hn)] at h
      subst hl
      exact ⟨(word_eq_iff w hi lo).mp hw, rfl⟩

lemma recognizes_take (k : Nat) : (take k).Recognizes fun a front => front = a ∧ a.length = k := by
  intro bs a n
  rw [take]
  split <;> rename_i hk
  · rw [Bytes.shorterThan_iff] at hk
    simp only [reduceCtorEq, false_iff, not_and]
    rintro hn rfl hl
    rw [List.length_take_of_le hn] at hl
    omega
  · rw [Bytes.shorterThan_iff] at hk
    simp only [Reading.done.injEq]
    constructor
    · rintro ⟨rfl, rfl⟩
      exact ⟨by omega, rfl, List.length_take_of_le (by omega)⟩
    · rintro ⟨hn, rfl, hl⟩
      rw [List.length_take_of_le hn] at hl
      exact ⟨by rw [hl], hl.symm⟩

lemma recognizes_binary : binary.Recognizes fun a front => Output.binary a = .of front := by
  refine (recognizes_word.bind fun w => recognizes_take w.toNat).congr fun a front => ?_
  rw [Output.binary]
  split <;> rename_i hl
  · rw [maxFieldLength] at hl
    simp only [Output.append_eq_of_iff, Output.of_eq_of_iff]
    constructor
    · rintro ⟨w, x, y, rfl, hw, rfl, hlen⟩
      refine ⟨x, y, rfl, ?_, rfl⟩
      rw [hlen]
      simpa using hw
    · rintro ⟨x, y, rfl, hw, rfl⟩
      exact ⟨_, x, a, rfl, hw, rfl, by simp; omega⟩
  · rw [maxFieldLength] at hl
    simp only [Output.fail_ne_of, iff_false]
    rintro ⟨w, x, y, -, -, -, hlen⟩
    have := w.toNat_lt
    omega

lemma recognizes_text : text.Recognizes fun s front => Output.text s = .of front := by
  refine (recognizes_binary.bind
    (q := fun a s y => a = Text.utf8 s ∧ a.contains 0 = false ∧ y = []) fun a => ?_).congr
    fun s front => ?_
  · split <;> rename_i hs
    · refine (recognizes_fail _).congr fun s y => ?_
      simp only [false_iff, not_and]
      intro ha
      rw [← Text.ofUtf8?_eq_some_iff, hs] at ha
      cases ha
    · rename_i t
      rw [Text.ofUtf8?_eq_some_iff] at hs
      subst hs
      split <;> rename_i h0
      · refine (recognizes_fail _).congr fun s y => ?_
        rw [h0]
        simp
      · refine (recognizes_pure t).congr fun s y => ?_
        rw [Bool.not_eq_true] at h0
        rw [h0, Text.utf8_inj]
        simp [eq_comm]
  · rw [Output.text]
    split <;> rename_i h0
    · simp only [Output.fail_ne_of, iff_false]
      rintro ⟨a, x, y, -, -, rfl, h, -⟩
      rw [h0] at h
      cases h
    · rw [Bool.not_eq_true] at h0
      constructor
      · rintro ⟨a, x, y, rfl, ha, rfl, -, rfl⟩
        rwa [List.append_nil]
      · intro h
        exact ⟨_, front, [], by simp, h, rfl, h0, rfl⟩

/-! ### Lists -/

/-- No entry is written with no bytes, so only the empty list is. -/
lemma concat_eq_of_nil_iff {r : Reader α} {write : α → Output}
    (hr : r.Recognizes fun a front => write a = .of front) (hp : r.Progress) {as : List α} :
    Output.concat write as = .of [] ↔ as = [] := by
  cases as with
  | nil => simp [Output.concat]
  | cons a as =>
    simp only [reduceCtorEq, iff_false]
    intro h
    change write a ++ Output.concat write as = _ at h
    obtain ⟨x, y, hxy, ha, -⟩ := Output.append_eq_of_iff.mp h
    obtain ⟨rfl, -⟩ := List.nil_eq_append_iff.mp hxy
    have := (hp _ _ _ (hr.read ha [])).1
    simp at this

/-- Entries that are written whole are read off, whatever follows them. -/
lemma entriesAfter_append {r : Reader α} {write : α → Output}
    (hr : r.Recognizes fun a front => write a = .of front) (hp : r.Progress) {seen as : List α}
    {front rest : Bytes} (h : Output.concat write as = .of front) :
    entriesAfter r seen 0 (front ++ rest) = entriesAfter r (as.reverse ++ seen) 0 rest := by
  induction as generalizing seen front with
  | nil =>
    obtain rfl : [] = front := Output.of_eq_of_iff.mp h
    rfl
  | cons a as ih =>
    obtain ⟨x, y, rfl, ha, has⟩ := Output.append_eq_of_iff.mp h
    have hread : r (x ++ (y ++ rest)) = .done a x.length := hr.read ha _
    rw [List.append_assoc, entriesAfter_done hp hread, List.drop_left, ih has, List.reverse_cons,
      List.append_assoc, List.singleton_append]

lemma entriesAfter_of_refusal {r : Reader α} {seen : List α} {bs : Bytes} {e : DecodeError}
    (hne : bs ≠ []) (h : (r bs).refusal? = some e) : entriesAfter r seen 0 bs = .error e := by
  cases bs with
  | nil => exact absurd rfl hne
  | cons b bs =>
    rw [entriesAfter]
    cases hr : r (b :: bs) <;> rw [hr] at h <;> cases h <;> rfl

/-- Every window starts with entries that are written whole, up to its end or to an entry that is
refused. -/
lemma exists_entries {r : Reader α} {write : α → Output}
    (hr : r.Recognizes fun a front => write a = .of front) (hp : r.Progress) (bs : Bytes) :
    ∃ as front rest, bs = front ++ rest ∧ Output.concat write as = .of front ∧
      (rest = [] ∨ rest ≠ [] ∧ ∃ e, (r rest).refusal? = some e) := by
  -- an entry that is read leaves a shorter window behind it
  induction hn : bs.length using Nat.strongRecOn generalizing bs with
  | ind n ih =>
    subst hn
    by_cases hne : bs = []
    · exact ⟨[], [], bs, rfl, rfl, .inl hne⟩
    · cases ha : r bs with
      | short => exact ⟨[], [], bs, rfl, rfl, .inr ⟨hne, _, by rw [ha]; rfl⟩⟩
      | malformed e => exact ⟨[], [], bs, rfl, rfl, .inr ⟨hne, _, by rw [ha]; rfl⟩⟩
      | done a used =>
        have hused := hp _ _ _ ha
        obtain ⟨as, front, rest, hbs, has, hrest⟩ :=
          ih (bs.drop used).length (by rw [List.length_drop]; omega) (bs.drop used) rfl
        refine ⟨a :: as, bs.take used ++ front, rest, ?_, ?_, hrest⟩
        · rw [List.append_assoc, ← hbs, List.take_append_drop]
        · exact Output.append_eq_of_iff.mpr ⟨_, _, rfl, ((hr _ _ _).mp ha).2, has⟩

/-- Entries are read from a window to its end exactly if they are what it spells. -/
lemma entriesAfter_eq_ok_iff {r : Reader α} {write : α → Output}
    (hr : r.Recognizes fun a front => write a = .of front) (hp : r.Progress) {seen as : List α}
    {bs : Bytes} :
    entriesAfter r seen 0 bs = .ok as ↔
      ∃ new, as = seen.reverse ++ new ∧ Output.concat write new = .of bs := by
  constructor
  · intro h
    obtain ⟨new, front, rest, rfl, hnew, rfl | ⟨hne, e, hrefusal⟩⟩ := exists_entries hr hp bs
    · rw [entriesAfter_append hr hp hnew] at h
      cases h
      refine ⟨new, ?_, by rwa [List.append_nil]⟩
      rw [List.reverse_append, List.reverse_reverse]
    · rw [entriesAfter_append hr hp hnew, entriesAfter_of_refusal hne hrefusal] at h
      cases h
  · rintro ⟨new, rfl, h⟩
    rw [← List.append_nil bs, entriesAfter_append hr hp h, entriesAfter, List.reverse_append,
      List.reverse_reverse]

/-- Of several entries in a window the first one that is refused gives the error. -/
lemma entriesAfter_eq_error_iff {r : Reader α} {write : α → Output}
    (hr : r.Recognizes fun a front => write a = .of front) (hp : r.Progress) {seen : List α}
    {bs : Bytes} {e : DecodeError} :
    entriesAfter r seen 0 bs = .error e ↔ ∃ as front rest, bs = front ++ rest ∧
      Output.concat write as = .of front ∧ rest ≠ [] ∧ (r rest).refusal? = some e := by
  constructor
  · intro h
    obtain ⟨as, front, rest, rfl, has, rfl | ⟨hne, e', hrefusal⟩⟩ := exists_entries hr hp bs
    · rw [entriesAfter_append hr hp has] at h
      cases h
    · rw [entriesAfter_append hr hp has, entriesAfter_of_refusal hne hrefusal] at h
      cases h
      exact ⟨as, front, rest, rfl, has, hne, hrefusal⟩
  · rintro ⟨as, front, rest, rfl, has, hne, hrefusal⟩
    rw [entriesAfter_append hr hp has]
    exact entriesAfter_of_refusal hne hrefusal

/-- A list is read from a window exactly if it has entries and the window is what they spell. -/
theorem entries_eq_ok_iff {r : Reader α} {write : α → Output}
    (hr : r.Recognizes fun a front => write a = .of front) (hp : r.Progress) {as : List α}
    {bs : Bytes} : entries r bs = .ok as ↔ as ≠ [] ∧ Output.concat write as = .of bs := by
  rw [entries]
  split <;> rename_i hb
  · rw [List.isEmpty_iff] at hb
    subst hb
    simp [concat_eq_of_nil_iff hr hp]
  · rw [entriesAfter_eq_ok_iff hr hp]
    simp only [List.reverse_nil, List.nil_append, exists_eq_left']
    constructor
    · intro h
      refine ⟨?_, h⟩
      rintro rfl
      rw [Output.concat, List.foldr_nil, Output.of_eq_of_iff] at h
      subst h
      exact hb rfl
    · exact And.right

end Reader

end Mqtt
