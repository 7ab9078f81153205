/-! UTF-8: the bytes of a text, the text of bytes, and the number of bytes that characters take.
Reading undoes writing (`decode?_encode`), and only the bytes of a text can be read
(`decode?_eq_some_iff`). -/

namespace CallHierarchy.Utf8

/-- The bytes of a text. -/
def encode (s : String) : List UInt8 := s.toByteArray.data.toList

/-- The text whose bytes these are, if they are those of a text. -/
def decode? (bytes : List UInt8) : Option String := String.fromUTF8? ⟨bytes.toArray⟩

/-- The number of bytes that the characters take. -/
def width : List Char → Nat
  | [] => 0
  | c :: cs => c.utf8Size + width cs

@[simp] theorem width_nil : width [] = 0 := rfl

@[simp] theorem width_cons (c : Char) (cs : List Char) : width (c :: cs) = c.utf8Size + width cs :=
  rfl

@[simp] theorem width_append (a b : List Char) : width (a ++ b) = width a + width b := by
  induction a with
  | nil => simp
  | cons c a ih => simp [ih, Nat.add_assoc]

theorem encode_ofList (cs : List Char) :
    encode (String.ofList cs) = cs.flatMap String.utf8EncodeChar := by
  rw [encode, String.toByteArray_ofList, List.utf8Encode]
  simp

theorem encode_append (a b : String) : encode (a ++ b) = encode a ++ encode b := by
  simp [encode, String.toByteArray_append]

theorem length_encode (s : String) : (encode s).length = s.utf8ByteSize := by
  simp [encode]

theorem width_toList (s : String) : width s.toList = s.utf8ByteSize := by
  have hlength (cs : List Char) : (cs.flatMap String.utf8EncodeChar).length = width cs := by
    induction cs with
    | nil => rfl
    | cons c cs ih =>
      rw [List.flatMap_cons, List.length_append, ih, String.length_utf8EncodeChar, width_cons]
  rw [← hlength, ← encode_ofList, length_encode, String.ofList_toList]

theorem length_encode_ofList (cs : List Char) : (encode (String.ofList cs)).length = width cs := by
  rw [length_encode, ← width_toList, String.toList_ofList]

theorem encode_ofList_append (a b : List Char) :
    encode (String.ofList (a ++ b)) = encode (String.ofList a) ++ encode (String.ofList b) := by
  rw [String.ofList_append, encode_append]

theorem utf8Size_of_lt {c : Char} (h : c.toNat < 128) : c.utf8Size = 1 :=
  Char.utf8Size_eq_one_iff.2 (by
    rw [UInt32.le_iff_toNat_le]
    exact Nat.le_of_lt_succ h)

theorem width_eq_length {cs : List Char} (h : ∀ c ∈ cs, c.toNat < 128) : width cs = cs.length := by
  induction cs with
  | nil => rfl
  | cons c cs ih =>
    rw [width_cons, utf8Size_of_lt (h c (by simp)), ih fun d hd => h d (List.mem_cons_of_mem _ hd),
      List.length_cons, Nat.add_comm]

/-- The byte of an ASCII character is its code. -/
theorem encodeChar_of_lt {c : Char} (h : c.toNat < 128) :
    String.utf8EncodeChar c = [c.toNat.toUInt8] := by
  rw [String.utf8EncodeChar_eq_singleton (utf8Size_of_lt h)]
  rfl

/-- Text of ASCII characters has no bytes but their codes. -/
theorem not_mem_encode {s : String} {b : UInt8}
    (h : ∀ c ∈ s.toList, c.toNat < 128 ∧ c.toNat ≠ b.toNat) : b ∉ encode s := by
  rw [← String.ofList_toList (s := s), encode_ofList]
  intro hb
  obtain ⟨c, hc, hbc⟩ := List.mem_flatMap.1 hb
  obtain ⟨hlt, hne⟩ := h c hc
  rw [encodeChar_of_lt hlt, List.mem_singleton] at hbc
  apply hne
  rw [hbc, UInt8.toNat_ofNat']
  omega

theorem decode?_eq_some_iff {bytes : List UInt8} {s : String} :
    decode? bytes = some s ↔ encode s = bytes := by
  unfold decode? encode String.fromUTF8?
  split
  · next h =>
    constructor
    · rintro ⟨⟩
      rfl
    · intro hs
      have hb : s.toByteArray = ⟨bytes.toArray⟩ := by
        apply ByteArray.ext
        simp [← hs]
      simp only [String.fromUTF8, Option.some.injEq]
      exact String.toByteArray_inj.1 hb.symm
  · next h =>
    constructor
    · simp
    · intro hs
      refine absurd ?_ h
      have hb : (⟨bytes.toArray⟩ : ByteArray) = s.toByteArray := by
        apply ByteArray.ext
        simp [← hs]
      rw [hb]
      simpa using s.isValidUTF8

@[simp] theorem decode?_encode (s : String) : decode? (encode s) = some s :=
  decode?_eq_some_iff.2 rfl

end CallHierarchy.Utf8
