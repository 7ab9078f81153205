import CallHierarchy.Proofs.Text.Bytes
import CallHierarchy.Url.Percent
import CallHierarchy.Url.Reference

/-! Percent encoding undone. What has been encoded decodes to itself, whatever follows
(`decodeBytes_encode`), as long as the percent sign is among the characters that are encoded. The
encodings of bytes are in the grammar of URIs, so an encoded text is in it if the characters that
were kept are (`consistsOf_encode_iff`). -/

namespace CallHierarchy

namespace Percent

variable {keep : Char → Bool}

/-! ### Bytes -/

theorem byte?_digits (b : UInt8) : byte? sign (digit (b / 16)) (digit (b % 16)) = some b :=
  Utf8.forall_byte (motive := fun b => byte? sign (digit (b / 16)) (digit (b % 16)) = some b)
    (by decide +kernel) b

theorem flatMap_encodeByte (b : UInt8) : (encodeByte b).flatMap String.utf8EncodeChar =
    [sign, digit (b / 16), digit (b % 16)] :=
  Utf8.forall_byte (motive := fun b => (encodeByte b).flatMap String.utf8EncodeChar =
    [sign, digit (b / 16), digit (b % 16)]) (by decide +kernel) b

theorem decodeBytes_cons {a : UInt8} (h : a ≠ sign) (rest : List UInt8) :
    decodeBytes (a :: rest) = a :: decodeBytes rest := by
  match rest with
  | [] => rfl
  | [_] => rfl
  | hi :: lo :: rest =>
    have hbyte : byte? a hi lo = none := if_neg h
    rw [decodeBytes, hbyte]

theorem decodeBytes_encodeByte (b : UInt8) (rest : List UInt8) :
    decodeBytes ((encodeByte b).flatMap String.utf8EncodeChar ++ rest) = b :: decodeBytes rest := by
  rw [flatMap_encodeByte, List.cons_append, List.cons_append, List.cons_append, List.nil_append,
    decodeBytes, byte?_digits]

theorem decodeBytes_flatMap_encodeByte (bytes rest : List UInt8) :
    decodeBytes ((bytes.flatMap encodeByte).flatMap String.utf8EncodeChar ++ rest) =
      bytes ++ decodeBytes rest := by
  induction bytes with
  | nil => rfl
  | cons b bytes ih =>
    rw [List.flatMap_cons, List.flatMap_append, List.append_assoc, decodeBytes_encodeByte, ih,
      List.cons_append]

/-! ### Texts -/

theorem encode_cons (c : Char) (cs : List Char) : encode keep (c :: cs) =
    (if keep c then [c] else (String.utf8EncodeChar c).flatMap encodeByte) ++ encode keep cs := by
  have hbytes : Utf8.encode (String.singleton c) = String.utf8EncodeChar c := by
    have hsingle := Utf8.encode_ofList [c]
    rwa [List.flatMap_singleton] at hsingle
  rw [encode, List.flatMap_cons, hbytes]
  rfl

theorem encode_eq_nil {cs : List Char} : encode keep cs = [] ↔ cs = [] := by
  cases cs with
  | nil => exact iff_of_true rfl rfl
  | cons c cs =>
    refine iff_of_false (fun h => ?_) (List.cons_ne_nil c cs)
    rw [encode_cons, List.append_eq_nil_iff] at h
    have hfirst := h.1
    split at hfirst
    · cases hfirst
    · obtain ⟨b, hb⟩ := List.exists_mem_of_length_pos (l := String.utf8EncodeChar c)
        (String.length_utf8EncodeChar c ▸ c.utf8Size_pos)
      exact absurd (List.flatMap_eq_nil_iff.1 hfirst b hb) (List.cons_ne_nil _ _)

theorem decodeBytes_encode (hkeep : ∀ c, keep c = true → c.toNat < 128 ∧ c ≠ '%')
    (cs : List Char) (rest : List UInt8) :
    decodeBytes ((encode keep cs).flatMap String.utf8EncodeChar ++ rest) =
      cs.flatMap String.utf8EncodeChar ++ decodeBytes rest := by
  induction cs with
  | nil => rfl
  | cons c cs ih =>
    rw [encode_cons, List.flatMap_append, List.append_assoc, List.flatMap_cons, List.append_assoc,
      ← ih]
    split
    · next hc =>
      obtain ⟨hascii, hne⟩ := hkeep c hc
      have hbyte : c.toNat.toUInt8 ≠ sign := by
        intro heq
        have hcode : c.toNat % 256 = 37 := congrArg UInt8.toNat heq
        have hsign : '%'.toNat = 37 := rfl
        exact hne (Char.toNat_inj.1 (by omega))
      rw [List.flatMap_singleton, Utf8.encodeChar_of_lt hascii, List.singleton_append,
        decodeBytes_cons hbyte, List.singleton_append]
    · rw [decodeBytes_flatMap_encodeByte]

theorem decode?_eq_some {cs ds : List Char}
    (h : decodeBytes (cs.flatMap String.utf8EncodeChar) = ds.flatMap String.utf8EncodeChar) :
    decode? cs = some ds := by
  rw [decode?, Utf8.encode_ofList, h, ← Utf8.encode_ofList, Utf8.decode?_encode, Option.map_some,
    String.toList_ofList]

end Percent

namespace Reference

variable {keep allowed : Char → Bool}

theorem isPathChar_of_isHexDigit {c : Char} (h : isHexDigit c = true) : isPathChar c = true := by
  have halphanum : c.isAlphanum = true := by
    unfold Char.isAlphanum Char.isAlpha Char.isUpper Char.isLower
    simp only [Bool.or_eq_true, Bool.and_eq_true, decide_eq_true_eq]
    rw [isHexDigit, Ipv4.digit?] at h
    split at h
    · next hdigit => exact .inr hdigit
    split at h
    · next hlower => exact .inl (.inr ⟨hlower.1, UInt32.le_trans hlower.2 (by decide)⟩)
    split at h
    · next hupper => exact .inl (.inl ⟨hupper.1, UInt32.le_trans hupper.2 (by decide)⟩)
    · cases h
  simp only [isPathChar, isNameChar, isUnreserved, halphanum, Bool.true_or]

theorem consistsOf_cons {c : Char} (h : c ≠ '%') (cs : List Char) :
    consistsOf allowed (c :: cs) = (allowed c && consistsOf allowed cs) := by
  rw [consistsOf]
  intro _ _ _ hc _
  exact h hc

theorem isHexDigit_digits (b : UInt8) :
    isHexDigit (Char.ofNat (Percent.digit (b / 16)).toNat) = true ∧
      isHexDigit (Char.ofNat (Percent.digit (b % 16)).toNat) = true :=
  Utf8.forall_byte (motive := fun b =>
    isHexDigit (Char.ofNat (Percent.digit (b / 16)).toNat) = true ∧
      isHexDigit (Char.ofNat (Percent.digit (b % 16)).toNat) = true) (by decide +kernel) b

theorem isHexDigit_of_mem_encodeByte {b : UInt8} {c : Char} (h : c ∈ Percent.encodeByte b) :
    isHexDigit c = true ∨ c = '%' := by
  obtain ⟨hhigh, hlow⟩ := isHexDigit_digits b
  simp only [Percent.encodeByte, List.mem_cons, List.not_mem_nil, or_false] at h
  rcases h with rfl | rfl | rfl
  · exact .inr rfl
  · exact .inl hhigh
  · exact .inl hlow

theorem consistsOf_encodeByte (b : UInt8) (rest : List Char) :
    consistsOf allowed (Percent.encodeByte b ++ rest) = consistsOf allowed rest := by
  obtain ⟨hhigh, hlow⟩ := isHexDigit_digits b
  rw [Percent.encodeByte, List.cons_append, List.cons_append, List.cons_append, List.nil_append,
    consistsOf, hhigh, hlow, Bool.true_and, Bool.true_and]

theorem consistsOf_flatMap_encodeByte (bytes : List UInt8) (rest : List Char) :
    consistsOf allowed (bytes.flatMap Percent.encodeByte ++ rest) = consistsOf allowed rest := by
  induction bytes with
  | nil => rfl
  | cons b bytes ih =>
    rw [List.flatMap_cons, List.append_assoc, consistsOf_encodeByte, ih]

/-- An encoded text is in the grammar if its characters are allowed or percent signs. -/
theorem consistsOf_encode_iff (hkeep : ∀ c, keep c = true → c ≠ '%')
    (hdigit : ∀ c, isHexDigit c = true → allowed c = true) (cs rest : List Char) :
    consistsOf allowed (Percent.encode keep cs ++ rest) = true ↔
      (∀ c ∈ Percent.encode keep cs, allowed c = true ∨ c = '%') ∧
        consistsOf allowed rest = true := by
  induction cs with
  | nil => simp [Percent.encode]
  | cons c cs ih =>
    rw [Percent.encode_cons, List.append_assoc]
    split
    · next hc =>
      have hne := hkeep c hc
      rw [List.singleton_append, consistsOf_cons hne, Bool.and_eq_true, ih]
      simp [hne, and_assoc]
    · have hbytes : ∀ d ∈ (String.utf8EncodeChar c).flatMap Percent.encodeByte,
          allowed d = true ∨ d = '%' := by
        intro d hd
        obtain ⟨b, -, hb⟩ := List.mem_flatMap.1 hd
        exact (isHexDigit_of_mem_encodeByte hb).imp_left (hdigit d)
      rw [consistsOf_flatMap_encodeByte, ih, List.forall_mem_append]
      exact ⟨fun h => ⟨⟨hbytes, h.1⟩, h.2⟩, fun h => ⟨h.1.2, h.2⟩⟩

end Reference

end CallHierarchy
