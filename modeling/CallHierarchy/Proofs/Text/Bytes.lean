import CallHierarchy.Text.Utf8

/-! Text among the bytes of a text. No character begins in the middle of the bytes of another one,
so where the bytes of a text stand among those of a line, the text itself stands in the line
(`stands_iff_prefix`). -/

namespace CallHierarchy.Utf8

variable {s : String} {b : UInt8} {n : Nat} {text line : List Char}

/-- What holds of the bytes below 256 holds of all. -/
theorem forall_byte {motive : UInt8 → Prop} (h : ∀ n < 256, motive (UInt8.ofNat n)) (b : UInt8) :
    motive b := by
  have hb := h b.toNat b.toNat_lt
  rwa [UInt8.ofNat_toNat] at hb

/-- Every byte of a character outside of ASCII is at least 128. -/
theorem le_of_mem_encodeChar {c : Char} (h : 128 ≤ c.toNat) {b : UInt8}
    (hb : b ∈ String.utf8EncodeChar c) : 128 ≤ b.toNat := by
  have hc : c.val.toNat = c.toNat := rfl
  unfold String.utf8EncodeChar at hb
  simp only [hc] at hb
  split at hb
  · omega
  · split at hb
    · simp only [List.mem_cons, List.not_mem_nil, or_false] at hb
      rcases hb with rfl | rfl <;> (rw [UInt8.toNat_ofNat']; omega)
    · split at hb
      · simp only [List.mem_cons, List.not_mem_nil, or_false] at hb
        rcases hb with rfl | rfl | rfl <;> (rw [UInt8.toNat_ofNat']; omega)
      · simp only [List.mem_cons, List.not_mem_nil, or_false] at hb
        rcases hb with rfl | rfl | rfl | rfl <;> (rw [UInt8.toNat_ofNat']; omega)

/-- The first byte of a text begins a character. -/
theorem isFirst_of_head? (h : (encode s).head? = some b) : b.IsUTF8FirstByte := by
  rw [List.head?_eq_getElem?] at h
  obtain ⟨hlt, hb⟩ := List.getElem?_eq_some_iff.1 h
  rw [length_encode] at hlt
  have hstart : String.Pos.Raw.IsValid s ⟨0⟩ :=
    String.Pos.Raw.isValid_iff_exists_append.2 ⟨"", s, by simp, rfl⟩
  rcases String.Pos.Raw.isValid_iff_isUTF8FirstByte.1 hstart with hend | ⟨_, hfirst⟩
  · have hempty : 0 = s.utf8ByteSize := congrArg String.Pos.Raw.byteIdx hend
    omega
  · rw [← hb]
    exact hfirst

/-- Where a byte begins a character, the text can be cut. -/
theorem exists_append_of_isFirst (h : (encode s)[n]? = some b) (hfirst : b.IsUTF8FirstByte) :
    ∃ before after, s = before ++ after ∧ n = before.utf8ByteSize := by
  obtain ⟨hlt, hb⟩ := List.getElem?_eq_some_iff.1 h
  rw [length_encode] at hlt
  rw [← hb] at hfirst
  have hvalid : String.Pos.Raw.IsValid s ⟨n⟩ :=
    String.Pos.Raw.isValid_iff_isUTF8FirstByte.2 (.inr ⟨hlt, hfirst⟩)
  obtain ⟨before, after, hs, hn⟩ := String.Pos.Raw.isValid_iff_exists_append.1 hvalid
  exact ⟨before, after, hs, congrArg String.Pos.Raw.byteIdx hn⟩

/-- A text begins with another one if its bytes do. -/
theorem prefix_of_encode (h : encode (String.ofList text) <+: encode (String.ofList line)) :
    text <+: line := by
  induction text generalizing line with
  | nil => exact List.nil_prefix
  | cons c text ih =>
    obtain ⟨tail, htail⟩ := h
    rw [encode_ofList, encode_ofList] at htail
    cases line with
    | nil =>
      have hlength := congrArg List.length htail
      have hpos := c.utf8Size_pos
      simp only [List.flatMap_cons, List.flatMap_nil, List.length_append, List.length_nil,
        String.length_utf8EncodeChar] at hlength
      omega
    | cons d line =>
      -- The character that is read off the front of the bytes is the first one of both.
      have hbytes : [c].utf8Encode ++ (text.flatMap String.utf8EncodeChar ++ tail).toByteArray =
          (d :: line).utf8Encode := by
        rw [List.utf8Encode, List.utf8Encode, ← htail, ← List.toByteArray_append]
        simp only [List.flatMap_cons, List.flatMap_nil, List.append_nil, List.append_assoc]
      have hread : (d :: line).utf8Encode.utf8DecodeChar? 0 = some d :=
        List.utf8DecodeChar?_utf8Encode_cons
      rw [← hbytes, List.utf8DecodeChar?_utf8Encode_singleton_append] at hread
      obtain rfl := Option.some.inj hread
      rw [List.flatMap_cons, List.flatMap_cons, List.append_assoc] at htail
      refine List.cons_prefix_cons.2 ⟨rfl, ih ⟨tail, ?_⟩⟩
      rw [encode_ofList, encode_ofList]
      exact List.append_cancel_left htail

/-- A text stands at a column of a line just where its bytes do. -/
theorem stands_iff_prefix (h : text ≠ []) :
    (∃ before after, line = before ++ text ++ after ∧ n = width before) ↔
      encode (String.ofList text) <+: (encode (String.ofList line)).drop n := by
  constructor
  · rintro ⟨before, after, rfl, rfl⟩
    rw [List.append_assoc, encode_ofList_append, encode_ofList_append, ← length_encode_ofList,
      List.drop_left]
    exact List.prefix_append _ _
  · intro hbytes
    obtain ⟨c, text', rfl⟩ := List.exists_cons_of_ne_nil h
    obtain ⟨b, hb⟩ : ∃ b, (encode (String.ofList (c :: text'))).head? = some b := by
      refine Option.ne_none_iff_exists'.1 fun hnone => ?_
      have hlength := length_encode_ofList (c :: text')
      rw [List.head?_eq_none_iff.1 hnone, List.length_nil, width_cons] at hlength
      have hpos := c.utf8Size_pos
      omega
    have hat : (encode (String.ofList line))[n]? = some b := by
      obtain ⟨tail, htail⟩ := hbytes
      rw [← Nat.add_zero n, ← List.getElem?_drop, ← htail, ← List.head?_eq_getElem?,
        List.head?_append, hb]
      rfl
    obtain ⟨before, after, hline, rfl⟩ := exists_append_of_isFirst hat (isFirst_of_head? hb)
    obtain ⟨rest, hrest⟩ : c :: text' <+: after.toList := by
      rw [hline, encode_append, ← length_encode, List.drop_left] at hbytes
      refine prefix_of_encode ?_
      rwa [String.ofList_toList]
    refine ⟨before.toList, rest, ?_, (width_toList before).symm⟩
    rw [List.append_assoc, hrest, ← String.toList_append, ← hline, String.toList_ofList]

end CallHierarchy.Utf8
