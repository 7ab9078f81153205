import CallHierarchy.Path
import CallHierarchy.Proofs.Url.File
import CallHierarchy.Proofs.Url.Percent

/-! Paths that go into URIs and come back. In the URI of a path whatever means something to a reader
of URLs is encoded, save that a component may lead up. So the path that the URI names is the path
through the same components (`ofUri_toUri`). What is not encoded and has no place in a URI either
is a bracket, a caret or a bar (`exists_toUri_iff_components`). -/

namespace CallHierarchy

theorem Uri.ofString?_eq_some {s : String} {uri : Uri} :
    Uri.ofString? s = some uri ↔ uri.text = s := by
  rw [Uri.ofString?, Option.dite_none_right_eq_some]
  constructor
  · rintro ⟨_, h⟩
    exact (congrArg Uri.text (Option.some.inj h)).symm
  · rintro rfl
    exact ⟨uri.isReference, rfl⟩

namespace Path

open FileUrl

/-! ### Components -/

theorem lt_of_staysInUri {c : Char} (h : staysInUri c = true) : c.toNat < 128 := by
  simp only [staysInUri, Bool.and_eq_true, decide_eq_true_eq] at h
  omega

/-- What holds of the ASCII characters that stay as they are holds of all that do. -/
theorem forall_staysInUri {motive : Char → Prop}
    (h : ∀ n < 128, staysInUri (Char.ofNat n) = true → motive (Char.ofNat n)) {c : Char}
    (hstays : staysInUri c = true) : motive c := by
  have hc := h c.toNat (lt_of_staysInUri hstays)
  rw [Char.ofNat_toNat] at hc
  exact hc hstays

theorem of_staysInUri {c : Char} (h : staysInUri c = true) :
    0x20 < c.toNat ∧ c ≠ '%' ∧ isSlash c = false ∧ endsPath c = false :=
  forall_staysInUri (motive := fun c => 0x20 < c.toNat ∧ c ≠ '%' ∧ isSlash c = false ∧
    endsPath c = false) (by decide +kernel) h

theorem of_mem_encodeByte {b : UInt8} {c : Char} (h : c ∈ Percent.encodeByte b) :
    0x20 < c.toNat ∧ isSlash c = false ∧ endsPath c = false := by
  have hall : ((Percent.encodeByte b).all fun c =>
      0x20 < c.toNat && !isSlash c && !endsPath c) = true :=
    Utf8.forall_byte (motive := fun b => ((Percent.encodeByte b).all fun c =>
      0x20 < c.toNat && !isSlash c && !endsPath c) = true) (by decide +kernel) b
  simpa [and_assoc] using List.all_eq_true.1 hall c h

theorem of_mem_encode {part : List Char} {c : Char} (h : c ∈ Percent.encode staysInUri part) :
    0x20 < c.toNat ∧ isSlash c = false ∧ endsPath c = false := by
  obtain ⟨d, -, hd⟩ := List.mem_flatMap.1 h
  split at hd
  · next hstays =>
    obtain rfl := List.mem_singleton.1 hd
    obtain ⟨hvisible, -, hslash, hend⟩ := of_staysInUri hstays
    exact ⟨hvisible, hslash, hend⟩
  · obtain ⟨b, -, hb⟩ := List.mem_flatMap.1 hd
    exact of_mem_encodeByte hb

/-- The byte of a dot stands in the encoding of no other character. -/
theorem eq_dot_of_mem {c : Char} (h : 46 ∈ String.utf8EncodeChar c) : c = '.' := by
  have hascii : c.toNat < 128 := by
    by_contra hle
    exact absurd (Utf8.le_of_mem_encodeChar (Nat.not_lt.1 hle) h) (by decide)
  rw [Utf8.encodeChar_of_lt hascii, List.mem_singleton] at h
  have hcode : 46 = c.toNat % 256 := congrArg UInt8.toNat h
  have hdot : '.'.toNat = 46 := rfl
  exact Char.toNat_inj.1 (by omega)

theorem afterDot?_encodeByte {b : UInt8} (h : b ≠ 46) (rest : List Char) :
    afterDot? (Percent.encodeByte b ++ rest) = none := by
  have hdigits : Percent.encodeByte b ≠ ['%', '2', 'e'] ∧ Percent.encodeByte b ≠ ['%', '2', 'E'] :=
    Utf8.forall_byte (motive := fun b => b ≠ 46 → Percent.encodeByte b ≠ ['%', '2', 'e'] ∧
      Percent.encodeByte b ≠ ['%', '2', 'E']) (by decide +kernel) b h
  simp only [Percent.encodeByte, ne_eq, List.cons.injEq, true_and, and_true] at hdigits
  simp only [Percent.encodeByte, List.cons_append, List.nil_append]
  unfold afterDot?
  split
  · next heq => cases heq
  · next heq =>
    simp only [List.cons.injEq, true_and] at heq
    exact absurd ⟨heq.1, heq.2.1⟩ hdigits.1
  · next heq =>
    simp only [List.cons.injEq, true_and] at heq
    exact absurd ⟨heq.1, heq.2.1⟩ hdigits.2
  · rfl

/-- Of an encoded text, only a dot that was there before is read as a dot. -/
theorem afterDot?_encode {part rest : List Char}
    (h : afterDot? (Percent.encode staysInUri part) = some rest) :
    ∃ part', part = '.' :: part' ∧ rest = Percent.encode staysInUri part' := by
  cases part with
  | nil => cases h
  | cons c part =>
    rw [Percent.encode_cons] at h
    split at h
    · next hstays =>
      have hsign := (of_staysInUri hstays).2.1
      rw [List.singleton_append] at h
      unfold afterDot? at h
      split at h
      · next heq =>
        obtain ⟨rfl, rfl⟩ := List.cons.inj heq
        exact ⟨part, rfl, (Option.some.inj h).symm⟩
      · next heq => exact absurd (List.cons.inj heq).1 hsign
      · next heq => exact absurd (List.cons.inj heq).1 hsign
      · cases h
    · next hstays =>
      -- A dot is not encoded, so the byte behind the percent sign is not that of a dot.
      obtain ⟨b, bytes, hbytes⟩ : ∃ b bytes, String.utf8EncodeChar c = b :: bytes :=
        List.exists_cons_of_length_pos (String.length_utf8EncodeChar c ▸ c.utf8Size_pos)
      have hb : b ≠ 46 := fun hb =>
        hstays (eq_dot_of_mem (hb ▸ hbytes ▸ List.mem_cons_self) ▸ by decide)
      rw [hbytes, List.flatMap_cons, List.append_assoc, afterDot?_encodeByte hb] at h
      cases h

/-- A component that is neither a dot nor leads up is read as it is encoded. -/
theorem isSegment_encode {part : List Char} (hdot : part ≠ ['.']) (hup : part ≠ ['.', '.']) :
    IsSegment (Percent.encode staysInUri part) := by
  have heq_dot : ∀ {part}, isDot (Percent.encode staysInUri part) = true → part = ['.'] := by
    intro part h
    obtain ⟨part', rfl, hrest⟩ := afterDot?_encode (eq_of_beq h)
    rw [Percent.encode_eq_nil.1 hrest.symm]
  refine ⟨fun c hc => (of_mem_encode hc).1, fun c hc => (of_mem_encode hc).2.1,
    fun c hc => (of_mem_encode hc).2.2, Bool.eq_false_iff.2 fun h => hdot (heq_dot h),
    Bool.eq_false_iff.2 fun h => hup ?_⟩
  obtain ⟨rest, hrest, hlast⟩ := (Option.any_eq_true _ _).1 h
  obtain ⟨part', rfl, rfl⟩ := afterDot?_encode hrest
  rw [heq_dot hlast]

theorem of_mem_components {path part : List Char} (h : part ∈ components path) :
    part ≠ [] ∧ part ≠ ['.'] := by
  simpa using (List.mem_filter.1 h).2

/-! ### The URI of a path -/

/-- The components of a path, encoded. An empty one stands for none. -/
def encodedParts (path : List Char) : List (List Char) :=
  (if components path = [] then [[]] else components path).map (Percent.encode staysInUri)

theorem uriText_eq (path : List Char) : uriText path = ofSegments (encodedParts path) := by
  unfold uriText encodedParts ofSegments
  generalize components path = parts
  cases parts with
  | nil => rfl
  | cons part rest => rw [if_neg (List.cons_ne_nil part rest), List.flatMap_map]

theorem ofComponents_eq (parts : List (List Char)) :
    ofComponents parts = (if parts = [] then [[]] else parts).flatMap ('/' :: ·) := by
  have hjoin : ∀ part rest,
      '/' :: Text.join ['/'] (part :: rest) = (part :: rest).flatMap ('/' :: ·) := by
    intro part rest
    induction rest generalizing part with
    | nil => simp [Text.join]
    | cons second rest ih =>
      rw [Text.join, List.flatMap_cons, ← ih, List.append_assoc]
      · rfl
      · exact List.cons_ne_nil _ _
  cases parts with
  | nil => rfl
  | cons part rest => exact hjoin part rest

variable {path : List Char}

theorem isSegment_encodedParts (hup : ['.', '.'] ∉ components path) :
    ∀ segment ∈ encodedParts path, IsSegment segment := by
  intro segment hsegment
  obtain ⟨part, hpart, rfl⟩ := List.mem_map.1 hsegment
  split at hpart
  · obtain rfl := List.mem_singleton.1 hpart
    exact isSegment_encode (by decide) (by decide)
  · exact isSegment_encode (of_mem_components hpart).2 fun h => hup (h ▸ hpart)

theorem first_encodedParts :
    encodedParts path = [[]] ∨ encodedParts path ≠ [] ∧ [] ∉ encodedParts path := by
  by_cases h : components path = []
  · rw [encodedParts, if_pos h]
    exact .inl rfl
  · rw [encodedParts, if_neg h]
    refine .inr ⟨by simpa using h, fun hempty => ?_⟩
    obtain ⟨part, hpart, hnil⟩ := List.mem_map.1 hempty
    exact (of_mem_components hpart).1 (Percent.encode_eq_nil.1 hnil)

theorem decode?_flatMap_encode (parts : List (List Char)) :
    Percent.decode? ((parts.map (Percent.encode staysInUri)).flatMap ('/' :: ·)) =
      some (parts.flatMap ('/' :: ·)) := by
  have hkeep : ∀ c, staysInUri c = true → c.toNat < 128 ∧ c ≠ '%' := fun c hc =>
    ⟨lt_of_staysInUri hc, (of_staysInUri hc).2.1⟩
  have hslash : String.utf8EncodeChar '/' = [47] := by decide
  refine Percent.decode?_eq_some ?_
  induction parts with
  | nil => rfl
  | cons part rest ih =>
    rw [List.map_cons, List.flatMap_cons, List.flatMap_cons, List.flatMap_append,
      List.flatMap_append, List.flatMap_cons, List.flatMap_cons, hslash, List.append_assoc,
      List.append_assoc, List.singleton_append, List.singleton_append,
      Percent.decodeBytes_cons (by decide), Percent.decodeBytes_encode hkeep, ih]

theorem ofUri_uriText (hup : ['.', '.'] ∉ components path) :
    ofUri .posix (String.ofList (uriText path)) =
      String.ofList (ofComponents (components path)) := by
  have hparse := parse?_ofSegments (isSegment_encodedParts hup) first_encodedParts
  have hfile : ofFileUri? .posix (uriText path) = some (ofComponents (components path)) := by
    rw [ofFileUri?, uriText_eq, hparse]
    simp only [Option.bind_eq_bind, Option.bind_some, path_ofSegments, encodedParts,
      decode?_flatMap_encode, ← ofComponents_eq]
    rfl
  rw [ofUri, String.toList_ofList, hfile]

theorem consistsOf_flatMap_encode_iff (parts : List (List Char)) :
    Reference.consistsOf Reference.isPathChar
        ((parts.map (Percent.encode staysInUri)).flatMap ('/' :: ·)) = true ↔
      ∀ c ∈ (parts.map (Percent.encode staysInUri)).flatMap ('/' :: ·),
        Reference.isPathChar c = true ∨ c = '%' := by
  have hkeep : ∀ c, staysInUri c = true → c ≠ '%' := fun c hc => (of_staysInUri hc).2.1
  have hslash : Reference.isPathChar '/' = true := by decide
  induction parts with
  | nil => simp [Reference.consistsOf]
  | cons part rest ih =>
    rw [List.map_cons, List.flatMap_cons, List.cons_append, Reference.consistsOf_cons (by decide),
      Bool.and_eq_true, Reference.consistsOf_encode_iff hkeep
        fun _ => Reference.isPathChar_of_isHexDigit]
    rw [List.forall_mem_cons, List.forall_mem_append]
    exact and_congr (iff_of_true hslash (.inl hslash)) (and_congr_right fun _ => ih)

theorem accepts_uriText (path : List Char) : Reference.accepts (uriText path) =
    Reference.consistsOf Reference.isPathChar ((encodedParts path).flatMap ('/' :: ·)) := by
  rw [uriText_eq, accepts_ofSegments]
  intro segment hsegment c hc
  obtain ⟨part, -, rfl⟩ := List.mem_map.1 hsegment
  exact (of_mem_encode hc).2.2

theorem accepts_uriText_iff (path : List Char) : Reference.accepts (uriText path) = true ↔
    ∀ c ∈ uriText path, Reference.isPathChar c = true ∨ c = '%' := by
  have hscheme : "file://".toList.all Reference.isPathChar = true := by decide
  rw [accepts_uriText, uriText_eq, encodedParts, consistsOf_flatMap_encode_iff]
  unfold ofSegments
  rw [List.forall_mem_append]
  exact ⟨fun h => ⟨fun c hc => .inl (List.all_eq_true.1 hscheme c hc), h⟩, fun h => h.2⟩

theorem toUri_eq_ok_iff {path : String} (hne : path ≠ "") {uri : Uri} :
    toUri path = .ok uri ↔ uri.text = String.ofList (uriText path.toList) := by
  have hempty : path.isEmpty = false := by simpa using hne
  rw [toUri, hempty]
  simp only [Bool.false_eq_true, if_false, ← Uri.ofString?_eq_some]
  cases Uri.ofString? (String.ofList (uriText path.toList)) <;> simp

theorem exists_toUri_iff {path : String} (hne : path ≠ "") :
    (∃ uri, toUri path = .ok uri) ↔ Reference.accepts (uriText path.toList) = true := by
  constructor
  · rintro ⟨uri, h⟩
    have haccepts := uri.isReference
    rwa [(toUri_eq_ok_iff hne).1 h, String.toList_ofList] at haccepts
  · intro haccepts
    exact ⟨⟨_, (String.toList_ofList (l := uriText path.toList)).symm ▸ haccepts⟩,
      (toUri_eq_ok_iff hne).2 rfl⟩

/-- An absolute path without a component that leads up has a URI if the characters of that URI are
those that the grammar allows. The path that this URI names is the one through the components of the
first. -/
theorem ofUri_toUri {path : String} (hroot : path.toList.head? = some '/')
    (hup : ['.', '.'] ∉ components path.toList) :
    ((∃ uri, toUri path = .ok uri) ↔
        ∀ c ∈ uriText path.toList, Reference.isPathChar c = true ∨ c = '%') ∧
      ∀ uri, toUri path = .ok uri →
        ofUri .posix uri.text = String.ofList (ofComponents (components path.toList)) := by
  have hne : path ≠ "" := by
    rintro rfl
    cases hroot
  refine ⟨(exists_toUri_iff hne).trans (accepts_uriText_iff _), fun uri h => ?_⟩
  rw [(toUri_eq_ok_iff hne).1 h, ofUri_uriText hup]

theorem ofUri_toUri_driveAndDots :
    let path := "/C:/a b//%2e%2e/./é?#\\\t/"
    path.toList.head? = some '/' ∧ ['.', '.'] ∉ components path.toList ∧
      ∃ uri, toUri path = .ok uri ∧ ofUri .posix uri.text = "/C:/a b/%2e%2e/é?#\\\t" := by
  intro path
  have hroot : path.toList.head? = some '/' := by decide +kernel
  have hup : ['.', '.'] ∉ components path.toList := by decide +kernel
  obtain ⟨hexists, hnamed⟩ := ofUri_toUri hroot hup
  have hallowed : ((uriText path.toList).all fun c =>
      Reference.isPathChar c || c == '%') = true := by decide +kernel
  obtain ⟨uri, huri⟩ := hexists.2 fun c hc => by simpa using List.all_eq_true.1 hallowed c hc
  refine ⟨hroot, hup, uri, huri, (hnamed uri huri).trans ?_⟩
  decide +kernel

/-! ### Paths without a URI -/

theorem isPathChar_iff {c : Char} (h : staysInUri c = true) :
    Reference.isPathChar c = true ↔ c ∉ ['[', ']', '^', '|'] :=
  forall_staysInUri (motive := fun c => Reference.isPathChar c = true ↔ c ∉ ['[', ']', '^', '|'])
    (by decide +kernel) h

theorem forall_mem_encode_iff (part : List Char) :
    (∀ c ∈ Percent.encode staysInUri part, Reference.isPathChar c = true ∨ c = '%') ↔
      ∀ c ∈ part, c ∉ ['[', ']', '^', '|'] := by
  induction part with
  | nil => simp [Percent.encode]
  | cons c part ih =>
    rw [Percent.encode_cons, List.forall_mem_append, List.forall_mem_cons, ih]
    refine and_congr_left fun _ => ?_
    split
    · next hstays => simp [isPathChar_iff hstays, (of_staysInUri hstays).2.1]
    · next hstays =>
      refine iff_of_true (fun d hd => ?_) fun hc => hstays ?_
      · obtain ⟨b, -, hb⟩ := List.mem_flatMap.1 hd
        exact (Reference.isHexDigit_of_mem_encodeByte hb).imp_left
          Reference.isPathChar_of_isHexDigit
      · exact List.all_eq_true.1 (by decide : ['[', ']', '^', '|'].all staysInUri = true) c hc

/-- What keeps a path from having a URI is a bracket, a caret or a bar. Such a character is not
encoded, and the grammar has no place for it in a path. -/
theorem exists_toUri_iff_components {path : String} (hne : path ≠ "") :
    (∃ uri, toUri path = .ok uri) ↔
      ∀ part ∈ components path.toList, ∀ c ∈ part, c ∉ ['[', ']', '^', '|'] := by
  have hslash : Reference.isPathChar '/' = true := by decide
  rw [exists_toUri_iff hne, accepts_uriText, encodedParts, consistsOf_flatMap_encode_iff]
  simp only [List.forall_mem_flatMap, List.forall_mem_map, List.forall_mem_cons, hslash, true_or,
    true_and, forall_mem_encode_iff]
  split
  · next hnone => simp [hnone]
  · rfl

end Path

end CallHierarchy
