import Mathlib.Data.List.Forall2
import CallHierarchy.Wire.Frame

/-! What more bytes do to a buffer. Once the front of a buffer is a frame or a fault, bytes that
arrive later only stand behind it, so draining a buffer piece by piece takes off the same bodies as
draining it at once. -/

namespace CallHierarchy.Frame

theorem isPrefixOf_append {start bytes : List UInt8} (more : List UInt8)
    (h : start.length ≤ bytes.length) :
    start.isPrefixOf (bytes ++ more) = start.isPrefixOf bytes := by
  rw [Bool.eq_iff_iff, List.isPrefixOf_iff_prefix, List.isPrefixOf_iff_prefix]
  exact ⟨fun hp => List.prefix_of_prefix_length_le hp (List.prefix_append bytes more) h,
    fun hp => hp.trans (List.prefix_append bytes more)⟩

theorem cutHeader?_terminator (rest : List UInt8) :
    cutHeader? (terminator ++ rest) = some ([], rest) := by
  simp [terminator, cutHeader?]

theorem eq_of_cutHeader? {bytes header rest : List UInt8}
    (h : cutHeader? bytes = some (header, rest)) : bytes = header ++ terminator ++ rest := by
  induction bytes generalizing header rest with
  | nil => simp [cutHeader?] at h
  | cons b bytes ih =>
    simp only [cutHeader?] at h
    split at h
    · next hp =>
      obtain ⟨rfl, rfl⟩ := Prod.mk.inj (Option.some.inj h)
      exact (List.prefix_iff_eq_append.1 (List.isPrefixOf_iff_prefix.1 hp)).symm
    · obtain ⟨⟨header', rest'⟩, h', heq⟩ := Option.map_eq_some_iff.1 h
      obtain ⟨rfl, rfl⟩ := Prod.mk.inj heq
      rw [ih h']
      rfl

/-- Where the first terminator stands does not depend on what follows it. -/
theorem cutHeader?_replace {bytes header rest : List UInt8}
    (h : cutHeader? bytes = some (header, rest)) (other : List UInt8) :
    cutHeader? (header ++ terminator ++ other) = some (header, other) := by
  induction bytes generalizing header rest with
  | nil => simp [cutHeader?] at h
  | cons b bytes ih =>
    have heq := eq_of_cutHeader? h
    simp only [cutHeader?] at h
    split at h
    · obtain ⟨rfl, rfl⟩ := Prod.mk.inj (Option.some.inj h)
      exact cutHeader?_terminator other
    · next hp =>
      obtain ⟨⟨header', rest'⟩, h', hcons⟩ := Option.map_eq_some_iff.1 h
      obtain ⟨rfl, rfl⟩ := Prod.mk.inj hcons
      have hlen : terminator.length ≤ (b :: header' ++ terminator).length := by
        rw [List.length_append]
        omega
      have hother : terminator.isPrefixOf (b :: header' ++ terminator ++ other) = false := by
        rw [isPrefixOf_append other hlen, ← isPrefixOf_append rest' hlen, ← heq]
        exact Bool.not_eq_true _ ▸ hp
      simp only [List.cons_append] at hother ⊢
      simp only [cutHeader?, hother, Bool.false_eq_true, if_false, ih h', Option.map_some]

/-- The first terminator of a buffer stays the first one. -/
theorem cutHeader?_append {bytes header rest : List UInt8} (more : List UInt8)
    (h : cutHeader? bytes = some (header, rest)) :
    cutHeader? (bytes ++ more) = some (header, rest ++ more) := by
  rw [eq_of_cutHeader? h, List.append_assoc]
  exact cutHeader?_replace h (rest ++ more)

/-! ### The front -/

/-- What stands at the front of a buffer when `more` is put behind it. -/
def Front.extend (more : List UInt8) : Front → Front
  | .incomplete => .incomplete
  | .body text rest => .body text (rest ++ more)
  | .fault cause rest => .fault cause (rest ++ more)

/-- A frame or a fault at the front of a buffer stays there as it is. -/
theorem front_append {buffer : List UInt8} (more : List UInt8) (h : front buffer ≠ .incomplete) :
    front (buffer ++ more) = (front buffer).extend more := by
  unfold front at h ⊢
  cases hcut : cutHeader? buffer with
  | none => simp [hcut] at h
  | some cut =>
    obtain ⟨header, rest⟩ := cut
    rw [cutHeader?_append more hcut]
    simp only [hcut] at h ⊢
    cases htext : Utf8.decode? header with
    | none => rfl
    | some text =>
      simp only [htext] at h ⊢
      cases hlength : contentLength text.toList with
      | error cause => rfl
      | ok length =>
        simp only [hlength] at h ⊢
        split at h
        · next hover => rw [if_pos hover, if_pos hover]; rfl
        · next hover =>
          rw [if_neg hover, if_neg hover]
          split at h
          · exact absurd rfl h
          · next hwhole =>
            have hle : length ≤ rest.length := Nat.not_lt.1 hwhole
            rw [if_neg hwhole, if_neg (by simp; omega), List.take_append_of_le_length hle,
              List.drop_append_of_le_length hle]
            cases Utf8.decode? (rest.take length) <;> rfl

theorem front_append_of_body {buffer rest : List UInt8} {text : String} (more : List UInt8)
    (h : front buffer = .body text rest) : front (buffer ++ more) = .body text (rest ++ more) := by
  rw [front_append more (by simp [h]), h, Front.extend]

theorem front_append_of_fault {buffer rest : List UInt8} {cause : Fault} (more : List UInt8)
    (h : front buffer = .fault cause rest) :
    front (buffer ++ more) = .fault cause (rest ++ more) := by
  rw [front_append more (by simp [h]), h, Front.extend]

/-- A frame is a header with the length of a text, the terminator, and the bytes of the text. -/
theorem front_eq_body_iff {buffer rest : List UInt8} {text : String} :
    front buffer = .body text rest ↔
      ∃ header fields, cutHeader? buffer = some (header, Utf8.encode text ++ rest) ∧
        Utf8.decode? header = some fields ∧
        contentLength fields.toList = .ok (Utf8.encode text).length ∧
        header.length + terminator.length + (Utf8.encode text).length ≤ Decimal.max64 := by
  constructor
  · intro h
    unfold front at h
    split at h
    · cases h
    · next header tail hcut =>
      split at h
      · cases h
      · next fields hfields =>
        split at h
        · cases h
        · next length hlength =>
          split at h
          · cases h
          · next hover =>
            split at h
            · cases h
            · next hwhole =>
              split at h
              · cases h
              · next body hbody =>
                injection h with htext hrest
                subst htext hrest
                have hbytes := Utf8.decode?_eq_some_iff.1 hbody
                have hlen : (Utf8.encode body).length = length := by
                  rw [hbytes, List.length_take]
                  omega
                refine ⟨header, fields, ?_, hfields, hlen ▸ hlength, by omega⟩
                rw [hcut, hbytes, List.take_append_drop]
  · rintro ⟨header, fields, hcut, hfields, hlength, hover⟩
    unfold front
    simp only [hcut, hfields, hlength]
    rw [if_neg (by omega), if_neg (by simp)]
    simp

/-- A frame at the front of a buffer is a frame by itself. -/
theorem exists_frame {buffer rest : List UInt8} {text : String}
    (h : front buffer = .body text rest) :
    ∃ frame, buffer = frame ++ rest ∧ front frame = .body text [] := by
  obtain ⟨header, fields, hcut, hfields, hlength, hover⟩ := front_eq_body_iff.1 h
  refine ⟨header ++ terminator ++ Utf8.encode text, ?_, ?_⟩
  · rw [List.append_assoc _ _ rest]
    exact eq_of_cutHeader? hcut
  · refine front_eq_body_iff.2 ⟨header, fields, ?_, hfields, hlength, hover⟩
    rw [List.append_nil]
    exact cutHeader?_replace hcut _

/-! ### Draining -/

theorem drain_of_incomplete {buffer : List UInt8} (h : front buffer = .incomplete) :
    drain buffer = ⟨[], none, buffer⟩ := by
  rw [drain]
  split <;> simp_all

theorem drain_of_fault {buffer rest : List UInt8} {cause : Fault}
    (h : front buffer = .fault cause rest) : drain buffer = ⟨[], some cause, rest⟩ := by
  rw [drain]
  split <;> simp_all

theorem drain_of_body {buffer rest : List UInt8} {text : String}
    (h : front buffer = .body text rest) :
    drain buffer = { drain rest with bodies := text :: (drain rest).bodies } := by
  rw [drain]
  split <;> simp_all

/-- What is left of a drained buffer begins with no whole frame. -/
theorem front_drain {buffer : List UInt8} (h : (drain buffer).fault = none) :
    front (drain buffer).rest = .incomplete := by
  induction buffer using drain.induct with
  | case1 buffer hfront => rw [drain_of_incomplete hfront]; exact hfront
  | case2 buffer cause rest hfront => simp [drain_of_fault hfront] at h
  | case3 buffer text rest hfront ih =>
    rw [drain_of_body hfront] at h ⊢
    exact ih h

/-- Bytes behind a fault do not undo it. -/
theorem drain_append_of_fault {buffer : List UInt8} (more : List UInt8)
    (h : (drain buffer).fault ≠ none) :
    drain (buffer ++ more) = { drain buffer with rest := (drain buffer).rest ++ more } := by
  induction buffer using drain.induct with
  | case1 buffer hfront => simp [drain_of_incomplete hfront] at h
  | case2 buffer cause rest hfront =>
    rw [drain_of_fault (front_append_of_fault more hfront), drain_of_fault hfront]
  | case3 buffer text rest hfront ih =>
    rw [drain_of_body hfront] at h
    rw [drain_of_body (front_append_of_body more hfront), drain_of_body hfront, ih h]

/-- Without a fault, draining goes on with what is left and the new bytes. -/
theorem drain_append {buffer : List UInt8} (more : List UInt8) (h : (drain buffer).fault = none) :
    drain (buffer ++ more) =
      { drain ((drain buffer).rest ++ more) with
        bodies := (drain buffer).bodies ++ (drain ((drain buffer).rest ++ more)).bodies } := by
  induction buffer using drain.induct with
  | case1 buffer hfront => simp [drain_of_incomplete hfront]
  | case2 buffer cause rest hfront => simp [drain_of_fault hfront] at h
  | case3 buffer text rest hfront ih =>
    rw [drain_of_body hfront] at h
    rw [drain_of_body (front_append_of_body more hfront), drain_of_body hfront, ih h]
    rfl

/-- A buffer without a fault consists of one frame for each body, and what is left. -/
theorem exists_frames {buffer : List UInt8} (h : (drain buffer).fault = none) :
    ∃ frames, List.Forall₂ (fun frame text => front frame = .body text []) frames
      (drain buffer).bodies ∧ buffer = frames.flatten ++ (drain buffer).rest := by
  induction buffer using drain.induct with
  | case1 buffer hfront => exact ⟨[], by simp [drain_of_incomplete hfront]⟩
  | case2 buffer cause rest hfront => simp [drain_of_fault hfront] at h
  | case3 buffer text rest hfront ih =>
    rw [drain_of_body hfront] at h ⊢
    obtain ⟨frames, hframes, hrest⟩ := ih h
    obtain ⟨frame, hbuffer, hframe⟩ := exists_frame hfront
    refine ⟨frame :: frames, .cons hframe hframes, ?_⟩
    rw [List.flatten_cons, List.append_assoc, ← hrest]
    exact hbuffer

end CallHierarchy.Frame
