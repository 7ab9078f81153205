import CallHierarchy.Proofs.MockServer.Reading
import CallHierarchy.Proofs.Wire.Accounting

/-! The bounds of what the readers of frames do. `Checked.front` and `Checked.intake` read as the
client and the mock server do, with a check on every sum of counts and on every cut of the buffer.
No cut goes out of bounds, and a sum overflows exactly where a header announces a body so long that
64 bits cannot count the frame (`checked_readers`). -/

namespace CallHierarchy

/-- What a machine cannot do. -/
inductive Breach where
  /-- A sum that 64 bits cannot hold. -/
  | overflow
  /-- A cut beyond the end of a buffer. -/
  | outOfBounds
  deriving DecidableEq, Repr

namespace Checked

def sum (a b : Nat) : Except Breach Nat :=
  if a + b ≤ Decimal.max64 then .ok (a + b) else .error .overflow

/-- The bytes from `start` up to `stop`. -/
def slice (bytes : List UInt8) (start stop : Nat) : Except Breach (List UInt8) :=
  if start ≤ stop ∧ stop ≤ bytes.length then .ok ((bytes.drop start).take (stop - start))
  else .error .outOfBounds

def splitTo (bytes : List UInt8) (n : Nat) : Except Breach (List UInt8 × List UInt8) :=
  if n ≤ bytes.length then .ok (bytes.take n, bytes.drop n) else .error .outOfBounds

/-- Where the first terminator stands. -/
def terminatorAt? (bytes : List UInt8) : Option Nat :=
  (List.range bytes.length).find? fun i => Frame.terminator.isPrefixOf (bytes.drop i)

/-- Where the body of a frame starts and where it ends, by the length of its header and its own. -/
def extent (header length : Nat) : Except Breach (Nat × Nat) := do
  let start ← sum header Frame.terminator.length
  let stop ← sum start length
  return (start, stop)

/-- Looks at the front of the client's buffer. -/
def front (buffer : List UInt8) : Except Breach Frame.Front :=
  match terminatorAt? buffer with
  | none => return .incomplete
  | some headerEnd => do
    let header ← slice buffer 0 headerEnd
    match Utf8.decode? header with
    | none => return .fault .headersNotText buffer
    | some fields =>
      match Frame.contentLength fields.toList with
      | .error cause => return .fault cause buffer
      | .ok length => do
        let (start, stop) ← extent headerEnd length
        if buffer.length < stop then return .incomplete
        let (_, behind) ← splitTo buffer start
        let (body, rest) ← splitTo behind length
        match Utf8.decode? body with
        | none => return .fault .bodyNotText rest
        | some text => return .body text rest

/-- Looks at the front of the mock server's buffer. -/
def intake (buffer : List UInt8) : Except Breach MockServer.Intake :=
  match terminatorAt? buffer with
  | none => return .nothing
  | some headerEnd => do
    let header ← slice buffer 0 headerEnd
    match MockServer.headerLength? header with
    | none => return .nothing
    | some length => do
      let (start, stop) ← extent headerEnd length
      if buffer.length < stop then return .nothing
      let body ← slice buffer start stop
      match Utf8.decode? body with
      | none => return .nothing
      | some text => do
        let (_, rest) ← splitTo buffer stop
        return .body text rest

/-! ### The checks -/

variable {buffer header rest : List UInt8} {n : Nat}

theorem terminatorAt?_of_opens (h : Frame.Opens buffer header rest) :
    terminatorAt? buffer = some header.length := by
  refine List.find?_range_eq_some.2 ⟨?_, ?_, fun j hj => ?_⟩
  · rw [h.eq, List.append_assoc, List.drop_left, List.isPrefixOf_iff_prefix]
    exact List.prefix_append _ _
  · rw [h.eq, List.mem_range, List.length_append, List.length_append, Frame.terminator]
    simp only [List.length_cons]
    omega
  · rw [Bool.not_eq_true', Bool.eq_false_iff]
    exact fun hprefix => h.first j hj (List.isPrefixOf_iff_prefix.1 hprefix)

theorem terminatorAt?_eq_none (h : ¬Frame.terminator <:+: buffer) :
    terminatorAt? buffer = none := by
  refine List.find?_eq_none.2 fun i _ hprefix => h ?_
  exact (List.isPrefixOf_iff_prefix.1 hprefix).isInfix.trans (List.drop_suffix i buffer).isInfix

theorem length_of_opens (h : Frame.Opens buffer header rest) :
    buffer.length = header.length + Frame.terminator.length + rest.length := by
  rw [h.eq, List.length_append, List.length_append]

theorem slice_header (h : Frame.Opens buffer header rest) :
    slice buffer 0 header.length = .ok header := by
  have hlength : header.length ≤ buffer.length := by
    rw [length_of_opens h]
    omega
  rw [slice, if_pos ⟨Nat.zero_le _, hlength⟩, h.eq]
  simp

theorem extent_eq (header length : Nat) :
    extent header length =
      if header + Frame.terminator.length + length ≤ Decimal.max64 then
        .ok (header + Frame.terminator.length, header + Frame.terminator.length + length)
      else .error .overflow := by
  by_cases hstart : header + Frame.terminator.length ≤ Decimal.max64
  · by_cases hstop : header + Frame.terminator.length + length ≤ Decimal.max64
    · simp [extent, sum, hstart, hstop, bind, Except.bind, pure, Except.pure]
    · simp [extent, sum, hstart, hstop, bind, Except.bind]
  · have hstop : ¬header + Frame.terminator.length + length ≤ Decimal.max64 := by omega
    simp [extent, sum, hstart, hstop, bind, Except.bind]

theorem slice_body (h : Frame.Opens buffer header rest) (hn : n ≤ rest.length) :
    slice buffer (header.length + Frame.terminator.length)
      (header.length + Frame.terminator.length + n) = .ok (rest.take n) := by
  have hlength := length_of_opens h
  rw [slice, if_pos (by omega), h.eq, ← List.length_append, List.drop_left,
    Nat.add_sub_cancel_left]

theorem splitTo_header (h : Frame.Opens buffer header rest) :
    splitTo buffer (header.length + Frame.terminator.length) =
      .ok (header ++ Frame.terminator, rest) := by
  have hlength : header.length + Frame.terminator.length ≤ buffer.length := by
    rw [length_of_opens h]
    omega
  rw [splitTo, if_pos hlength, h.eq, ← List.length_append, List.take_left, List.drop_left]

theorem splitTo_eq (h : n ≤ rest.length) : splitTo rest n = .ok (rest.take n, rest.drop n) :=
  if_pos h

theorem splitTo_body (h : Frame.Opens buffer header rest) (hn : n ≤ rest.length) :
    splitTo buffer (header.length + Frame.terminator.length + n) =
      .ok (header ++ Frame.terminator ++ rest.take n, rest.drop n) := by
  have hlength := length_of_opens h
  rw [splitTo, if_pos (by omega), h.eq, ← List.length_append, List.take_length_add_append,
    List.drop_length_add_append]

/-! ### The readers -/

/-- What the checked reader of the client comes to where the front of the buffer is known. -/
def ofFront : Frame.Front → Except Breach Frame.Front
  | .fault .overflow _ => .error .overflow
  | f => .ok f

def ofIntake : MockServer.Intake → Except Breach MockServer.Intake
  | .overflow => .error .overflow
  | i => .ok i

theorem ofFront_cases (f : Frame.Front) : ofFront f = .error .overflow ∨ ofFront f = .ok f := by
  unfold ofFront
  split
  · exact .inl rfl
  · exact .inr rfl

theorem ofIntake_cases (i : MockServer.Intake) :
    ofIntake i = .error .overflow ∨ ofIntake i = .ok i := by
  unfold ofIntake
  split
  · exact .inl rfl
  · exact .inr rfl

/-- Behind a header that announces a length the sums are checked first, and then no cut can fail. -/
theorem front_of_length (hopens : Frame.Opens buffer header rest)
    (hdeclares : Frame.Declares header (.ok n)) :
    front buffer =
      if header.length + Frame.terminator.length + n ≤ Decimal.max64 then
        if rest.length < n then .ok .incomplete
        else
          match Utf8.decode? (rest.take n) with
          | none => .ok (.fault .bodyNotText (rest.drop n))
          | some text => .ok (.body text (rest.drop n))
      else .error .overflow := by
  obtain ⟨fields, hfields, hanswer⟩ := hdeclares.read
  simp only [front, terminatorAt?_of_opens hopens, slice_header hopens, bind, Except.bind, hfields,
    hanswer, extent_eq, length_of_opens hopens]
  by_cases hcounted : header.length + Frame.terminator.length + n ≤ Decimal.max64
  · simp only [if_pos hcounted, Nat.add_lt_add_iff_left]
    by_cases hshort : rest.length < n
    · simp only [if_pos hshort]
      rfl
    · simp only [if_neg hshort, splitTo_header hopens, splitTo_eq (Nat.not_lt.1 hshort)]
      rfl
  · simp only [if_neg hcounted]

theorem front_eq (buffer : List UInt8) : front buffer = ofFront (Frame.front buffer) := by
  obtain ⟨f, after, h⟩ := Frame.exists_leaves buffer
  rw [h.front_eq]
  cases h with
  | noHeader h => simp only [front, terminatorAt?_eq_none h, pure, Except.pure, ofFront]
  | headersNotText hopens h =>
    simp only [front, terminatorAt?_of_opens hopens, slice_header hopens, bind, Except.bind,
      Frame.decode?_eq_none_iff.2 h]
    rfl
  | noLength hopens hdeclares =>
    obtain ⟨fields, hfields, hanswer⟩ := hdeclares.read
    simp only [front, terminatorAt?_of_opens hopens, slice_header hopens, bind, Except.bind,
      hfields, hanswer]
    cases Frame.announces_iff.1 hanswer <;> rfl
  | overflow hopens hdeclares hover =>
    rw [front_of_length hopens hdeclares, if_neg (Nat.not_le.2 hover), ofFront]
  | waiting hopens hdeclares hcounted hshort =>
    rw [front_of_length hopens hdeclares, if_pos hcounted, if_pos hshort]
    rfl
  | bodyNotText hopens hdeclares hcounted h =>
    rw [front_of_length hopens hdeclares, if_pos hcounted, if_neg (by simp), List.take_left,
      List.drop_left, Frame.decode?_eq_none_iff.2 h]
    rfl
  | body hopens hdeclares hcounted =>
    rw [front_of_length hopens hdeclares, if_pos hcounted, if_neg (by simp), List.take_left,
      List.drop_left, Utf8.decode?_encode]
    rfl

theorem intake_of_length (hopens : Frame.Opens buffer header rest)
    (hlength : MockServer.headerLength? header = some n) :
    intake buffer =
      if header.length + Frame.terminator.length + n ≤ Decimal.max64 then
        if rest.length < n then .ok .nothing
        else
          match Utf8.decode? (rest.take n) with
          | none => .ok .nothing
          | some text => .ok (.body text (rest.drop n))
      else .error .overflow := by
  simp only [intake, terminatorAt?_of_opens hopens, slice_header hopens, bind, Except.bind,
    hlength, extent_eq, length_of_opens hopens]
  by_cases hcounted : header.length + Frame.terminator.length + n ≤ Decimal.max64
  · simp only [if_pos hcounted, Nat.add_lt_add_iff_left]
    by_cases hshort : rest.length < n
    · simp only [if_pos hshort]
      rfl
    · have hwhole := Nat.not_lt.1 hshort
      simp only [if_neg hshort, slice_body hopens hwhole, splitTo_body hopens hwhole]
      rfl
  · simp only [if_neg hcounted]

theorem intake_cases (buffer : List UInt8) :
    intake buffer = .ok .nothing ∧ MockServer.intake buffer = .nothing ∨
      ∃ header rest n, Frame.Opens buffer header rest ∧
        MockServer.headerLength? header = some n := by
  cases hcut : Frame.cutHeader? buffer with
  | none =>
    refine .inl ⟨?_, by simp only [MockServer.intake, hcut]⟩
    simp only [intake, terminatorAt?_eq_none (Frame.cutHeader?_eq_none_iff.1 hcut)]
    rfl
  | some cut =>
    obtain ⟨header, rest⟩ := cut
    have hopens := Frame.opens_of_cutHeader? hcut
    cases hlength : MockServer.headerLength? header with
    | none =>
      refine .inl ⟨?_, (MockServer.Blocked.header hcut hlength).intake_eq⟩
      simp only [intake, terminatorAt?_of_opens hopens, slice_header hopens, bind, Except.bind,
        hlength]
      rfl
    | some n => exact .inr ⟨header, rest, n, hopens, hlength⟩

theorem intake_eq (buffer : List UInt8) : intake buffer = ofIntake (MockServer.intake buffer) := by
  rcases intake_cases buffer with ⟨hchecked, hnothing⟩ | ⟨header, rest, n, hopens, hlength⟩
  · rw [hchecked, hnothing, ofIntake]
    exact nofun
  · rw [intake_of_length hopens hlength]
    rw [MockServer.headerLength?] at hlength
    simp only [MockServer.intake, Frame.cutHeader?_of_opens hopens, hlength]
    by_cases hcounted : header.length + Frame.terminator.length + n ≤ Decimal.max64
    · rw [if_pos hcounted, if_neg (Nat.not_lt.2 hcounted)]
      by_cases hshort : rest.length < n
      · rw [if_pos hshort, if_pos hshort]
        rfl
      · rw [if_neg hshort, if_neg hshort]
        cases Utf8.decode? (rest.take n) <;> rfl
    · rw [if_neg hcounted, if_pos (Nat.not_le.1 hcounted)]
      rfl

/-- A header announces a length with which 64 bits cannot count the frame. -/
def Overlong (announces : List UInt8 → Nat → Prop) (buffer : List UInt8) : Prop :=
  ∃ header rest n, Frame.Opens buffer header rest ∧ announces header n ∧
    Decimal.max64 < header.length + Frame.terminator.length + n

theorem front_eq_overflow_iff : front buffer = .error .overflow ↔
    Overlong (fun header n => Frame.Declares header (.ok n)) buffer := by
  constructor
  · intro h
    obtain ⟨f, after, hleaves⟩ := Frame.exists_leaves buffer
    rw [front_eq, hleaves.front_eq] at h
    cases hleaves with
    | overflow hopens hdeclares hover => exact ⟨_, _, _, hopens, hdeclares, hover⟩
    | noLength _ hdeclares =>
      obtain ⟨fields, -, hanswer⟩ := hdeclares
      cases hanswer <;> cases h
    | noHeader | headersNotText | waiting | bodyNotText | body => cases h
  · rintro ⟨header, rest, n, hopens, hdeclares, hover⟩
    rw [front_of_length hopens hdeclares, if_neg (Nat.not_le.2 hover)]

theorem intake_eq_overflow_iff : intake buffer = .error .overflow ↔
    Overlong (fun header n => MockServer.headerLength? header = some n) buffer := by
  constructor
  · intro h
    rcases intake_cases buffer with ⟨hchecked, -⟩ | ⟨header, rest, n, hopens, hlength⟩
    · cases hchecked.symm.trans h
    · rw [intake_of_length hopens hlength] at h
      split at h
      · split at h
        · cases h
        · split at h <;> cases h
      · next hover => exact ⟨header, rest, n, hopens, hlength, Nat.not_le.1 hover⟩
  · rintro ⟨header, rest, n, hopens, hlength, hover⟩
    rw [intake_of_length hopens hlength, if_neg (Nat.not_le.2 hover)]

/-- The client's reader comes to an answer, by sums that 64 bits hold and cuts within the buffer,
unless a header announces a length with which 64 bits cannot count the frame; there a sum overflows.
The same holds of the mock server's reader. -/
theorem checked_readers (buffer : List UInt8) :
    (front buffer = .error .overflow ∧
        Overlong (fun header n => Frame.Declares header (.ok n)) buffer ∨
      front buffer = .ok (Frame.front buffer) ∧
        ¬Overlong (fun header n => Frame.Declares header (.ok n)) buffer) ∧
    (intake buffer = .error .overflow ∧
        Overlong (fun header n => MockServer.headerLength? header = some n) buffer ∨
      intake buffer = .ok (MockServer.intake buffer) ∧
        ¬Overlong (fun header n => MockServer.headerLength? header = some n) buffer) := by
  rw [← front_eq_overflow_iff, ← intake_eq_overflow_iff]
  constructor
  · rcases ofFront_cases (Frame.front buffer) with h | h <;> simp [front_eq, h]
  · rcases ofIntake_cases (MockServer.intake buffer) with h | h <;> simp [intake_eq, h]

/-- A frame whose length alone takes all 64 bits. -/
def hugeFrame : List UInt8 := Utf8.encode "Content-Length: 18446744073709551615\r\n\r\n"

/-- Neither reader comes to an answer there. -/
theorem overflow_hugeFrame :
    front hugeFrame = .error .overflow ∧ intake hugeFrame = .error .overflow := by
  decide +kernel

end Checked

end CallHierarchy
