import CallHierarchy.Proofs.Wire.Extension

/-! Where every byte of a buffer goes. A look at the front of a buffer takes off nothing or exactly
one frame, whose body is as long as the first line about the length says (`leaves_iff`). So the loop
that takes frames off a buffer ends on every buffer, and each of its turns costs at least four bytes
(`drain_accounts`). -/

namespace CallHierarchy.Frame

variable {buffer bytes header rest : List UInt8}

/-! ### Headers -/

/-- The bytes begin with a header, and `rest` stands behind the first terminator. -/
structure Opens (bytes header rest : List UInt8) : Prop where
  eq : bytes = header ++ terminator ++ rest
  first : ∀ i < header.length, ¬terminator <+: bytes.drop i

theorem cutHeader?_eq_none_iff : cutHeader? bytes = none ↔ ¬terminator <:+: bytes := by
  induction bytes with
  | nil => simp [cutHeader?, terminator]
  | cons b bytes ih =>
    rw [cutHeader?, List.infix_cons_iff, ← List.isPrefixOf_iff_prefix]
    split
    · next hp => simp [hp]
    · next hp => rw [Option.map_eq_none_iff, ih, or_iff_right hp]

theorem cutHeader?_of_opens (h : Opens bytes header rest) :
    cutHeader? bytes = some (header, rest) := by
  induction header generalizing bytes with
  | nil => rw [h.eq, List.nil_append, cutHeader?_terminator]
  | cons b header ih =>
    obtain ⟨heq, hfirst⟩ := h
    subst heq
    have hlater : cutHeader? (header ++ terminator ++ rest) = some (header, rest) :=
      ih ⟨rfl, fun i hi => hfirst (i + 1) (Nat.succ_lt_succ hi)⟩
    have hnot : ¬terminator.isPrefixOf (b :: (header ++ terminator ++ rest)) = true := fun hp =>
      hfirst 0 (Nat.succ_pos _) (List.isPrefixOf_iff_prefix.1 hp)
    rw [List.cons_append, List.cons_append, cutHeader?, if_neg hnot, hlater, Option.map_some]

theorem opens_of_cutHeader? (h : cutHeader? bytes = some (header, rest)) :
    Opens bytes header rest := by
  refine ⟨eq_of_cutHeader? h, ?_⟩
  induction bytes generalizing header rest with
  | nil => simp [cutHeader?] at h
  | cons b bytes ih =>
    rw [cutHeader?] at h
    split at h
    · obtain ⟨rfl, rfl⟩ := Prod.mk.inj (Option.some.inj h)
      simp
    · next hp =>
      obtain ⟨⟨header', rest'⟩, h', heq⟩ := Option.map_eq_some_iff.1 h
      obtain ⟨rfl, rfl⟩ := Prod.mk.inj heq
      intro i hi
      cases i with
      | zero => exact fun hprefix => hp (List.isPrefixOf_iff_prefix.2 hprefix)
      | succ i => exact ih h' i (Nat.lt_of_succ_lt_succ hi)

/-! ### The length in a header -/

/-- The line gives the length as `value`: what stands before its first colon is, but for blanks
around it and the case of its letters, the name of the length. -/
def Gives (line value : List Char) : Prop :=
  ∃ name, line = name ++ ':' :: value ∧ ':' ∉ name ∧
    Text.sameAscii (Text.trim name) lengthName = true

/-- The first line that gives the length gives it as `value`. -/
def GivesFirst (fields value : List Char) : Prop :=
  ∃ before line after, Text.lines fields = before ++ line :: after ∧ Gives line value ∧
    ∀ earlier ∈ before, ∀ value, ¬Gives earlier value

/-- What the fields of a header say about the length. -/
inductive Announces (fields : List Char) : Except Fault Nat → Prop where
  | length {value : List Char} {n : Nat} (hfirst : GivesFirst fields value)
      (hread : Decimal.unsigned? Decimal.max64 (Text.trim value) = some n) :
      Announces fields (.ok n)
  | invalid {value : List Char} (hfirst : GivesFirst fields value)
      (hread : Decimal.unsigned? Decimal.max64 (Text.trim value) = none) :
      Announces fields (.error (.invalidLength (String.ofList value)))
  | missing (h : ∀ line ∈ Text.lines fields, ∀ value, ¬Gives line value) :
      Announces fields (.error .missingLength)

/-- What a line gives as the length. -/
def given? (line : List Char) : Option (List Char) :=
  ((Text.cutAt ':' line).filter fun (name, _) =>
    Text.sameAscii (Text.trim name) lengthName).map Prod.snd

theorem given?_eq_some_iff {line value : List Char} :
    given? line = some value ↔ Gives line value := by
  simp only [given?, Option.map_eq_some_iff, Option.filter_eq_some_iff]
  constructor
  · rintro ⟨⟨name, value⟩, ⟨hcut, hname⟩, rfl⟩
    obtain ⟨hline, hcolon⟩ := Text.cutAt_eq_some hcut
    exact ⟨name, hline, hcolon, hname⟩
  · rintro ⟨name, rfl, hcolon, hname⟩
    exact ⟨(name, value), ⟨Text.cutAt_append hcolon value, hname⟩, rfl⟩

theorem given?_eq_none_iff {line : List Char} :
    given? line = none ↔ ∀ value, ¬Gives line value := by
  simp only [Option.eq_none_iff_forall_ne_some, ne_eq, given?_eq_some_iff]

theorem givesFirst_iff {fields value : List Char} :
    (Text.lines fields).findSome? given? = some value ↔ GivesFirst fields value := by
  simp only [List.findSome?_eq_some_iff, given?_eq_some_iff, given?_eq_none_iff, GivesFirst]

theorem contentLength_eq (fields : List Char) :
    contentLength fields =
      match (Text.lines fields).findSome? given? with
      | none => .error .missingLength
      | some value =>
        match Decimal.unsigned? Decimal.max64 (Text.trim value) with
        | some n => .ok n
        | none => .error (.invalidLength (String.ofList value)) := by
  have hhead : (Text.lines fields).findSome? given? =
      (((Text.lines fields).filterMap (Text.cutAt ':')).filter fun (name, _) =>
        Text.sameAscii (Text.trim name) lengthName).head?.map Prod.snd := by
    rw [List.filter_filterMap, List.head?_filterMap, List.map_findSome?]
    rfl
  rw [hhead, contentLength]
  dsimp only
  generalize List.filter _ _ = values
  cases values with
  | nil => rfl
  | cons first values => rfl

theorem announces_iff {fields : List Char} {answer : Except Fault Nat} :
    contentLength fields = answer ↔ Announces fields answer := by
  rw [contentLength_eq]
  constructor
  · rintro rfl
    split
    · next hnone =>
      refine .missing fun line hline value => ?_
      exact given?_eq_none_iff.1 (List.findSome?_eq_none_iff.1 hnone line hline) value
    · next value hvalue =>
      split
      · next n hread => exact .length (givesFirst_iff.1 hvalue) hread
      · next hread => exact .invalid (givesFirst_iff.1 hvalue) hread
  · intro h
    cases h with
    | length hfirst hread | invalid hfirst hread => simp only [givesFirst_iff.2 hfirst, hread]
    | missing h =>
      have hnone : (Text.lines fields).findSome? given? = none :=
        List.findSome?_eq_none_iff.2 fun line hline => given?_eq_none_iff.2 (h line hline)
      simp only [hnone]

/-- The header is text, and its fields say `answer` about the length. -/
def Declares (header : List UInt8) (answer : Except Fault Nat) : Prop :=
  ∃ fields, Utf8.encode fields = header ∧ Announces fields.toList answer

theorem Declares.read {answer : Except Fault Nat} (h : Declares header answer) :
    ∃ fields, Utf8.decode? header = some fields ∧ contentLength fields.toList = answer := by
  obtain ⟨fields, hbytes, hannounces⟩ := h
  exact ⟨fields, Utf8.decode?_eq_some_iff.2 hbytes, announces_iff.2 hannounces⟩

/-! ### One turn -/

/-- What is left of a buffer after a look at its front. -/
def left (buffer : List UInt8) : List UInt8 :=
  match front buffer with
  | .incomplete => buffer
  | .body _ rest => rest
  | .fault _ rest => rest

/-- What stands at the front of a buffer, and what is left of the buffer after a look at it. -/
inductive Leaves (buffer : List UInt8) : Front → List UInt8 → Prop where
  | noHeader (h : ¬terminator <:+: buffer) : Leaves buffer .incomplete buffer
  | headersNotText {header rest : List UInt8} (hopens : Opens buffer header rest)
      (h : ∀ fields, Utf8.encode fields ≠ header) :
      Leaves buffer (.fault .headersNotText buffer) buffer
  | noLength {header rest : List UInt8} {cause : Fault} (hopens : Opens buffer header rest)
      (hdeclares : Declares header (.error cause)) : Leaves buffer (.fault cause buffer) buffer
  | overflow {header rest : List UInt8} {n : Nat} (hopens : Opens buffer header rest)
      (hdeclares : Declares header (.ok n))
      (hover : Decimal.max64 < header.length + terminator.length + n) :
      Leaves buffer (.fault .overflow buffer) buffer
  | waiting {header rest : List UInt8} {n : Nat} (hopens : Opens buffer header rest)
      (hdeclares : Declares header (.ok n))
      (hcounted : header.length + terminator.length + n ≤ Decimal.max64)
      (hshort : rest.length < n) : Leaves buffer .incomplete buffer
  | bodyNotText {header body rest : List UInt8} (hopens : Opens buffer header (body ++ rest))
      (hdeclares : Declares header (.ok body.length))
      (hcounted : header.length + terminator.length + body.length ≤ Decimal.max64)
      (h : ∀ text, Utf8.encode text ≠ body) : Leaves buffer (.fault .bodyNotText rest) rest
  | body {header rest : List UInt8} {text : String}
      (hopens : Opens buffer header (Utf8.encode text ++ rest))
      (hdeclares : Declares header (.ok (Utf8.encode text).length))
      (hcounted : header.length + terminator.length + (Utf8.encode text).length ≤ Decimal.max64) :
      Leaves buffer (.body text rest) rest

theorem decode?_eq_none_iff : Utf8.decode? bytes = none ↔ ∀ text, Utf8.encode text ≠ bytes := by
  simp only [Option.eq_none_iff_forall_ne_some, ne_eq, Utf8.decode?_eq_some_iff]

theorem exists_leaves (buffer : List UInt8) : ∃ f after, Leaves buffer f after := by
  cases hcut : cutHeader? buffer with
  | none => exact ⟨_, _, .noHeader (cutHeader?_eq_none_iff.1 hcut)⟩
  | some cut =>
    obtain ⟨header, rest⟩ := cut
    have hopens := opens_of_cutHeader? hcut
    cases hfields : Utf8.decode? header with
    | none => exact ⟨_, _, .headersNotText hopens (decode?_eq_none_iff.1 hfields)⟩
    | some fields =>
      have hbytes := Utf8.decode?_eq_some_iff.1 hfields
      cases hlength : contentLength fields.toList with
      | error cause => exact ⟨_, _, .noLength hopens ⟨fields, hbytes, announces_iff.1 hlength⟩⟩
      | ok n =>
        have hdeclares : Declares header (.ok n) := ⟨fields, hbytes, announces_iff.1 hlength⟩
        rcases Nat.lt_or_ge Decimal.max64 (header.length + terminator.length + n) with
          hover | hcounted
        · exact ⟨_, _, .overflow hopens hdeclares hover⟩
        · rcases Nat.lt_or_ge rest.length n with hshort | hwhole
          · exact ⟨_, _, .waiting hopens hdeclares hcounted hshort⟩
          · rw [← List.take_append_drop n rest] at hopens
            rw [← List.length_take_of_le hwhole] at hdeclares hcounted
            cases hbody : Utf8.decode? (rest.take n) with
            | none =>
              have hnone := decode?_eq_none_iff.1 hbody
              exact ⟨_, _, .bodyNotText hopens hdeclares hcounted hnone⟩
            | some text =>
              rw [← Utf8.decode?_eq_some_iff.1 hbody] at hopens hdeclares hcounted
              exact ⟨_, _, .body hopens hdeclares hcounted⟩

theorem Leaves.front_eq {f : Front} {after : List UInt8} (h : Leaves buffer f after) :
    front buffer = f := by
  cases h with
  | noHeader h => simp only [front, cutHeader?_eq_none_iff.2 h]
  | headersNotText hopens h =>
    simp only [front, cutHeader?_of_opens hopens, decode?_eq_none_iff.2 h]
  | noLength hopens hdeclares =>
    obtain ⟨fields, hfields, hanswer⟩ := hdeclares.read
    simp only [front, cutHeader?_of_opens hopens, hfields, hanswer]
  | overflow hopens hdeclares hover =>
    obtain ⟨fields, hfields, hanswer⟩ := hdeclares.read
    simp only [front, cutHeader?_of_opens hopens, hfields, hanswer, if_pos hover]
  | waiting hopens hdeclares hcounted hshort =>
    obtain ⟨fields, hfields, hanswer⟩ := hdeclares.read
    simp only [front, cutHeader?_of_opens hopens, hfields, hanswer, if_neg (Nat.not_lt.2 hcounted),
      if_pos hshort]
  | bodyNotText hopens hdeclares hcounted h =>
    obtain ⟨fields, hfields, hanswer⟩ := hdeclares.read
    simp [front, cutHeader?_of_opens hopens, hfields, hanswer, Nat.not_lt.2 hcounted,
      decode?_eq_none_iff.2 h]
  | body hopens hdeclares hcounted =>
    obtain ⟨fields, hfields, hanswer⟩ := hdeclares.read
    exact front_eq_body_iff.2 ⟨_, fields, cutHeader?_of_opens hopens, hfields, hanswer, hcounted⟩

theorem Leaves.left_eq {f : Front} {after : List UInt8} (h : Leaves buffer f after) :
    left buffer = after := by
  rw [left, h.front_eq]
  cases h <;> rfl

/-- A look at the front of a buffer comes to what the relation says, and to nothing else. -/
theorem leaves_iff {f : Front} {after : List UInt8} :
    Leaves buffer f after ↔ f = front buffer ∧ after = left buffer := by
  constructor
  · intro h
    exact ⟨h.front_eq.symm, h.left_eq.symm⟩
  · rintro ⟨rfl, rfl⟩
    obtain ⟨f, after, h⟩ := exists_leaves buffer
    rwa [h.front_eq, h.left_eq]

/-! ### The loop -/

/-- Turns of the loop that takes frames off a buffer: the bodies of the frames, and the buffer that
the last turn leaves. -/
inductive Takes : List UInt8 → List String → List UInt8 → Prop where
  | done (buffer : List UInt8) : Takes buffer [] buffer
  | turn {buffer rest last : List UInt8} {text : String} {texts : List String}
      (hfront : front buffer = .body text rest) (hlater : Takes rest texts last) :
      Takes buffer (text :: texts) last

theorem Takes.length_le {texts : List String} {last : List UInt8} (h : Takes buffer texts last) :
    4 * texts.length + last.length ≤ buffer.length := by
  induction h with
  | done buffer => simp
  | turn hfront _ ih =>
    have hturn := length_of_front_body hfront
    rw [List.length_cons]
    omega

/-- The fault that stands at the front of a buffer. -/
def Front.fault? : Front → Option Fault
  | .fault cause _ => some cause
  | _ => none

/-- The loop comes to a buffer with no frame at its front, and ends with what is left of that. -/
theorem exists_takes_drain (buffer : List UInt8) :
    ∃ last, Takes buffer (drain buffer).bodies last ∧ (∀ text rest, front last ≠ .body text rest) ∧
      (drain buffer).fault = (front last).fault? ∧ (drain buffer).rest = left last := by
  induction buffer using drain.induct with
  | case1 buffer hfront =>
    rw [drain_of_incomplete hfront]
    exact ⟨buffer, .done buffer, by simp [hfront], by simp [hfront, Front.fault?],
      by simp [left, hfront]⟩
  | case2 buffer cause rest hfront =>
    rw [drain_of_fault hfront]
    exact ⟨buffer, .done buffer, by simp [hfront], by simp [hfront, Front.fault?],
      by simp [left, hfront]⟩
  | case3 buffer text rest hfront ih =>
    obtain ⟨last, htakes, hends⟩ := ih
    rw [drain_of_body hfront]
    exact ⟨last, .turn hfront htakes, hends⟩

/-- Every byte of a buffer is accounted for. A look at the front leaves the buffer as it was, unless
a whole frame stands there, and takes off exactly that frame if one does. The turns of the loop cost
four bytes each at least, so the loop ends on every buffer, at the first front that is no frame. -/
theorem drain_accounts (buffer : List UInt8) :
    (∀ f after, Leaves buffer f after ↔ f = front buffer ∧ after = left buffer) ∧
    (∀ texts last, Takes buffer texts last →
      4 * texts.length + last.length ≤ buffer.length) ∧
    ∃ last, Takes buffer (drain buffer).bodies last ∧ (∀ text rest, front last ≠ .body text rest) ∧
      (drain buffer).fault = (front last).fault? ∧ (drain buffer).rest = left last :=
  ⟨fun _ _ => leaves_iff, fun _ _ => Takes.length_le, exists_takes_drain buffer⟩

end CallHierarchy.Frame
